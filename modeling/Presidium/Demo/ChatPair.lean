import Presidium.Crypto.RatchetAgreement
import Presidium.Demo.Handshake

/-!
# The two sessions of one handshake

`ChatPair` is what an honest handshake fixes: the identities and device ids of
both sides, the conversation id, the PQXDH secret and the two ratchet keys.
`sessionWith` is the session of either side around a given ratchet, and
`envelopeAt` is envelope number `n` of a side.

`decrypt_envelopeOf` reduces `ChatSession::decrypt` of an honest envelope to
the ratchet: header and signature always pass.  From there the two sides part.
On the responder the comparison of the header key with the known peer key
triggers `dh_ratchet` exactly once.  On the initiator the known key is the
responder's from the start, so it never does, and `decrypt_initiator` is the
consequence: without `dh_ratchet` the initiator has no receiving chain.
-/

namespace Presidium

variable {B : Nat → Type}

structure ChatPair (B : Nat → Type) where
  identity : Side → IdentityKeyPair B
  deviceId : Side → String
  conversationId : String
  sharedSecret : B 32
  initiatorKey : B X25519_PRIVATE_KEY_SIZE
  responderKey : B X25519_PRIVATE_KEY_SIZE

namespace ChatPair

variable (P : Primitives B) (c : ChatPair B)

/-- The keys that the two ratchets start from. -/
def pairing : Pairing B :=
  { rootKey := ⟨P.hkdf .none [c.sharedSecret] "ROOT_KEY" ROOT_KEY_SIZE⟩
    initiatorKey := c.initiatorKey
    responderKey := c.responderKey
    sessionId _ := "presidium-session"
    associatedData _ := [] }

def peerIdentity (s : Side) : IdentityPublicKey B := (c.identity s.peer).publicKey P

/-- The session of a side around a ratchet. -/
def sessionWith (s : Side) (r : DoubleRatchet B) : ChatSession B :=
  { conversationId := c.conversationId
    peerIdentity := c.peerIdentity P s
    isInitiator := s == .first
    ratchet := r
    sessionKeys := SessionKeys.new P (s == .first) c.sharedSecret (c.peerIdentity P s) }

/-- The session that the handshake gives a side. -/
def start (s : Side) : ChatSession B := c.sessionWith P s ((c.pairing P).startOf P s)

section Honest

variable [Serde (HybridSignature B)] [Serde (RatchetMessageHeader B)]

/-- A ratchet message of a side in its signed envelope. -/
def envelopeOf (s : Side) (now : Int) (msg : Bytes × RatchetMessageHeader B) : NetworkEnvelope :=
  buildSignedEnvelope P (c.identity s) (c.deviceId s) KIND_DIRECT (asBytes c.conversationId)
    msg.1 msg.2 now

/-- Envelope number `n` of a side. -/
def envelopeAt (s : Side) (n : Nat) (text : Bytes) (now : Int) : Option NetworkEnvelope :=
  ((c.pairing P).messageAt P s n text).map (c.envelopeOf P s now)

variable {P} {c}

/-- `ChatSession::encrypt` moves the ratchet and seals its message. -/
theorem encrypt_sessionWith (s : Side) (r : DoubleRatchet B) (text : Bytes) (now : Int) :
    ((c.sessionWith P s r).encrypt P (c.identity s) (c.deviceId s) text now).state =
        c.sessionWith P s (r.encrypt P text).state ∧
      ((c.sessionWith P s r).encrypt P (c.identity s) (c.deviceId s) text now).result.toOption =
        (r.encrypt P text).result.toOption.map (c.envelopeOf P s now) := by
  have hratchet : (c.sessionWith P s r).ratchet = r := rfl
  unfold ChatSession.encrypt
  rw [hratchet]
  cases r.encrypt P text <;> exact ⟨rfl, rfl⟩

variable [LawfulSerde (HybridSignature B)] [LawfulSerde (RatchetMessageHeader B)]
  [DecidableEq (B X25519_PUBLIC_KEY_SIZE)]

/-- An honest envelope passes the header and signature checks of its
receiver. -/
theorem decrypt_envelopeOf (hsig : P.SignaturesVerify) (s : Side) (r : DoubleRatchet B)
    (now : Int) (msg : Bytes × RatchetMessageHeader B) :
    (c.sessionWith P s r).decrypt P (c.envelopeOf P s.peer now msg) =
      (c.sessionWith P s r).ratchetDecrypt P msg.2 msg.1 := by
  have hparse : parseHeader (c.envelopeOf P s.peer now msg).nonce = .ok msg.2 :=
    parseHeader_toVec msg.2
  have hverify : verifyEnvelope P (c.sessionWith P s r).peerIdentity
      (c.envelopeOf P s.peer now msg) = .ok true :=
    verifyEnvelope_buildRawEnvelope hsig (c.identity s.peer) _ _ _ _ _ _
  unfold ChatSession.decrypt
  simp only [hparse, hverify]
  rfl

/-! ## The responder -/

omit [Serde (HybridSignature B)] [Serde (RatchetMessageHeader B)]
  [LawfulSerde (HybridSignature B)] [LawfulSerde (RatchetMessageHeader B)] in
/-- The comparison with the known key runs `dh_ratchet` on the first message
and on no other. -/
theorem advance_responder (hdh : P.DhCommutes) (n k : Nat) {taken : List Nat}
    (hturn : taken ≠ [] ∨ n = 0) :
    ChatSession.advance P
        ((c.pairing P).responderAt P n (Window.empty.deliverAll taken) (!taken.isEmpty))
        ((c.pairing P).headerAt P .first k) =
      .ok () ((c.pairing P).responderAt P n (Window.empty.deliverAll taken) true) := by
  cases taken with
  | nil =>
    obtain rfl : n = 0 := hturn.resolve_left (by simp)
    exact (c.pairing P).dhRatchet_ratchetAt hdh .second (Or.inr rfl)
  | cons j taken =>
    -- the sending chain holds the key of the first message
    exact if_neg (not_not_intro rfl)

/-- The responder decrypts every envelope of the initiator that it did not
take before. -/
theorem decrypt_responder (hdh : P.DhCommutes) (haead : P.AeadRoundTrip)
    (hsig : P.SignaturesVerify) (n : Nat) {taken : List Nat} {k : Nat} {text : Bytes} {now : Int}
    {envelope : NetworkEnvelope} (hturn : taken ≠ [] ∨ n = 0)
    (hmsg : c.envelopeAt P .first k text now = some envelope) (hfresh : k ∉ taken)
    (hbound : ∀ j ∈ taken ++ [k], j + 1 < 2 ^ 64)
    (hlimit : ((Window.empty.deliverAll taken).deliver k).skipped.length ≤ MAX_SKIP_MESSAGES) :
    (c.sessionWith P .second ((c.pairing P).responderAt P n (Window.empty.deliverAll taken)
        (!taken.isEmpty))).decrypt P envelope =
      .ok text (c.sessionWith P .second ((c.pairing P).responderAt P n
        (Window.empty.deliverAll (taken ++ [k])) true)) := by
  obtain ⟨msg, hmessage, rfl⟩ := Option.map_eq_some_iff.mp hmsg
  have hheader : msg.2 = (c.pairing P).headerAt P .first k := by
    obtain ⟨ciphertext, -, rfl⟩ := Option.map_eq_some_iff.mp hmessage
    rfl
  have hdecrypt := (c.pairing P).decrypt_ratchetAt haead .second n hmessage hfresh hbound hlimit
  have hadvance := advance_responder (c := c) hdh n k hturn
  rw [← hheader] at hadvance
  rw [show Side.first = Side.second.peer from rfl, decrypt_envelopeOf hsig]
  exact ChatSession.ratchetDecrypt_ok hadvance hdecrypt

/-- The first envelope of the initiator of a pair opens at the responder. -/
theorem first_envelope_opens (hdh : P.DhCommutes) (haead : P.AeadRoundTrip)
    (hsig : P.SignaturesVerify) (c : ChatPair B) {text : Bytes} {now : Int}
    {envelope : NetworkEnvelope} {after : ChatSession B}
    (hencrypt : (c.start P .first).encrypt P (c.identity .first) (c.deviceId .first) text now =
      .ok envelope after) :
    ((c.start P .second).decrypt P envelope).result = .ok text := by
  obtain ⟨-, hsealed⟩ := encrypt_sessionWith (c := c) .first
    ((c.pairing P).startOf P .first) text now
  obtain ⟨-, hmessage⟩ := (c.pairing P).encrypt_ratchetAt hdh .first 0 Window.empty
    (Or.inl rfl) text
  rw [(c.pairing P).startOf_eq, hmessage, ← (c.pairing P).startOf_eq] at hsealed
  have henvelope : c.envelopeAt P .first 0 text now = some envelope := by
    rw [envelopeAt, ← hsealed]
    show ((c.start P .first).encrypt P _ _ text now).result.toOption = _
    rw [hencrypt]
    rfl
  have hfresh : 0 ∉ ([] : List Nat) := List.not_mem_nil
  have hopens := decrypt_responder hdh haead hsig 0 (Or.inr rfl) henvelope hfresh
    (by simp) (by decide)
  rw [start, (c.pairing P).startOf_eq]
  exact congrArg Outcome.result hopens

/-! ## The initiator -/

/-- The initiator knows the responder's key from the start, so it refuses every
envelope of the responder and stays as it is. -/
theorem decrypt_initiator (hsig : P.SignaturesVerify) (n k : Nat) {text : Bytes} {now : Int}
    {envelope : NetworkEnvelope} (hmsg : c.envelopeAt P .second k text now = some envelope) :
    (c.sessionWith P .first ((c.pairing P).initiatorAt P n Window.empty false)).decrypt P
        envelope =
      .error (.context "ratchet decrypt"
          (.crypto (.ratchetError "No receiving chain established")))
        (c.sessionWith P .first ((c.pairing P).initiatorAt P n Window.empty false)) := by
  obtain ⟨msg, hmessage, rfl⟩ := Option.map_eq_some_iff.mp hmsg
  obtain ⟨ciphertext, -, rfl⟩ := Option.map_eq_some_iff.mp hmessage
  rw [show Side.second = Side.first.peer from rfl, decrypt_envelopeOf hsig]
  have hknown : ChatSession.advance P ((c.pairing P).initiatorAt P n Window.empty false)
      ((c.pairing P).headerAt P .second k) =
      .ok () ((c.pairing P).initiatorAt P n Window.empty false) := if_neg (not_not_intro rfl)
  have hdecrypt : ((c.pairing P).initiatorAt P n Window.empty false).decrypt P ciphertext
      ((c.pairing P).headerAt P .second k) = _ :=
    DoubleRatchet.decrypt_noChain P rfl rfl ciphertext
  exact ChatSession.ratchetDecrypt_error hknown hdecrypt

end Honest
end ChatPair
end Presidium
