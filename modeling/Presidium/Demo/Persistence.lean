import Presidium.Crypto.RatchetRuns
import Presidium.Demo.SessionRuns
import Presidium.Demo.SymbolicJson

/-!
# Persisting a session is transparent

The `sessions` row keeps the session keys and a snapshot of the ratchet.  The
peer identity, the session id and the associated data are not in the snapshot:
`resume` takes the first from the session keys and the other two from
constants.  `Restorable` says that the session has just these values.  A
session has them when the handshake hands it over, and no call changes them.
-/

namespace Presidium

variable {B : Nat → Type}

namespace ChatSession

/-- The session stands on the values that `resume` fills in. -/
structure Restorable (s : ChatSession B) : Prop where
  peerIdentity : s.sessionKeys.peerIdentity = s.peerIdentity
  sessionId : s.ratchet.sessionId = SESSION_ID
  associatedData : s.ratchet.associatedData = []

/-- The sessions that a handshake hands over. -/
inductive FromHandshake (P : Primitives B) [Serde (PqxdhPrekeyMessage B)] : ChatSession B → Prop
  | initiator (h : InitiatorHandshake B) (ratchetPublic : Bytes)
      (ourRatchet : B X25519_PRIVATE_KEY_SIZE) {h' : InitiatorHandshake B} {s : ChatSession B}
      (hrun : h.establish P ratchetPublic ourRatchet = .ok s h') : FromHandshake P s
  | responder (h : ResponderHandshake B) (body : Bytes) (conversationId : String)
      (ourRatchet : B X25519_PRIVATE_KEY_SIZE) {h' : ResponderHandshake B}
      {ratchetPublic : B X25519_PUBLIC_KEY_SIZE} {s : ChatSession B}
      (hrun : h.onPrekey P body conversationId ourRatchet = .ok (ratchetPublic, s) h') :
      FromHandshake P s

theorem FromHandshake.restorable {P : Primitives B} [Serde (PqxdhPrekeyMessage B)]
    {s : ChatSession B} (h : FromHandshake P s) : s.Restorable := by
  cases h with
  | initiator h ratchetPublic ourRatchet hrun =>
    obtain ⟨_, _, _, _, _, _, _, rfl⟩ := InitiatorHandshake.establish_eq_ok hrun
    exact ⟨rfl, rfl, rfl⟩
  | responder h body conversationId ourRatchet hrun =>
    obtain ⟨_, _, _, _, _, rfl⟩ := ResponderHandshake.onPrekey_eq_ok hrun
    exact ⟨rfl, rfl, rfl⟩

section Runs

variable {P : Primitives B} [Serde (HybridSignature B)] [Serde (RatchetMessageHeader B)]
  [DecidableEq (B X25519_PUBLIC_KEY_SIZE)]

omit [Serde (HybridSignature B)] in
theorem sameLabels_ratchetDecrypt (s : ChatSession B) (header : RatchetMessageHeader B)
    (payload : Bytes) :
    ∃ r, (s.ratchetDecrypt P header payload).state = { s with ratchet := r } ∧
      s.ratchet.SameLabels r := by
  have hadvance : s.ratchet.SameLabels (advance P s.ratchet header).state := by
    unfold advance
    split
    · exact DoubleRatchet.sameLabels_dhRatchet _ _
    · exact ⟨rfl, rfl⟩
  cases hrun : advance P s.ratchet header with
  | error e r =>
    rw [hrun] at hadvance
    refine ⟨r, ?_, hadvance⟩
    unfold ratchetDecrypt
    rw [hrun]
    rfl
  | ok u r =>
    rw [hrun] at hadvance
    rw [ratchetDecrypt_state hrun]
    have hdecrypt := DoubleRatchet.sameLabels_decrypt (P := P) r payload header
    exact ⟨_, rfl, hdecrypt.1.trans hadvance.1, hdecrypt.2.trans hadvance.2⟩

/-- A call changes the ratchet only, and not its labels. -/
theorem apply_eq (s : ChatSession B) (op : ChatOp B) :
    ∃ r, s.apply P op = { s with ratchet := r } ∧ s.ratchet.SameLabels r := by
  cases op with
  | encrypt identity deviceId plaintext now =>
    exact ⟨_, encrypt_state s identity deviceId plaintext now,
      DoubleRatchet.sameLabels_encrypt s.ratchet plaintext⟩
  | decrypt envelope =>
    unfold apply
    rcases decrypt_cases (P := P) s envelope with ⟨⟨e, hrefused⟩, -⟩ | ⟨header, -, -, htaken⟩
    · exact ⟨s.ratchet, congrArg Outcome.state hrefused, rfl, rfl⟩
    · obtain ⟨r, hstate, hlabels⟩ :=
        sameLabels_ratchetDecrypt (P := P) s header envelope.encryptedPayload
      exact ⟨r, (congrArg Outcome.state htaken).trans hstate, hlabels⟩

theorem Restorable.apply {s : ChatSession B} (h : s.Restorable) (op : ChatOp B) :
    (s.apply P op).Restorable := by
  obtain ⟨r, hrun, hid, hdata⟩ := apply_eq (P := P) s op
  rw [hrun]
  exact ⟨h.peerIdentity, hid.trans h.sessionId, hdata.trans h.associatedData⟩

theorem Restorable.run {s : ChatSession B} (h : s.Restorable) (ops : List (ChatOp B)) :
    ((machine P).run s ops).Restorable := by
  induction ops generalizing s with
  | nil => exact h
  | cons op ops ih => exact ih (h.apply op)

/-- What a call returns. -/
inductive Answer where
  | sealed (result : Except AppError NetworkEnvelope)
  | opened (result : Except AppError Bytes)

variable (P) in
def answers (s : ChatSession B) : ChatOp B → List Answer
  | .encrypt identity deviceId plaintext now =>
    [.sealed (s.encrypt P identity deviceId plaintext now).result]
  | .decrypt envelope => [.opened (s.decrypt P envelope).result]

end Runs

section Resume

variable [Serde (SessionKeys B)] [Serde (RatchetSnapshot B)] [LawfulSerde (SessionKeys B)]
  [LawfulSerde (RatchetSnapshot B)]

theorem Restorable.resume_persist {s : ChatSession B} (h : s.Restorable) {db db' : Database}
    {now : Int} (hpersist : s.persist db now = .ok db') :
    resume db' s.conversationId = .ok (some s) := by
  rw [Presidium.resume_persist hpersist]
  obtain ⟨conversationId, peerIdentity, isInitiator, ratchet, keys⟩ := s
  obtain ⟨root, sending, receiving, id, data⟩ := ratchet
  obtain ⟨hpeer, hid, hdata⟩ := h
  simp only at hpeer hid hdata
  rw [hpeer, hid, hdata]

end Resume

end ChatSession

/-- Whatever calls a session has gone through since the handshake, `resume` gives
back the session that `persist` wrote, and the two answer every later call alike.
`to_ratchet` takes exactly the snapshots without an index that lacks its key, and
`from_ratchet` undoes it. -/
theorem persistence_transparent (P : Primitives B) [Serde (HybridSignature B)]
    [Serde (RatchetMessageHeader B)] [Serde (PqxdhPrekeyMessage B)]
    [DecidableEq (B X25519_PUBLIC_KEY_SIZE)] [Serde (SessionKeys B)] [Serde (RatchetSnapshot B)]
    [LawfulSerde (SessionKeys B)] [LawfulSerde (RatchetSnapshot B)] :
    (∀ (s₀ s : ChatSession B) (ops : List (ChatOp B)) (db db' : Database) (now : Int),
      ChatSession.FromHandshake P s₀ → s = (ChatSession.machine P).run s₀ ops →
      s.persist db now = .ok db' →
        ∃ s' : ChatSession B, resume db' s.conversationId = .ok (some s') ∧ s' = s ∧
          ∀ later : List (ChatOp B),
            (ChatSession.machine P).trace (ChatSession.answers P) s' later =
                (ChatSession.machine P).trace (ChatSession.answers P) s later ∧
              (ChatSession.machine P).run s' later = (ChatSession.machine P).run s later) ∧
      ∀ (snapshot : RatchetSnapshot B) (sessionId : String) (associatedData : Bytes),
        ((∃ r, snapshot.toRatchet sessionId associatedData = .ok r) ↔ snapshot.Keyed) ∧
          ∀ r, snapshot.toRatchet sessionId associatedData = .ok r →
            RatchetSnapshot.fromRatchet r = snapshot := by
  refine ⟨?_, ?_⟩
  · intro s₀ s ops db db' now hstart hs hpersist
    have hrestorable : s.Restorable := by
      rw [hs]
      exact hstart.restorable.run ops
    exact ⟨s, hrestorable.resume_persist hpersist, rfl, fun later => ⟨rfl, rfl⟩⟩
  · intro snapshot sessionId associatedData
    exact ⟨snapshot.exists_toRatchet_iff sessionId associatedData,
      fun r h => RatchetSnapshot.fromRatchet_toRatchet h⟩

namespace Sym

/-- An initiator that waits for the responder's ratchet key. -/
def waitingInitiator : InitiatorHandshake Sym :=
  { identity := alice
    deviceId := "a1"
    peer := [9]
    peerIdentity := some (alice.publicKey primitives)
    pending := some
      { sharedSecret := [1]
        ephemeralPublic := HybridKemPrivateKey.publicKey primitives ⟨[4], [5]⟩
        signedPrekeyId := 1
        oneTimePrekeyId := none } }

/-- The session that it builds then. -/
def handedOver : ChatSession Sym :=
  { conversationId := "a1"
    peerIdentity := alice.publicKey primitives
    isInitiator := true
    ratchet := .init primitives SESSION_ID
      ⟨(SessionKeys.new primitives true [1] (alice.publicKey primitives)).rootKey⟩ [2]
      (primitives.x25519Public [3]) []
    sessionKeys := .new primitives true [1] (alice.publicKey primitives) }

/-- A line that goes out and an envelope that is refused. -/
def mixedCalls : List (ChatOp Sym) :=
  [.encrypt alice "a1" [7] 20,
    .decrypt (syncEnvelope primitives alice "a1" MARKER_BUNDLE_REQ [] 20)]

end Sym

/-- A session that has sent a line and refused an envelope comes back from the
database as it was. -/
theorem persistence_transparent_mixed :
    ∃ s db' s', s = (ChatSession.machine Sym.primitives).run Sym.handedOver Sym.mixedCalls ∧
      s.persist Sym.conversationDb 30 = .ok db' ∧
      resume db' s.conversationId = .ok (some s') ∧ s' = s := by
  have hstart : ChatSession.FromHandshake Sym.primitives Sym.handedOver :=
    .initiator Sym.waitingInitiator (Sym.primitives.x25519Public [3]) [2] rfl
  set s := (ChatSession.machine Sym.primitives).run Sym.handedOver Sym.mixedCalls with hs
  have hpersist : ∃ db', s.persist Sym.conversationDb 30 = .ok db' := ⟨_, rfl⟩
  obtain ⟨db', hdb'⟩ := hpersist
  obtain ⟨s', hresume, heq, -⟩ :=
    (persistence_transparent Sym.primitives).1 _ s _ _ _ _ hstart hs hdb'
  exact ⟨s, db', s', rfl, hdb', hresume, heq⟩

end Presidium
