import Presidium.Crypto.Identity
import Presidium.Crypto.Ratchet

/-!
# PQXDH of `pqxdh.rs`, and the session keys of `keys.rs`

The initiator runs four or five hybrid KEM legs toward the keys of the peer
bundle, the responder undoes them in the same order, and both derive one
master secret from the legs.  The fifth leg exists when the bundle lists a
one-time prekey; the initiator takes the first one.

Each leg draws its own ML-KEM coins, which are the argument `Coins`.
-/

namespace Presidium

variable {B : Nat → Type}

/-- Key agreement output: shared secret and metadata. -/
structure PqxdhOutput (B : Nat → Type) where
  sharedSecret : B 32
  ephemeralPublic : HybridKemPublicKey B
  signedPrekeyId : UInt32
  oneTimePrekeyId : Option UInt32

structure PqxdhInitiatorKeys (B : Nat → Type) where
  identity : IdentityKeyPair B
  ephemeral : HybridKemPrivateKey B
  peerBundle : PreKeyBundle B

structure PqxdhResponderKeys (B : Nat → Type) where
  identity : IdentityKeyPair B
  signedPrekey : HybridKemPrivateKey B
  signedPrekeyId : UInt32
  oneTimePrekey : Option (HybridKemPrivateKey B)
  oneTimePrekeyId : Option UInt32

/-- One value per leg DH1 to DH4. -/
structure Legs (α : Type) where
  dh1 : α
  dh2 : α
  dh3 : α
  dh4 : α

/-- The initiator's pre-key message. -/
structure PqxdhPrekeyMessage (B : Nat → Type) where
  identityPublic : IdentityPublicKey B
  identityKemPublic : HybridKemPublicKey B
  ephemeralPublic : HybridKemPublicKey B
  /-- EK_A to SPK_B, IK_A to SPK_B, EK_A to IK_B, IK_A to IK_B. -/
  ciphertexts : Legs Bytes
  oneTimeCiphertext : Option Bytes
  signedPrekeyId : UInt32
  oneTimePrekeyId : Option UInt32

/-- The ML-KEM coins of the legs. -/
structure Coins (B : Nat → Type) extends Legs (B 32) where
  dh5 : B 32

section

variable (P : Primitives B)

def hybridDh (ourKey : HybridKemPrivateKey B) (peerPublic : HybridKemPublicKey B)
    (ciphertext : Option Bytes) : Except CryptoError (B 32) :=
  match ciphertext with
  | none => .error (.pqxdhError "Ciphertext required for decapsulation")
  | some ct => ourKey.decapsulate P ct peerPublic

def hybridEncaps (ourKey : HybridKemPrivateKey B) (peerPublic : HybridKemPublicKey B)
    (coins : B 32) : Except CryptoError (B 32 × Bytes) := do
  let (ciphertext, shared) ← ourKey.encapsulate P peerPublic coins
  return (shared, ciphertext)

/-- HKDF over the legs in their order; DH5 only when a one-time prekey was
used. -/
def deriveMasterSecret (dh1 dh2 dh3 dh4 : B 32) (dh5 : Option (B 32)) : B 32 :=
  P.hkdf .none ([dh1, dh2, dh3, dh4] ++ dh5.toList) "PQXDH-MASTER" 32

/-- Root key and chain key from the output. -/
def pqxdhDeriveKeys (output : PqxdhOutput B) : B ROOT_KEY_SIZE × B CHAIN_KEY_SIZE :=
  (P.hkdf .none [output.sharedSecret] "ROOT_KEY" ROOT_KEY_SIZE,
    P.hkdf .none [output.sharedSecret] "SENDING_CHAIN" CHAIN_KEY_SIZE)

/-- The fifth leg of the initiator: secret, ciphertext and prekey id. -/
def encapsOneTime (ephemeral : HybridKemPrivateKey B) (otpk : Option (OneTimePreKey B))
    (coins : B 32) : Except CryptoError (B 32 × Option Bytes × Option UInt32) :=
  match otpk with
  | some otpk => do
    let (dh5, ct5) ← hybridEncaps P ephemeral otpk.publicKey coins
    return (dh5, some ct5, some otpk.keyId)
  | none => .ok (P.zeros 32, none, none)

/-- Key agreement as the initiator. -/
def pqxdhInitiator (keys : PqxdhInitiatorKeys B) (coins : Coins B) :
    Except CryptoError (PqxdhOutput B × PqxdhPrekeyMessage B) := do
  let bundle := keys.peerBundle
  bundle.verify P
  let identityKem := keys.identity.kemSecret P
  let (dh1, ct1) ← hybridEncaps P keys.ephemeral bundle.signedPrekey.publicKey coins.dh1
  let (dh2, ct2) ← hybridEncaps P identityKem bundle.signedPrekey.publicKey coins.dh2
  let (dh3, ct3) ← hybridEncaps P keys.ephemeral bundle.identityKemPublic coins.dh3
  let (dh4, ct4) ← hybridEncaps P identityKem bundle.identityKemPublic coins.dh4
  let (dh5, ct5, dh5Id) ←
    encapsOneTime P keys.ephemeral bundle.oneTimePrekeys.head? coins.dh5
  let sharedSecret := deriveMasterSecret P dh1 dh2 dh3 dh4 (dh5Id.map fun _ => dh5)
  let ephemeralPublic := keys.ephemeral.publicKey P
  return (
    { sharedSecret
      ephemeralPublic
      signedPrekeyId := bundle.signedPrekey.keyId
      oneTimePrekeyId := dh5Id },
    { identityPublic := keys.identity.publicKey P
      identityKemPublic := identityKem.publicKey P
      ephemeralPublic
      ciphertexts := { dh1 := ct1, dh2 := ct2, dh3 := ct3, dh4 := ct4 }
      oneTimeCiphertext := ct5
      signedPrekeyId := bundle.signedPrekey.keyId
      oneTimePrekeyId := dh5Id })

/-- The one-time prekey that a message refers to. -/
def selectOneTimePrekey (keys : PqxdhResponderKeys B) (message : PqxdhPrekeyMessage B) :
    Except CryptoError (Option (HybridKemPrivateKey B)) :=
  match keys.oneTimePrekey, message.oneTimePrekeyId with
  | some opk, some id =>
    if some id = keys.oneTimePrekeyId then .ok (some opk)
    else .error (.pqxdhError "Unknown one-time prekey ID")
  | none, none => .ok none
  | _, _ => .error (.pqxdhError "Unknown one-time prekey ID")

/-- What is selected is the key that the responder holds.  The message names one
exactly when there is one, and by its id. -/
theorem selectOneTimePrekey_eq_ok {keys : PqxdhResponderKeys B} {message : PqxdhPrekeyMessage B}
    {oneTimePrekey : Option (HybridKemPrivateKey B)} :
    selectOneTimePrekey keys message = .ok oneTimePrekey ↔
      oneTimePrekey = keys.oneTimePrekey ∧
        oneTimePrekey.isSome = message.oneTimePrekeyId.isSome ∧
        (oneTimePrekey.isSome → message.oneTimePrekeyId = keys.oneTimePrekeyId) := by
  unfold selectOneTimePrekey
  cases keys.oneTimePrekey with
  | none => cases message.oneTimePrekeyId <;> cases oneTimePrekey <;> simp
  | some opk =>
    cases message.oneTimePrekeyId with
    | none => cases oneTimePrekey <;> simp
    | some id =>
      by_cases hid : some id = keys.oneTimePrekeyId
      · rw [← hid]
        cases oneTimePrekey with
        | none => simp
        | some key => simpa using eq_comm
      · cases oneTimePrekey <;> simp [hid]

/-- The fifth leg of the responder.  A missing ciphertext drops the leg. -/
def decapsOneTime (oneTimePrekey : Option (HybridKemPrivateKey B))
    (message : PqxdhPrekeyMessage B) : Except CryptoError (Option (B 32)) :=
  match oneTimePrekey, message.oneTimeCiphertext with
  | some opk, some ct => do
    let dh5 ← hybridDh P opk message.ephemeralPublic (some ct)
    return some dh5
  | _, _ => .ok none

/-- Key agreement as the responder. -/
def pqxdhResponder (keys : PqxdhResponderKeys B) (message : PqxdhPrekeyMessage B) :
    Except CryptoError (PqxdhOutput B) :=
  if message.signedPrekeyId ≠ keys.signedPrekeyId then
    .error (.pqxdhError "Unknown signed prekey ID")
  else do
    let oneTimePrekey ← selectOneTimePrekey keys message
    let identityKem := keys.identity.kemSecret P
    let dh1 ← hybridDh P keys.signedPrekey message.ephemeralPublic (some message.ciphertexts.dh1)
    let dh2 ← hybridDh P keys.signedPrekey message.identityKemPublic
      (some message.ciphertexts.dh2)
    let dh3 ← hybridDh P identityKem message.ephemeralPublic (some message.ciphertexts.dh3)
    let dh4 ← hybridDh P identityKem message.identityKemPublic (some message.ciphertexts.dh4)
    let dh5 ← decapsOneTime P oneTimePrekey message
    return {
      sharedSecret := deriveMasterSecret P dh1 dh2 dh3 dh4 dh5
      ephemeralPublic := message.ephemeralPublic
      signedPrekeyId := message.signedPrekeyId
      oneTimePrekeyId := message.oneTimePrekeyId }

/-! ## What a successful run consists of -/

/-- The steps of a successful `pqxdhInitiator`. -/
structure InitiatorRun (keys : PqxdhInitiatorKeys B) (coins : Coins B) (shared : Legs (B 32))
    (ciphertexts : Legs Bytes) (dh5 : B 32) (ct5 : Option Bytes) (dh5Id : Option UInt32) :
    Prop where
  verified : keys.peerBundle.verify P = .ok ()
  leg1 : hybridEncaps P keys.ephemeral keys.peerBundle.signedPrekey.publicKey coins.dh1 =
    .ok (shared.dh1, ciphertexts.dh1)
  leg2 : hybridEncaps P (keys.identity.kemSecret P) keys.peerBundle.signedPrekey.publicKey
    coins.dh2 = .ok (shared.dh2, ciphertexts.dh2)
  leg3 : hybridEncaps P keys.ephemeral keys.peerBundle.identityKemPublic coins.dh3 =
    .ok (shared.dh3, ciphertexts.dh3)
  leg4 : hybridEncaps P (keys.identity.kemSecret P) keys.peerBundle.identityKemPublic coins.dh4 =
    .ok (shared.dh4, ciphertexts.dh4)
  leg5 : encapsOneTime P keys.ephemeral keys.peerBundle.oneTimePrekeys.head? coins.dh5 =
    .ok (dh5, ct5, dh5Id)

/-- The output of the initiator for given legs. -/
def initiatorOutput (keys : PqxdhInitiatorKeys B) (shared : Legs (B 32)) (dh5 : B 32)
    (dh5Id : Option UInt32) : PqxdhOutput B :=
  { sharedSecret := deriveMasterSecret P shared.dh1 shared.dh2 shared.dh3 shared.dh4
      (dh5Id.map fun _ => dh5)
    ephemeralPublic := keys.ephemeral.publicKey P
    signedPrekeyId := keys.peerBundle.signedPrekey.keyId
    oneTimePrekeyId := dh5Id }

/-- The message of the initiator for given ciphertexts. -/
def initiatorMessage (keys : PqxdhInitiatorKeys B) (ciphertexts : Legs Bytes)
    (ct5 : Option Bytes) (dh5Id : Option UInt32) : PqxdhPrekeyMessage B :=
  { identityPublic := keys.identity.publicKey P
    identityKemPublic := (keys.identity.kemSecret P).publicKey P
    ephemeralPublic := keys.ephemeral.publicKey P
    ciphertexts
    oneTimeCiphertext := ct5
    signedPrekeyId := keys.peerBundle.signedPrekey.keyId
    oneTimePrekeyId := dh5Id }

/-- The steps of a successful `pqxdhResponder`. -/
structure ResponderRun (keys : PqxdhResponderKeys B) (message : PqxdhPrekeyMessage B)
    (oneTimePrekey : Option (HybridKemPrivateKey B)) (shared : Legs (B 32))
    (dh5 : Option (B 32)) : Prop where
  known : message.signedPrekeyId = keys.signedPrekeyId
  selected : selectOneTimePrekey keys message = .ok oneTimePrekey
  leg1 : hybridDh P keys.signedPrekey message.ephemeralPublic (some message.ciphertexts.dh1) =
    .ok shared.dh1
  leg2 : hybridDh P keys.signedPrekey message.identityKemPublic (some message.ciphertexts.dh2) =
    .ok shared.dh2
  leg3 : hybridDh P (keys.identity.kemSecret P) message.ephemeralPublic
    (some message.ciphertexts.dh3) = .ok shared.dh3
  leg4 : hybridDh P (keys.identity.kemSecret P) message.identityKemPublic
    (some message.ciphertexts.dh4) = .ok shared.dh4
  leg5 : decapsOneTime P oneTimePrekey message = .ok dh5

/-- The output of the responder for given legs. -/
def responderOutput (message : PqxdhPrekeyMessage B) (shared : Legs (B 32))
    (dh5 : Option (B 32)) : PqxdhOutput B :=
  { sharedSecret := deriveMasterSecret P shared.dh1 shared.dh2 shared.dh3 shared.dh4 dh5
    ephemeralPublic := message.ephemeralPublic
    signedPrekeyId := message.signedPrekeyId
    oneTimePrekeyId := message.oneTimePrekeyId }

theorem pqxdhInitiator_eq_ok {keys : PqxdhInitiatorKeys B} {coins : Coins B}
    {output : PqxdhOutput B} {message : PqxdhPrekeyMessage B} :
    pqxdhInitiator P keys coins = .ok (output, message) ↔
      ∃ shared ciphertexts dh5 ct5 dh5Id,
        InitiatorRun P keys coins shared ciphertexts dh5 ct5 dh5Id ∧
          output = initiatorOutput P keys shared dh5 dh5Id ∧
          message = initiatorMessage P keys ciphertexts ct5 dh5Id := by
  unfold pqxdhInitiator
  simp only [Except.bind_eq_ok, Prod.exists]
  constructor
  · rintro ⟨_, hverify, dh1, ct1, h1, dh2, ct2, h2, dh3, ct3, h3, dh4, ct4, h4, dh5, ct5, dh5Id,
      h5, hout⟩
    obtain ⟨rfl, rfl⟩ := Prod.mk.inj (Except.ok.inj hout)
    exact ⟨⟨dh1, dh2, dh3, dh4⟩, ⟨ct1, ct2, ct3, ct4⟩, dh5, ct5, dh5Id,
      ⟨hverify, h1, h2, h3, h4, h5⟩, rfl, rfl⟩
  · rintro ⟨shared, ciphertexts, dh5, ct5, dh5Id, h, rfl, rfl⟩
    exact ⟨(), h.verified, _, _, h.leg1, _, _, h.leg2, _, _, h.leg3, _, _, h.leg4, _, _, _, h.leg5,
      rfl⟩

theorem pqxdhResponder_eq_ok {keys : PqxdhResponderKeys B} {message : PqxdhPrekeyMessage B}
    {output : PqxdhOutput B} :
    pqxdhResponder P keys message = .ok output ↔
      ∃ oneTimePrekey shared dh5, ResponderRun P keys message oneTimePrekey shared dh5 ∧
        output = responderOutput P message shared dh5 := by
  unfold pqxdhResponder
  by_cases hknown : message.signedPrekeyId = keys.signedPrekeyId
  · rw [if_neg (not_not_intro hknown)]
    simp only [Except.bind_eq_ok]
    constructor
    · rintro ⟨oneTimePrekey, hselect, dh1, h1, dh2, h2, dh3, h3, dh4, h4, dh5, h5, hout⟩
      obtain rfl := Except.ok.inj hout
      exact ⟨oneTimePrekey, ⟨dh1, dh2, dh3, dh4⟩, dh5, ⟨hknown, hselect, h1, h2, h3, h4, h5⟩, rfl⟩
    · rintro ⟨oneTimePrekey, shared, dh5, h, rfl⟩
      exact ⟨_, h.selected, _, h.leg1, _, h.leg2, _, h.leg3, _, h.leg4, _, h.leg5, rfl⟩
  · rw [if_pos hknown]
    constructor
    · intro h
      cases h
    · rintro ⟨_, _, _, h, -⟩
      exact absurd h.known hknown

end

/-! ## Session keys -/

/-- Long-lived session keys for a conversation. -/
structure SessionKeys (B : Nat → Type) where
  isInitiator : Bool
  rootKey : B ROOT_KEY_SIZE
  sendingChain : B CHAIN_KEY_SIZE
  receivingChain : B CHAIN_KEY_SIZE
  peerIdentity : IdentityPublicKey B
  messageCount : UInt64

namespace SessionKeys

variable (P : Primitives B)

/-- Session keys from a PQXDH shared secret. -/
def new (isInitiator : Bool) (sharedSecret : B 32) (peerIdentity : IdentityPublicKey B) :
    SessionKeys B :=
  { isInitiator
    rootKey := P.hkdf .none [sharedSecret] "ROOT_KEY" ROOT_KEY_SIZE
    sendingChain := P.hkdf .none [sharedSecret] "SENDING_CHAIN" CHAIN_KEY_SIZE
    receivingChain := P.hkdf .none [sharedSecret] "RECEIVING_CHAIN" CHAIN_KEY_SIZE
    peerIdentity
    messageCount := 0 }

/-- A Double Ratchet from these keys.  Only the root key goes into it. -/
def toRatchet (keys : SessionKeys B) (ourDhKey : B X25519_PRIVATE_KEY_SIZE)
    (peerDhPublic : Option (B X25519_PUBLIC_KEY_SIZE)) :
    Except CryptoError (DoubleRatchet B) :=
  if keys.isInitiator then
    match peerDhPublic with
    | none => .error (.invalidParameter "Peer ratchet public key required")
    | some peer => .ok (.init P "presidium-session" ⟨keys.rootKey⟩ ourDhKey peer [])
  else
    .ok (.initAsResponder "presidium-session" ⟨keys.rootKey⟩ ourDhKey [])

end SessionKeys
end Presidium
