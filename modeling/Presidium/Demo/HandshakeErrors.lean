import Presidium.Demo.Arms
import Presidium.Demo.SymbolicJson

/-!
# Handshake calls that fail

A peer that is not to be trusted decides when `send_prekey`, `on_prekey` and
`establish` are called and with what.  Each of them writes to its driver before
its last check.

* `establish` takes the pending output before it looks at the ratchet key.
* `send_prekey` sets the peer identity when the bundle has verified.  The key
  agreement behind that fails on a key that is no ML-KEM key, and the node may
  be gone by the time the message is ready.
* `on_prekey` sets the peer identity when the message has parsed, before the
  key agreement.

`handshake_calls_clean_iff` says on which inputs an error leaves the driver as
it was.
-/

namespace Presidium

variable {B : Nat → Type} {σ α : Type}

/-- An error that a call returns leaves the driver as it was.  A panic does not
return. -/
def LeavesDriver (driver : σ) : Outcome AppError σ α → Prop
  | .ok _ _ => True
  | .error (.panic _) _ => True
  | .error _ after => after = driver

section Leaves

variable (driver after : σ)

@[simp] theorem leavesDriver_ok (a : α) :
    LeavesDriver driver (.ok a after : Outcome AppError σ α) := trivial

@[simp] theorem leavesDriver_panic (text : String) :
    LeavesDriver driver (.error (.panic text) after : Outcome AppError σ α) := trivial

@[simp] theorem leavesDriver_message (text : String) :
    LeavesDriver driver (.error (.message text) after : Outcome AppError σ α) ↔
      after = driver := Iff.rfl

@[simp] theorem leavesDriver_context (text : String) (e : AppError) :
    LeavesDriver driver (.error (.context text e) after : Outcome AppError σ α) ↔
      after = driver := Iff.rfl

end Leaves

/-! ## Initiator -/

namespace InitiatorHandshake

variable (P : Primitives B)

/-- There is no pending output to lose, or the call goes through: the identity
of the peer is known and the bytes are a ratchet key. -/
def EstablishClean (h : InitiatorHandshake B) (ratchetPublic : Bytes) : Prop :=
  h.pending = none ∨ h.peerIdentity.isSome ∧ (P.tryFrom 32 ratchetPublic).isSome

theorem leavesDriver_establish_iff (h : InitiatorHandshake B) (ratchetPublic : Bytes)
    (ourRatchet : B X25519_PRIVATE_KEY_SIZE) :
    LeavesDriver h (h.establish P ratchetPublic ourRatchet) ↔
      h.EstablishClean P ratchetPublic := by
  obtain ⟨identity, deviceId, peer, peerIdentity, pending⟩ := h
  unfold establish EstablishClean
  cases pending with
  | none => simp
  | some output =>
    cases peerIdentity with
    | none => simp
    | some peerIdentity =>
      simp only
      cases hpublic : P.tryFrom 32 ratchetPublic with
      | none => simp
      | some peerPublic => exact iff_of_true trivial (Or.inr ⟨rfl, rfl⟩)

variable [Serde (HybridSignature B)] [Serde (PqxdhPrekeyMessage B)]

/-- `send_prekey` with its last step, which hands the message to the node. -/
def sendPrekeyTo (node : P2pNode) (h : InitiatorHandshake B) (bundle : PreKeyBundle B)
    (drawn : HybridKemPrivateKey B) (coins : Coins B) (now : Int) :
    Outcome AppError (InitiatorHandshake B) Unit :=
  match h.sendPrekey P bundle drawn coins now with
  | .error e h => .error e h
  | .ok _ h =>
    if node.running then .ok () h
    else .error (.context "send prekey message" .notRunning) h

omit [Serde (HybridSignature B)] [Serde (PqxdhPrekeyMessage B)]

/-- The bundle is refused at once, or the call goes through, or the driver
already holds what the call writes to it. -/
def SendPrekeyClean (node : P2pNode) (h : InitiatorHandshake B) (bundle : PreKeyBundle B)
    (drawn : HybridKemPrivateKey B) (coins : Coins B) : Prop :=
  bundle.verify P ≠ .ok () ∨
    node.running ∧ (∃ out, pqxdhInitiator P ⟨h.identity, drawn, bundle⟩ coins = .ok out) ∨
    h.peerIdentity = some bundle.identityKey ∧
      ∀ output message, pqxdhInitiator P ⟨h.identity, drawn, bundle⟩ coins =
        .ok (output, message) → h.pending = some output

theorem with_peerIdentity_eq_self (h : InitiatorHandshake B) (peer : IdentityPublicKey B) :
    { h with peerIdentity := some peer } = h ↔ h.peerIdentity = some peer := by
  obtain ⟨identity, deviceId, peerId, peerIdentity, pending⟩ := h
  simp [eq_comm]

theorem with_both_eq_self (h : InitiatorHandshake B) (peer : IdentityPublicKey B)
    (output : PqxdhOutput B) :
    { h with peerIdentity := some peer, pending := some output } = h ↔
      h.peerIdentity = some peer ∧ h.pending = some output := by
  obtain ⟨identity, deviceId, peerId, peerIdentity, pending⟩ := h
  simp [eq_comm]

variable [Serde (HybridSignature B)] [Serde (PqxdhPrekeyMessage B)]

theorem leavesDriver_sendPrekeyTo_iff (node : P2pNode) (h : InitiatorHandshake B)
    (bundle : PreKeyBundle B) (drawn : HybridKemPrivateKey B) (coins : Coins B) (now : Int) :
    LeavesDriver h (h.sendPrekeyTo P node bundle drawn coins now) ↔
      h.SendPrekeyClean P node bundle drawn coins := by
  unfold sendPrekeyTo SendPrekeyClean
  rcases h.sendPrekey_cases (P := P) bundle drawn coins now with
    ⟨e, hverify, hrun⟩ | ⟨hverify, ⟨e, hpqxdh, hrun⟩ | ⟨output, message, out, hpqxdh, hrun⟩⟩
  · simp [hrun, hverify]
  · simp [hrun, hverify, hpqxdh, with_peerIdentity_eq_self]
  · cases hrunning : node.running with
    | true => simp [hrun, hpqxdh]
    | false => simp [hrun, hverify, hpqxdh, with_both_eq_self]

end InitiatorHandshake

/-! ## Responder -/

namespace ResponderHandshake

variable (P : Primitives B) [Serde (PqxdhPrekeyMessage B)]

/-- A message that parses goes through, unless the driver already holds its
identity. -/
def OnPrekeyClean (h : ResponderHandshake B) (body : Bytes) : Prop :=
  ∀ message signedPrekey, Serde.fromSlice body = some message →
    h.prekey.privateKey P = .ok signedPrekey →
    h.peerIdentity = some message.identityPublic ∨
      ∃ output, pqxdhResponder P ⟨h.identity, signedPrekey, h.prekey.keyId, none, none⟩ message =
        .ok output

omit [Serde (PqxdhPrekeyMessage B)] in
/-- The stored seed either has the right size, or the call panics. -/
theorem panic_of_privateKey_error {prekey : PrekeyMaterial B} {e : AppError}
    (h : prekey.privateKey P = .error e) : ∃ text, e = .panic text := by
  unfold PrekeyMaterial.privateKey at h
  split at h
  next =>
    cases h
    exact ⟨_, rfl⟩
  next => cases h

theorem leavesDriver_onPrekey_iff (h : ResponderHandshake B) (body : Bytes)
    (conversationId : String) (ourRatchet : B X25519_PRIVATE_KEY_SIZE) :
    LeavesDriver h (h.onPrekey P body conversationId ourRatchet) ↔ h.OnPrekeyClean P body := by
  obtain ⟨identity, prekey, peerIdentity⟩ := h
  unfold onPrekey OnPrekeyClean
  cases hparse : (Serde.fromSlice body : Option (PqxdhPrekeyMessage B)) with
  | none => simp
  | some message =>
    cases hprekey : prekey.privateKey P with
    | error e =>
      obtain ⟨text, rfl⟩ := panic_of_privateKey_error P hprekey
      simp [hprekey]
    | ok signedPrekey =>
      cases hpqxdh : pqxdhResponder P ⟨identity, signedPrekey, prekey.keyId, none, none⟩
          message with
      | error e => simp [hprekey, hpqxdh, eq_comm]
      | ok output =>
        simp only [hprekey, hpqxdh]
        refine iff_of_true trivial ?_
        rintro _ _ hmessage hkey
        cases hmessage
        cases hkey
        exact Or.inr ⟨output, hpqxdh⟩

end ResponderHandshake

/-! ## The calls in the application -/

section Calls

variable {P : Primitives B} [Serde (HybridSignature B)] [Serde (PqxdhPrekeyMessage B)]

/-- On which inputs a call of a handshake driver that returns an error leaves
the driver exactly as it was, so that the next call does what it would have
done without it. -/
theorem handshake_calls_clean_iff :
    (∀ (h : InitiatorHandshake B) (ratchetPublic : Bytes)
        (ourRatchet : B X25519_PRIVATE_KEY_SIZE),
      LeavesDriver h (h.establish P ratchetPublic ourRatchet) ↔
        h.EstablishClean P ratchetPublic) ∧
      (∀ (node : P2pNode) (h : InitiatorHandshake B) (bundle : PreKeyBundle B)
          (drawn : HybridKemPrivateKey B) (coins : Coins B) (now : Int),
        LeavesDriver h (h.sendPrekeyTo P node bundle drawn coins now) ↔
          h.SendPrekeyClean P node bundle drawn coins) ∧
      ∀ (h : ResponderHandshake B) (body : Bytes) (conversationId : String)
          (ourRatchet : B X25519_PRIVATE_KEY_SIZE),
        LeavesDriver h (h.onPrekey P body conversationId ourRatchet) ↔
          h.OnPrekeyClean P body :=
  ⟨fun h => h.leavesDriver_establish_iff P,
    fun node h => h.leavesDriver_sendPrekeyTo_iff P node,
    fun h => h.leavesDriver_onPrekey_iff P⟩

end Calls

/-! ## Three hostile messages -/

namespace Sym

/-- The symbolic primitives with arrays that have to have their size. -/
def sized : Primitives Sym :=
  { primitives with tryFrom := fun n bytes => if bytes.length = n then some bytes else none }

def runningNode : P2pNode := { running := true, sent := [] }

/-- An initiator that has answered the bundle of the responder. -/
def waitingDriver : InitiatorHandshake Sym :=
  Outcome.state ((InitiatorHandshake.new alice "a1" [9]).sendPrekeyTo sized runningNode
    (.new sized responderKeys.identity signedPrekey []) ephemeral coins 8)

/-- The ratchet key that the responder sends. -/
def genuineRatchetKey : Bytes := sized.x25519Public (List.replicate 31 60)

def hostileIdentity : IdentityKeyPair Sym := { classical := [92], pq := [93] }

/-- A bundle that verifies, with a signed prekey that is no ML-KEM key. -/
def hostileBundle : PreKeyBundle Sym :=
  .new sized hostileIdentity
    { signedPrekey with publicKey := { classical := [4, 42], pq := [] } } []

/-- A responder before its first handshake. -/
def waitingResponder : ResponderHandshake Sym :=
  .new responderKeys.identity (.generate sized responderKeys.identity
    { classical := [42], pq := List.replicate ML_KEM_1024_PRIVATE_KEY_SIZE 43 } 7)

theorem privateKey_waitingResponder :
    waitingResponder.prekey.privateKey sized =
      .ok { classical := [42], pq := List.replicate ML_KEM_1024_PRIVATE_KEY_SIZE 43 } := by
  have hsize : ∀ n (b : UInt8),
      sized.tryFrom n (List.replicate n b) = some (List.replicate n b) := fun n b =>
    if_pos List.length_replicate
  have hseed : waitingResponder.prekey.privatePq =
      List.replicate ML_KEM_1024_PRIVATE_KEY_SIZE 43 := rfl
  unfold PrekeyMaterial.privateKey
  rw [hseed, hsize]
  rfl

/-- A prekey message for a signed prekey that the responder does not have. -/
def hostilePrekeyMessage : PqxdhPrekeyMessage Sym :=
  { identityPublic := hostileIdentity.publicKey sized
    identityKemPublic := hostileIdentity.kemPublic sized
    ephemeralPublic := ephemeral.publicKey sized
    ciphertexts := { dh1 := [], dh2 := [], dh3 := [], dh4 := [] }
    oneTimeCiphertext := none
    signedPrekeyId := 99
    oneTimePrekeyId := none }

end Sym

open Outcome (state) in
/-- No byte at all instead of a ratchet key, and the genuine key is refused.  A
bundle without an ML-KEM key, and the session with the responder goes under the
hostile identity.  A prekey message that is refused leaves its identity. -/
theorem hostile_messages_leave_traces :
    (¬ LeavesDriver Sym.waitingDriver (Sym.waitingDriver.establish Sym.sized [] [61]) ∧
        (Sym.waitingDriver.establish Sym.sized Sym.genuineRatchetKey [61]).IsOk ∧
        ¬ ((state (Sym.waitingDriver.establish Sym.sized [] [61])).establish Sym.sized
            Sym.genuineRatchetKey [61]).IsOk) ∧
      (¬ LeavesDriver Sym.waitingDriver (Sym.waitingDriver.sendPrekeyTo Sym.sized Sym.runningNode
            Sym.hostileBundle Sym.ephemeral Sym.coins 9) ∧
        ∃ session after,
          (state (Sym.waitingDriver.sendPrekeyTo Sym.sized Sym.runningNode Sym.hostileBundle
              Sym.ephemeral Sym.coins 9)).establish Sym.sized Sym.genuineRatchetKey [61] =
            .ok session after ∧
          session.peerIdentity = Sym.hostileIdentity.publicKey Sym.sized) ∧
      ¬ LeavesDriver Sym.waitingResponder (Sym.waitingResponder.onPrekey Sym.sized
        (Serde.toVec Sym.hostilePrekeyMessage) "m" [62]) := by
  refine ⟨⟨?_, by decide +kernel, by decide +kernel⟩, ⟨?_, _, _, rfl, rfl⟩, ?_⟩
  · intro h
    have hpending := congrArg InitiatorHandshake.pending (show _ = Sym.waitingDriver from h)
    cases hpending
  · intro h
    have hpeer := congrArg InitiatorHandshake.peerIdentity (show _ = Sym.waitingDriver from h)
    cases hpeer
  · rw [ResponderHandshake.leavesDriver_onPrekey_iff]
    intro h
    rcases h Sym.hostilePrekeyMessage _ (fromSlice_toVec _) Sym.privateKey_waitingResponder with
      hpeer | ⟨output, hok⟩
    · cases hpeer
    · cases hok

end Presidium
