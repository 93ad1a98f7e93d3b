import Presidium.Demo.Handshake
import Presidium.Lib.Machine

/-!
# Sessions after the handshake

A session comes out of `establish` or of `on_prekey`, and from then on it takes
`encrypt` and `decrypt` calls.  Here it is a machine whose events are the
calls, failing ones included.
-/

namespace Presidium

variable {B : Nat → Type}

/-- A call of a session method. -/
inductive ChatOp (B : Nat → Type) where
  | encrypt (identity : IdentityKeyPair B) (deviceId : String) (plaintext : Bytes) (now : Int)
  | decrypt (envelope : NetworkEnvelope)

namespace ChatSession

/-- A session right after the handshake, with the root key of its session
keys. -/
def Fresh (P : Primitives B) (ourKey : B X25519_PRIVATE_KEY_SIZE)
    (peerKey : B X25519_PUBLIC_KEY_SIZE) (s : ChatSession B) : Prop :=
  s.ratchet = .init P SESSION_ID ⟨s.sessionKeys.rootKey⟩ ourKey peerKey [] ∨
    s.ratchet = .initAsResponder SESSION_ID ⟨s.sessionKeys.rootKey⟩ ourKey []

/-- What `establish` returns is fresh, with the ratchet key that came from the
responder. -/
theorem fresh_of_establish {P : Primitives B} {h h' : InitiatorHandshake B}
    {ratchetPublic : Bytes} {ourKey : B X25519_PRIVATE_KEY_SIZE} {s : ChatSession B}
    (hrun : h.establish P ratchetPublic ourKey = .ok s h') :
    ∃ peerKey, Fresh P ourKey peerKey s := by
  obtain ⟨_, _, peerKey, _, _, _, _, rfl⟩ := InitiatorHandshake.establish_eq_ok hrun
  exact ⟨peerKey, Or.inl rfl⟩

/-- What `on_prekey` returns is fresh, whatever ratchet key the initiator will
have. -/
theorem fresh_of_onPrekey {P : Primitives B} [Serde (PqxdhPrekeyMessage B)]
    {h h' : ResponderHandshake B} {body : Bytes} {conversationId : String}
    {ourKey : B X25519_PRIVATE_KEY_SIZE} {ratchetPublic : B X25519_PUBLIC_KEY_SIZE}
    {s : ChatSession B}
    (hrun : h.onPrekey P body conversationId ourKey = .ok (ratchetPublic, s) h')
    (peerKey : B X25519_PUBLIC_KEY_SIZE) : Fresh P ourKey peerKey s := by
  obtain ⟨_, _, _, _, _, rfl⟩ := ResponderHandshake.onPrekey_eq_ok hrun
  exact Or.inr rfl

section Runs

variable (P : Primitives B) [Serde (HybridSignature B)] [Serde (RatchetMessageHeader B)]
  [DecidableEq (B X25519_PUBLIC_KEY_SIZE)]

/-- The session after a call. -/
def apply (s : ChatSession B) : ChatOp B → ChatSession B
  | .encrypt identity deviceId plaintext now => (s.encrypt P identity deviceId plaintext now).state
  | .decrypt envelope => (s.decrypt P envelope).state

/-- One session as a machine; every call may occur. -/
def machine : Machine (ChatSession B) (ChatOp B) where
  step := apply P
  Enabled _ _ := True

end Runs
end ChatSession
end Presidium
