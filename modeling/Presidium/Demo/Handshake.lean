import Presidium.Demo.Store

/-!
# The handshake drivers of the demo's `session.rs`

The initiator asks for a bundle, answers it with a prekey message and builds
its session when the ratchet key of the responder arrives.  The responder
hands out its bundle and builds its session from the prekey message.

A driver method that changes its driver returns an `Outcome`.  A method that
ends in `node.send_direct` returns what it hands to the node.
-/

namespace Presidium

variable {B : Nat → Type}

/-- A libp2p peer id. -/
abbrev PeerId := Bytes

/-- An envelope on its way to a peer, as `send_direct` takes it. -/
structure Outbound where
  peer : PeerId
  envelope : NetworkEnvelope
  deriving DecidableEq

/-- The bundle in the body of a `MARKER_BUNDLE` payload. -/
def parseBundle [Serde (PreKeyBundle B)] (body : Bytes) : Except AppError (PreKeyBundle B) :=
  match Serde.fromSlice body with
  | none => .error (.context "parse bundle" .json)
  | some bundle => .ok bundle

theorem parseBundle_eq_ok [Serde (PreKeyBundle B)] {body : Bytes} {bundle : PreKeyBundle B} :
    parseBundle body = .ok bundle ↔ Serde.fromSlice body = some bundle := by
  unfold parseBundle
  cases (Serde.fromSlice body : Option (PreKeyBundle B)) <;> simp

/-- The conversation id of a prekey message: the device id of its sender. -/
def senderConversation (envelope : NetworkEnvelope) : Except AppError String :=
  match fromUtf8 envelope.senderDeviceId with
  | none => .error (.context "invalid sender device id" .utf8)
  | some id => .ok id

theorem parseBundle_toVec [Serde (PreKeyBundle B)] [LawfulSerde (PreKeyBundle B)]
    (bundle : PreKeyBundle B) : parseBundle (Serde.toVec bundle) = .ok bundle := by
  unfold parseBundle
  rw [fromSlice_toVec]

theorem senderConversation_syncEnvelope [Serde (HybridSignature B)] (P : Primitives B)
    (identity : IdentityKeyPair B) (deviceId : String) (marker : UInt8) (body : Bytes)
    (now : Int) :
    senderConversation (syncEnvelope P identity deviceId marker body now) = .ok deviceId := by
  unfold senderConversation
  rw [show (syncEnvelope P identity deviceId marker body now).senderDeviceId = asBytes deviceId
    from rfl, fromUtf8_asBytes]

/-! ## Initiator -/

structure InitiatorHandshake (B : Nat → Type) where
  identity : IdentityKeyPair B
  deviceId : String
  peer : PeerId
  peerIdentity : Option (IdentityPublicKey B)
  pending : Option (PqxdhOutput B)

/-- The initiator's ratchet from the PQXDH output, for the ratchet key that
was drawn. -/
def buildInitiatorSession (P : Primitives B) (deviceId : String) (output : PqxdhOutput B)
    (peerIdentity : IdentityPublicKey B) (peerRatchetPublic : B X25519_PUBLIC_KEY_SIZE)
    (ourRatchet : B X25519_PRIVATE_KEY_SIZE) : Except AppError (ChatSession B) :=
  let keys := SessionKeys.new P true output.sharedSecret peerIdentity
  match keys.toRatchet P ourRatchet (some peerRatchetPublic) with
  | .error e => .error (.context "initiator ratchet" (.crypto e))
  | .ok ratchet =>
    .ok { conversationId := deviceId, peerIdentity, isInitiator := true, ratchet,
          sessionKeys := keys }

namespace InitiatorHandshake

variable (P : Primitives B)

def new (identity : IdentityKeyPair B) (deviceId : String) (peer : PeerId) :
    InitiatorHandshake B :=
  { identity, deviceId, peer, peerIdentity := none, pending := none }

variable [Serde (HybridSignature B)]

/-- Round 1: ask the responder for its prekey bundle. -/
def requestBundle (h : InitiatorHandshake B) (now : Int) : Outbound :=
  { peer := h.peer, envelope := syncEnvelope P h.identity h.deviceId MARKER_BUNDLE_REQ [] now }

/-- Round 2: handle the responder's bundle, send our prekey message. -/
def sendPrekey [Serde (PqxdhPrekeyMessage B)] (h : InitiatorHandshake B)
    (bundle : PreKeyBundle B) (drawn : HybridKemPrivateKey B) (coins : Coins B) (now : Int) :
    Outcome AppError (InitiatorHandshake B) Outbound :=
  match bundle.verify P with
  | .error e => .error (.context "verify peer bundle" (.crypto e)) h
  | .ok _ =>
    let h := { h with peerIdentity := some bundle.identityKey }
    let (_, ephemeral) := HybridKemPublicKey.generate P drawn
    match pqxdhInitiator P { identity := h.identity, ephemeral, peerBundle := bundle } coins with
    | .error e => .error (.context "pqxdh initiator" (.crypto e)) h
    | .ok (output, prekeyMessage) =>
      let h := { h with pending := some output }
      .ok
        { peer := h.peer
          envelope := syncEnvelope P h.identity h.deviceId MARKER_PREKEY
            (Serde.toVec prekeyMessage) now } h

omit [Serde (HybridSignature B)]

/-- Round 3: the responder's ratchet public key arrives; build the session.
The pending output is taken before anything is checked. -/
def establish (h : InitiatorHandshake B) (ratchetPublic : Bytes)
    (ourRatchet : B X25519_PRIVATE_KEY_SIZE) :
    Outcome AppError (InitiatorHandshake B) (ChatSession B) :=
  match h.pending with
  | none => .error (.message "no pqxdh output") h
  | some output =>
    let h := { h with pending := none }
    match h.peerIdentity with
    | none => .error (.message "no peer identity") h
    | some peerIdentity =>
      match P.tryFrom 32 ratchetPublic with
      | none => .error (.context "ratchet public must be 32 bytes" .slice) h
      | some peerPublic =>
        match buildInitiatorSession P h.deviceId output peerIdentity peerPublic ourRatchet with
        | .error e => .error e h
        | .ok session => .ok session h

variable {P}

/-- What a successful `establish` returns and leaves: the ratchet starts with the
root key of the session keys and the key that was drawn, and the pending output
is gone. -/
theorem establish_eq_ok {h h' : InitiatorHandshake B} {ratchetPublic : Bytes}
    {ourRatchet : B X25519_PRIVATE_KEY_SIZE} {session : ChatSession B}
    (hrun : h.establish P ratchetPublic ourRatchet = .ok session h') :
    ∃ (output : PqxdhOutput B) (peerIdentity : IdentityPublicKey B)
        (peerPublic : B X25519_PUBLIC_KEY_SIZE),
      h.pending = some output ∧ h.peerIdentity = some peerIdentity ∧
        P.tryFrom 32 ratchetPublic = some peerPublic ∧ h' = { h with pending := none } ∧
        session =
          { conversationId := h.deviceId
            peerIdentity
            isInitiator := true
            ratchet := .init P SESSION_ID
              ⟨(SessionKeys.new P true output.sharedSecret peerIdentity).rootKey⟩ ourRatchet
              peerPublic []
            sessionKeys := .new P true output.sharedSecret peerIdentity } := by
  unfold establish at hrun
  cases hpending : h.pending with
  | none => simp only [hpending] at hrun; cases hrun
  | some output =>
    cases hpeer : h.peerIdentity with
    | none => simp only [hpending, hpeer] at hrun; cases hrun
    | some peerIdentity =>
      cases hpublic : P.tryFrom 32 ratchetPublic with
      | none => simp only [hpending, hpeer, hpublic] at hrun; cases hrun
      | some peerPublic =>
        simp only [hpending, hpeer, hpublic] at hrun
        have hok := EStateM.Result.ok.inj hrun
        exact ⟨output, peerIdentity, peerPublic, rfl, rfl, rfl, hok.2.symm, hok.1.symm⟩

end InitiatorHandshake

/-! ## Responder -/

structure ResponderHandshake (B : Nat → Type) where
  identity : IdentityKeyPair B
  prekey : PrekeyMaterial B
  peerIdentity : Option (IdentityPublicKey B)

namespace ResponderHandshake

variable (P : Primitives B)

def new (identity : IdentityKeyPair B) (prekey : PrekeyMaterial B) : ResponderHandshake B :=
  { identity, prekey, peerIdentity := none }

/-- Our prekey bundle, signed by the identity. -/
def bundle (h : ResponderHandshake B) : PreKeyBundle B := h.prekey.toBundle P h.identity

/-- Handle the initiator's prekey message: the ratchet public key to send back
and the session, for the ratchet key that was drawn. -/
def onPrekey [Serde (PqxdhPrekeyMessage B)] (h : ResponderHandshake B) (body : Bytes)
    (conversationId : String) (ourRatchet : B X25519_PRIVATE_KEY_SIZE) :
    Outcome AppError (ResponderHandshake B) (B X25519_PUBLIC_KEY_SIZE × ChatSession B) :=
  match (Serde.fromSlice body : Option (PqxdhPrekeyMessage B)) with
  | none => .error (.context "parse prekey message" .json) h
  | some message =>
    let h := { h with peerIdentity := some message.identityPublic }
    match h.prekey.privateKey P with
    | .error e => .error e h
    | .ok signedPrekey =>
      match pqxdhResponder P
          { identity := h.identity
            signedPrekey
            signedPrekeyId := h.prekey.keyId
            oneTimePrekey := none
            oneTimePrekeyId := none } message with
      | .error e => .error (.context "pqxdh responder" (.crypto e)) h
      | .ok output =>
        let peerIdentity := message.identityPublic
        let keys := SessionKeys.new P false output.sharedSecret peerIdentity
        match keys.toRatchet P ourRatchet none with
        | .error e => .error (.context "responder ratchet" (.crypto e)) h
        | .ok ratchet =>
          .ok (P.x25519Public ourRatchet,
            { conversationId, peerIdentity, isInitiator := false, ratchet, sessionKeys := keys }) h

variable {P}

/-- What a successful `onPrekey` returns and leaves: the ratchet waits with the
root key of the session keys and the key that was drawn. -/
theorem onPrekey_eq_ok [Serde (PqxdhPrekeyMessage B)] {h h' : ResponderHandshake B}
    {body : Bytes} {conversationId : String} {ourRatchet : B X25519_PRIVATE_KEY_SIZE}
    {ratchetPublic : B X25519_PUBLIC_KEY_SIZE} {session : ChatSession B}
    (hrun : h.onPrekey P body conversationId ourRatchet = .ok (ratchetPublic, session) h') :
    ∃ (message : PqxdhPrekeyMessage B) (output : PqxdhOutput B),
      Serde.fromSlice body = some message ∧ ratchetPublic = P.x25519Public ourRatchet ∧
        h' = { h with peerIdentity := some message.identityPublic } ∧
        session =
          { conversationId
            peerIdentity := message.identityPublic
            isInitiator := false
            ratchet := .initAsResponder SESSION_ID
              ⟨(SessionKeys.new P false output.sharedSecret message.identityPublic).rootKey⟩
              ourRatchet []
            sessionKeys := .new P false output.sharedSecret message.identityPublic } := by
  unfold onPrekey at hrun
  split at hrun
  next => cases hrun
  next message hmessage =>
    simp only at hrun
    split at hrun
    next => cases hrun
    next signedPrekey _ =>
      split at hrun
      next => cases hrun
      next output _ =>
        have hok := EStateM.Result.ok.inj hrun
        have hpair := Prod.mk.inj hok.1
        exact ⟨message, output, hmessage, hpair.1.symm, hok.2.symm, hpair.2.symm⟩

end ResponderHandshake

/-! ## Successful calls -/

section Ok

variable {P : Primitives B}

theorem InitiatorHandshake.sendPrekey_ok [Serde (HybridSignature B)]
    [Serde (PqxdhPrekeyMessage B)] {h : InitiatorHandshake B} {bundle : PreKeyBundle B}
    {drawn : HybridKemPrivateKey B} {coins : Coins B} {output : PqxdhOutput B}
    {message : PqxdhPrekeyMessage B} (hverify : bundle.verify P = .ok ())
    (hpqxdh : pqxdhInitiator P ⟨h.identity, drawn, bundle⟩ coins = .ok (output, message))
    (now : Int) :
    h.sendPrekey P bundle drawn coins now =
      .ok
        { peer := h.peer
          envelope := syncEnvelope P h.identity h.deviceId MARKER_PREKEY (Serde.toVec message)
            now }
        { h with peerIdentity := some bundle.identityKey, pending := some output } := by
  unfold sendPrekey HybridKemPublicKey.generate
  simp only [hverify, hpqxdh]

theorem InitiatorHandshake.establish_ok (harrays : P.ArraysRoundTrip) {h : InitiatorHandshake B}
    {output : PqxdhOutput B} (hpending : h.pending = some output)
    {peerIdentity : IdentityPublicKey B} (hpeer : h.peerIdentity = some peerIdentity)
    (peerPublic : B X25519_PUBLIC_KEY_SIZE) (ourRatchet : B X25519_PRIVATE_KEY_SIZE) :
    h.establish P (P.toVec peerPublic) ourRatchet =
      .ok
        { conversationId := h.deviceId
          peerIdentity
          isInitiator := true
          ratchet := .init P "presidium-session"
            ⟨P.hkdf .none [output.sharedSecret] "ROOT_KEY" ROOT_KEY_SIZE⟩ ourRatchet peerPublic []
          sessionKeys := SessionKeys.new P true output.sharedSecret peerIdentity }
        { h with pending := none } := by
  unfold establish
  simp only [hpending, hpeer, harrays _ _]
  rfl

theorem ResponderHandshake.onPrekey_ok [Serde (PqxdhPrekeyMessage B)]
    [LawfulSerde (PqxdhPrekeyMessage B)] {h : ResponderHandshake B}
    {signedPrekey : HybridKemPrivateKey B} (hprekey : h.prekey.privateKey P = .ok signedPrekey)
    {message : PqxdhPrekeyMessage B} {output : PqxdhOutput B}
    (hpqxdh : pqxdhResponder P ⟨h.identity, signedPrekey, h.prekey.keyId, none, none⟩ message =
      .ok output)
    (conversationId : String) (ourRatchet : B X25519_PRIVATE_KEY_SIZE) :
    h.onPrekey P (Serde.toVec message) conversationId ourRatchet =
      .ok
        (P.x25519Public ourRatchet,
          { conversationId
            peerIdentity := message.identityPublic
            isInitiator := false
            ratchet := .initAsResponder "presidium-session"
              ⟨P.hkdf .none [output.sharedSecret] "ROOT_KEY" ROOT_KEY_SIZE⟩ ourRatchet []
            sessionKeys := SessionKeys.new P false output.sharedSecret message.identityPublic })
        { h with peerIdentity := some message.identityPublic } := by
  unfold onPrekey
  simp only [fromSlice_toVec, hprekey, hpqxdh]
  rfl

end Ok

/-! ## Every call -/

section Cases

variable {P : Primitives B}

/-- The exits of `send_prekey`, with the driver that each one leaves. -/
theorem InitiatorHandshake.sendPrekey_cases [Serde (HybridSignature B)]
    [Serde (PqxdhPrekeyMessage B)] (h : InitiatorHandshake B) (bundle : PreKeyBundle B)
    (drawn : HybridKemPrivateKey B) (coins : Coins B) (now : Int) :
    (∃ e, bundle.verify P = .error e ∧
      h.sendPrekey P bundle drawn coins now =
        .error (.context "verify peer bundle" (.crypto e)) h) ∨
    bundle.verify P = .ok () ∧
      ((∃ e, pqxdhInitiator P ⟨h.identity, drawn, bundle⟩ coins = .error e ∧
        h.sendPrekey P bundle drawn coins now =
          .error (.context "pqxdh initiator" (.crypto e))
            { h with peerIdentity := some bundle.identityKey }) ∨
      ∃ output message out,
        pqxdhInitiator P ⟨h.identity, drawn, bundle⟩ coins = .ok (output, message) ∧
        h.sendPrekey P bundle drawn coins now =
          .ok out { h with peerIdentity := some bundle.identityKey, pending := some output }) := by
  cases hverify : bundle.verify P with
  | error e =>
    refine Or.inl ⟨e, rfl, ?_⟩
    unfold sendPrekey
    simp only [hverify]
  | ok _ =>
    refine Or.inr ⟨rfl, ?_⟩
    cases hpqxdh : pqxdhInitiator P ⟨h.identity, drawn, bundle⟩ coins with
    | error e =>
      refine Or.inl ⟨e, rfl, ?_⟩
      unfold sendPrekey HybridKemPublicKey.generate
      simp only [hverify, hpqxdh]
    | ok out =>
      obtain ⟨output, message⟩ := out
      exact Or.inr ⟨output, message, _, rfl, sendPrekey_ok hverify hpqxdh now⟩

/-- Whatever its exit, `establish` takes the pending output. -/
theorem InitiatorHandshake.establish_state (h : InitiatorHandshake B) (ratchetPublic : Bytes)
    (ourRatchet : B X25519_PRIVATE_KEY_SIZE) :
    (h.establish P ratchetPublic ourRatchet).state = { h with pending := none } := by
  obtain ⟨identity, deviceId, peer, peerIdentity, pending⟩ := h
  unfold establish
  cases pending with
  | none => rfl
  | some output =>
    cases peerIdentity with
    | none => rfl
    | some peerIdentity =>
      simp only
      cases P.tryFrom 32 ratchetPublic <;> rfl

/-- The session of an initiator, from the output of its handshake and the ratchet
key of the responder. -/
def InitiatorHandshake.session (P : Primitives B) (h : InitiatorHandshake B)
    (output : PqxdhOutput B) (peerIdentity : IdentityPublicKey B)
    (peerPublic : B X25519_PUBLIC_KEY_SIZE) (ourRatchet : B X25519_PRIVATE_KEY_SIZE) :
    ChatSession B :=
  { conversationId := h.deviceId
    peerIdentity
    isInitiator := true
    ratchet := .init P SESSION_ID
      ⟨(SessionKeys.new P true output.sharedSecret peerIdentity).rootKey⟩ ourRatchet peerPublic []
    sessionKeys := .new P true output.sharedSecret peerIdentity }

/-- `establish` on a driver that has everything. -/
theorem InitiatorHandshake.establish_complete {h : InitiatorHandshake B} {output : PqxdhOutput B}
    (hpending : h.pending = some output) {peerIdentity : IdentityPublicKey B}
    (hpeer : h.peerIdentity = some peerIdentity) {ratchetPublic : Bytes}
    {peerPublic : B X25519_PUBLIC_KEY_SIZE} (hpublic : P.tryFrom 32 ratchetPublic = some peerPublic)
    (ourRatchet : B X25519_PRIVATE_KEY_SIZE) :
    h.establish P ratchetPublic ourRatchet =
      .ok (h.session P output peerIdentity peerPublic ourRatchet) { h with pending := none } := by
  unfold establish
  simp only [hpending, hpeer, hpublic]
  rfl

theorem InitiatorHandshake.isOk_establish (h : InitiatorHandshake B) (ratchetPublic : Bytes)
    (ourRatchet : B X25519_PRIVATE_KEY_SIZE) :
    (h.establish P ratchetPublic ourRatchet).IsOk ↔
      ∃ output peerIdentity peerPublic, h.pending = some output ∧
        h.peerIdentity = some peerIdentity ∧ P.tryFrom 32 ratchetPublic = some peerPublic := by
  constructor
  · intro hok
    obtain ⟨session, h', hrun⟩ := Outcome.isOk_iff.mp hok
    obtain ⟨output, peer, theirs, hpending, hpeer, hpublic, -, -⟩ := establish_eq_ok hrun
    exact ⟨output, peer, theirs, hpending, hpeer, hpublic⟩
  · rintro ⟨output, peer, theirs, hpending, hpeer, hpublic⟩
    rw [establish_complete hpending hpeer hpublic]
    trivial

theorem ResponderHandshake.isOk_onPrekey [Serde (PqxdhPrekeyMessage B)]
    (h : ResponderHandshake B) (body : Bytes) (conversationId : String)
    (ourRatchet : B X25519_PRIVATE_KEY_SIZE) :
    (h.onPrekey P body conversationId ourRatchet).IsOk ↔
      ∃ message signedPrekey output, Serde.fromSlice body = some message ∧
        h.prekey.privateKey P = .ok signedPrekey ∧
        pqxdhResponder P ⟨h.identity, signedPrekey, h.prekey.keyId, none, none⟩ message =
          .ok output := by
  unfold onPrekey
  cases hparse : (Serde.fromSlice body : Option (PqxdhPrekeyMessage B)) with
  | none => simp
  | some message =>
    cases hprekey : h.prekey.privateKey P with
    | error e => simp [hprekey]
    | ok signedPrekey =>
      cases hpqxdh : pqxdhResponder P ⟨h.identity, signedPrekey, h.prekey.keyId, none, none⟩
          message with
      | error e => simp [hprekey, hpqxdh]
      | ok output =>
        simp only [hprekey, hpqxdh]
        exact iff_of_true trivial ⟨message, signedPrekey, output, rfl, rfl, hpqxdh⟩

end Cases
end Presidium
