import Presidium.Demo.Session

/-!
# Group chat of the demo's `group.rs` over the sender keys of `keys.rs`

The initiator makes sender keys and hands them out over the 1:1 channel, the
responder takes them as its receiver keys.  From then on `publish` encrypts
under the next message key of the sender chain, and `decrypt` opens under the
message key at which the receiver chain stands.
-/

namespace Presidium

variable {B : Nat → Type}

/-- Fixed demo group. -/
def DEMO_GROUP : String := "presidium-demo-group"

/-- Internal identity key alias (pubkey only). -/
structure IdentityKey where
  publicKey : Bytes
  deriving DecidableEq

/-- Sender key for group encryption. -/
structure SenderKeys (B : Nat → Type) where
  chainKey : B CHAIN_KEY_SIZE
  groupId : Bytes
  senderIdentity : IdentityKey
  messageIndex : UInt64
  keyId : UInt64

/-- New sender keys for a group, for the chain key that was drawn. -/
def SenderKeys.new (groupId : Bytes) (sender : IdentityKey) (drawn : B CHAIN_KEY_SIZE) :
    SenderKeys B :=
  { chainKey := drawn, groupId, senderIdentity := sender, messageIndex := 0, keyId := 1 }

namespace SenderKeys

variable (P : Primitives B)

/-- The message key at which the chain stands. -/
def messageKey (keys : SenderKeys B) : B MESSAGE_KEY_SIZE :=
  P.hmacSha256 keys.chainKey MESSAGE_KEY_INFO

/-- Encrypt a message with the sender key.  The chain moves before the AEAD
runs. -/
def encrypt (keys : SenderKeys B) (plaintext associatedData : Bytes) :
    Outcome CryptoError (SenderKeys B) Bytes :=
  let msgKey := keys.messageKey P
  let nonceIndex := keys.messageIndex
  let keys := { keys with
    chainKey := P.hmacSha256 keys.chainKey "presidium-sender-advance"
    messageIndex := keys.messageIndex + 1 }
  match P.aeadEncrypt msgKey (nonceOf nonceIndex) associatedData plaintext with
  | none => .error (.encryptionFailed "Sender key encryption failed") keys
  | some ciphertext => .ok ciphertext keys

/-- Decrypt a sender key message.  The index only makes the nonce. -/
def decrypt (keys : SenderKeys B) (ciphertext : Bytes) (index : UInt64)
    (associatedData : Bytes) : Except CryptoError Bytes :=
  match P.aeadDecrypt (keys.messageKey P) (nonceOf index) associatedData ciphertext with
  | none => .error .decryptionFailed
  | some plaintext => .ok plaintext

/-- Advance the chain by one message; the index saturates. -/
def advance (keys : SenderKeys B) : SenderKeys B :=
  { keys with
    chainKey := P.hmacSha256 keys.chainKey "presidium-sender-advance"
    messageIndex := if keys.messageIndex.toNat + 1 < 2 ^ 64 then keys.messageIndex + 1
      else keys.messageIndex }

end SenderKeys

/-- Wrapper for a sender key message envelope. -/
structure SenderKeyMessage where
  groupId : Bytes
  senderIdentity : IdentityKey
  messageIndex : UInt64
  ciphertext : Bytes
  deriving DecidableEq

/-- Initial sender key distribution payload. -/
structure GroupKeyDistribution (B : Nat → Type) where
  chainKey : B 32
  keyId : UInt64
  messageIndex : UInt64

/-- A group chat.  The gossipsub topic is left out. -/
structure GroupChat (B : Nat → Type) where
  groupId : Bytes
  conversationId : String
  sender : Option (SenderKeys B)
  receiver : Option (SenderKeys B)
  peerIdentity : Option (IdentityPublicKey B)

namespace GroupChat

/-- The chat of the demo group. -/
def new : GroupChat B :=
  { groupId := asBytes DEMO_GROUP
    conversationId := "group:" ++ DEMO_GROUP
    sender := none
    receiver := none
    peerIdentity := none }

/-- Publisher side: create sender keys and the payload to hand out. -/
def createSender (P : Primitives B) (g : GroupChat B) (identity : IdentityKeyPair B)
    (drawn : B CHAIN_KEY_SIZE) : GroupKeyDistribution B × GroupChat B :=
  let keys := SenderKeys.new g.groupId ⟨P.toVec (identity.publicKey P).classical⟩ drawn
  ({ chainKey := keys.chainKey, keyId := keys.keyId, messageIndex := keys.messageIndex },
    { g with sender := some keys })

/-- Reader side: apply the payload received over 1:1. -/
def applyGroupKey (P : Primitives B) (g : GroupChat B) (distribution : GroupKeyDistribution B)
    (senderIdentity : IdentityPublicKey B) : GroupChat B :=
  { g with
    peerIdentity := some senderIdentity
    receiver := some
      { chainKey := distribution.chainKey
        groupId := g.groupId
        senderIdentity := ⟨P.toVec senderIdentity.classical⟩
        messageIndex := distribution.messageIndex
        keyId := distribution.keyId } }

section Messages

variable (P : Primitives B) [Serde (HybridSignature B)] [Serde SenderKeyMessage]

/-- Encrypt a plaintext and publish it.  The result is the envelope that the node
gets to publish; `running` says whether its task is there to take it. -/
def publish (g : GroupChat B) (running : Bool) (identity : IdentityKeyPair B)
    (deviceId : String) (plaintext : Bytes) (now : Int) :
    Outcome AppError (GroupChat B) NetworkEnvelope :=
  match g.sender with
  | none => .error (.message "no sender keys") g
  | some sender =>
    match sender.encrypt P plaintext g.groupId with
    | .error e sender => .error (.crypto e) { g with sender := some sender }
    | .ok ciphertext sender =>
      let g := { g with sender := some sender }
      let message : SenderKeyMessage :=
        { groupId := g.groupId
          senderIdentity := ⟨P.toVec (identity.publicKey P).classical⟩
          messageIndex := sender.messageIndex - 1
          ciphertext }
      let envelope := buildRawEnvelope P identity deviceId KIND_GROUP (asBytes g.conversationId)
        ciphertext (Serde.toVec message) now
      if running then .ok envelope g
      else .error (.context "gossipsub publish" .notRunning) g

/-- Decrypt an inbound group message. -/
def decrypt (g : GroupChat B) (envelope : NetworkEnvelope) :
    Outcome AppError (GroupChat B) Bytes :=
  match g.peerIdentity with
  | none => .error (.message "no group sender identity") g
  | some peer =>
    match verifyEnvelope P peer envelope with
    | .error e => .error e g
    | .ok false => .error (.message "group signature verification failed") g
    | .ok true =>
      match (Serde.fromSlice envelope.nonce : Option SenderKeyMessage) with
      | none => .error (.context "parse group message" .json) g
      | some message =>
        match g.receiver with
        | none => .error (.message "no receiver keys") g
        | some receiver =>
          match receiver.decrypt P envelope.encryptedPayload message.messageIndex g.groupId with
          | .error e => .error (.crypto e) g
          | .ok plaintext => .ok plaintext { g with receiver := some (receiver.advance P) }

/-- An envelope that is rejected leaves the chat as it is, and one that is opened
moves the receiver keys. -/
theorem decrypt_cases (g : GroupChat B) (envelope : NetworkEnvelope) :
    (∃ e, g.decrypt P envelope = .error e g) ∨
      ∃ plaintext receiver, g.decrypt P envelope = .ok plaintext { g with receiver } := by
  unfold decrypt
  split
  next => exact .inl ⟨_, rfl⟩
  next =>
    split
    next => exact .inl ⟨_, rfl⟩
    next => exact .inl ⟨_, rfl⟩
    next =>
      split
      next => exact .inl ⟨_, rfl⟩
      next =>
        split
        next => exact .inl ⟨_, rfl⟩
        next =>
          split
          next => exact .inl ⟨_, rfl⟩
          next => exact .inr ⟨_, _, rfl⟩

end Messages

end GroupChat
end Presidium
