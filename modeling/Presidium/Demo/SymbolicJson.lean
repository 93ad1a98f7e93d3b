import Presidium.Crypto.PqxdhAgreement
import Presidium.Crypto.Symbolic
import Presidium.Demo.Group
import Presidium.Demo.Handshake

/-!
# JSON over the symbolic primitives

One codec for each type that the node writes as JSON, so that the symbolic
instance has every `Serde` the development asks for, and a session that
concrete runs start from.
-/

namespace Presidium.Sym

def uint32 : Codec UInt32 :=
  Codec.nat.comap UInt32.toNat (fun n => some (UInt32.ofNat n)) fun x => by simp

def bool : Codec Bool :=
  Codec.nat.comap Bool.toNat (fun n => some (n == 1)) fun x => by cases x <;> rfl

def identityPublicKey : Codec (IdentityPublicKey Sym) :=
  (Codec.bytes.prod Codec.bytes).comap (fun x => (x.classical, x.pq))
    (fun x => some ⟨x.1, x.2⟩) fun _ => rfl

def hybridSignature : Codec (HybridSignature Sym) :=
  (Codec.bytes.prod Codec.bytes).comap (fun x => (x.classical, x.pq))
    (fun x => some ⟨x.1, x.2⟩) fun _ => rfl

def hybridKemPublicKey : Codec (HybridKemPublicKey Sym) :=
  (Codec.bytes.prod Codec.bytes).comap (fun x => (x.classical, x.pq))
    (fun x => some ⟨x.1, x.2⟩) fun _ => rfl

def signedPreKey : Codec (SignedPreKey Sym) :=
  (uint32.prod (hybridKemPublicKey.prod (hybridSignature.prod uint64))).comap
    (fun x => (x.keyId, x.publicKey, x.signature, x.timestamp))
    (fun x => some ⟨x.1, x.2.1, x.2.2.1, x.2.2.2⟩) fun _ => rfl

def oneTimePreKey : Codec (OneTimePreKey Sym) :=
  (uint32.prod hybridKemPublicKey).comap (fun x => (x.keyId, x.publicKey))
    (fun x => some ⟨x.1, x.2⟩) fun _ => rfl

def preKeyBundle : Codec (PreKeyBundle Sym) :=
  (identityPublicKey.prod (hybridKemPublicKey.prod (signedPreKey.prod
    (oneTimePreKey.list.prod hybridSignature)))).comap
    (fun x => (x.identityKey, x.identityKemPublic, x.signedPrekey, x.oneTimePrekeys,
      x.bundleSignature))
    (fun x => some ⟨x.1, x.2.1, x.2.2.1, x.2.2.2.1, x.2.2.2.2⟩) fun _ => rfl

def legs {α : Type} (C : Codec α) : Codec (Legs α) :=
  (C.prod (C.prod (C.prod C))).comap (fun x => (x.dh1, x.dh2, x.dh3, x.dh4))
    (fun x => some ⟨x.1, x.2.1, x.2.2.1, x.2.2.2⟩) fun _ => rfl

def prekeyMessage : Codec (PqxdhPrekeyMessage Sym) :=
  (identityPublicKey.prod (hybridKemPublicKey.prod (hybridKemPublicKey.prod
    ((legs Codec.bytes).prod (Codec.bytes.option.prod (uint32.prod uint32.option)))))).comap
    (fun x => (x.identityPublic, x.identityKemPublic, x.ephemeralPublic, x.ciphertexts,
      x.oneTimeCiphertext, x.signedPrekeyId, x.oneTimePrekeyId))
    (fun x => some ⟨x.1, x.2.1, x.2.2.1, x.2.2.2.1, x.2.2.2.2.1, x.2.2.2.2.2.1, x.2.2.2.2.2.2⟩)
    fun _ => rfl

def prekeyMaterial : Codec (PrekeyMaterial Sym) :=
  (uint32.prod (hybridKemPublicKey.prod (Codec.bytes.prod (Codec.bytes.prod
    (hybridSignature.prod uint64))))).comap
    (fun x => (x.keyId, x.publicKey, x.privateClassical, x.privatePq, x.signature, x.timestamp))
    (fun x => some ⟨x.1, x.2.1, x.2.2.1, x.2.2.2.1, x.2.2.2.2.1, x.2.2.2.2.2⟩) fun _ => rfl

def sessionKeys : Codec (SessionKeys Sym) :=
  (bool.prod (Codec.bytes.prod (Codec.bytes.prod (Codec.bytes.prod
    (identityPublicKey.prod uint64))))).comap
    (fun x => (x.isInitiator, x.rootKey, x.sendingChain, x.receivingChain, x.peerIdentity,
      x.messageCount))
    (fun x => some ⟨x.1, x.2.1, x.2.2.1, x.2.2.2.1, x.2.2.2.2.1, x.2.2.2.2.2⟩) fun _ => rfl

def chainSnapshot : Codec (ChainSnapshot Sym) :=
  (Codec.bytes.option.prod (Codec.bytes.option.prod (Codec.bytes.option.prod
    (uint64.prod (uint64.prod Codec.bytes).list)))).comap
    (fun x => (x.ourRatchetKey, x.theirRatchetPublic, x.chainKey, x.chainIndex,
      x.skippedMessageKeys))
    (fun x => some ⟨x.1, x.2.1, x.2.2.1, x.2.2.2.1, x.2.2.2.2⟩) fun _ => rfl

def ratchetSnapshot : Codec (RatchetSnapshot Sym) :=
  (Codec.bytes.prod (chainSnapshot.prod chainSnapshot)).comap
    (fun x => (x.rootKey, x.sendingChain, x.receivingChain))
    (fun x => some ⟨x.1, x.2.1, x.2.2⟩) fun _ => rfl

def groupKeyDistribution : Codec (GroupKeyDistribution Sym) :=
  (Codec.bytes.prod (uint64.prod uint64)).comap (fun x => (x.chainKey, x.keyId, x.messageIndex))
    (fun x => some ⟨x.1, x.2.1, x.2.2⟩) fun _ => rfl

def senderKeyMessage : Codec SenderKeyMessage :=
  (Codec.bytes.prod (Codec.bytes.prod (uint64.prod Codec.bytes))).comap
    (fun x => (x.groupId, x.senderIdentity.publicKey, x.messageIndex, x.ciphertext))
    (fun x => some ⟨x.1, ⟨x.2.1⟩, x.2.2.1, x.2.2.2⟩) fun _ => rfl

instance : Serde (HybridSignature Sym) := serde hybridSignature
instance : LawfulSerde (HybridSignature Sym) := lawfulSerde hybridSignature
instance : Serde (PreKeyBundle Sym) := serde preKeyBundle
instance : LawfulSerde (PreKeyBundle Sym) := lawfulSerde preKeyBundle
instance : Serde (PqxdhPrekeyMessage Sym) := serde prekeyMessage
instance : LawfulSerde (PqxdhPrekeyMessage Sym) := lawfulSerde prekeyMessage
instance : Serde (PrekeyMaterial Sym) := serde prekeyMaterial
instance : LawfulSerde (PrekeyMaterial Sym) := lawfulSerde prekeyMaterial
instance : Serde (SessionKeys Sym) := serde sessionKeys
instance : LawfulSerde (SessionKeys Sym) := lawfulSerde sessionKeys
instance : Serde (RatchetSnapshot Sym) := serde ratchetSnapshot
instance : LawfulSerde (RatchetSnapshot Sym) := lawfulSerde ratchetSnapshot
instance : Serde (GroupKeyDistribution Sym) := serde groupKeyDistribution
scoped instance : Serde SenderKeyMessage := serde senderKeyMessage
scoped instance : LawfulSerde SenderKeyMessage := lawfulSerde senderKeyMessage

/-! ## A session -/

/-- A session of an initiator right after the handshake. -/
def freshSession : ChatSession Sym :=
  { conversationId := "a1"
    peerIdentity := alice.publicKey primitives
    isInitiator := true
    ratchet := .init primitives SESSION_ID ⟨[1]⟩ [2] (primitives.x25519Public [3]) []
    sessionKeys :=
      { isInitiator := true
        rootKey := [1]
        sendingChain := []
        receivingChain := []
        peerIdentity := alice.publicKey primitives
        messageCount := 0 } }

/-- A database that knows the conversation. -/
def conversationDb : Database :=
  { Database.empty with
    conversations := [{ id := "a1", peerClassical := [], peerPq := [], isGroup := false, createdAt := 0 }] }

end Presidium.Sym
