import Presidium.Crypto.Primitives

/-!
# The Double Ratchet of `ratchet.rs`

The definitions follow the source function by function.  A method on
`&mut self` takes the ratchet and returns an `Outcome`, which carries the
ratchet after the call on the error side as well.

The catch-up loop of `decrypt` is `catchUp`.  Its fuel is `MAX_SKIP_MESSAGES
+ 1`: every turn of the loop stores one key, and the turn that stores key
number `MAX_SKIP_MESSAGES + 1` leaves with an error.  `catchUp_fuel` in
`Presidium.Crypto.RatchetLemmas` says that more fuel changes nothing.
-/

namespace Presidium

variable {B : Nat → Type}

/-- HKDF info strings of `keys.rs`. -/
def CHAIN_KEY_INFO : String := "presidium-chain-key"

def MESSAGE_KEY_INFO : String := "presidium-message-key"

/-! ## Chain keys and root keys -/

/-- Message key derived from a chain key. -/
structure MessageKeys (B : Nat → Type) where
  key : B MESSAGE_KEY_SIZE
  index : UInt64

/-- Chain key for a sending or receiving chain. -/
structure ChainKey (B : Nat → Type) where
  key : B CHAIN_KEY_SIZE
  index : UInt64

/-- The message key for the current index. -/
def ChainKey.messageKey (P : Primitives B) (c : ChainKey B) : MessageKeys B :=
  { key := P.hmacSha256 c.key MESSAGE_KEY_INFO, index := c.index }

/-- The next chain key.  The counter is a `u64` and wraps. -/
def ChainKey.next (P : Primitives B) (c : ChainKey B) : ChainKey B :=
  { key := P.hmacSha256 c.key CHAIN_KEY_INFO, index := c.index + 1 }

/-- Root key for ratchet advancement. -/
structure RootKey (B : Nat → Type) where
  key : B ROOT_KEY_SIZE

/-- DH ratchet step: new root and chain keys from a DH output. -/
def RootKey.ratchetStep (P : Primitives B) (root : RootKey B)
    (dhOutput : B X25519_SHARED_SECRET_SIZE) : RootKey B × ChainKey B :=
  (⟨P.hkdf (.key root.key) [dhOutput] "presidium-ratchet-root" ROOT_KEY_SIZE⟩,
    ⟨P.hkdf (.key root.key) [dhOutput] "presidium-ratchet-chain" CHAIN_KEY_SIZE, 0⟩)

/-! ## The state -/

/-- Header of an encrypted ratchet message. -/
structure RatchetMessageHeader (B : Nat → Type) where
  dhPublicKey : B X25519_PUBLIC_KEY_SIZE
  messageNumber : UInt64
  previousMessageNumber : UInt64

/-- State of a single ratchet chain (sending or receiving). -/
structure RatchetChain (B : Nat → Type) where
  ourRatchetKey : Option (B X25519_PRIVATE_KEY_SIZE)
  theirRatchetPublic : Option (B X25519_PUBLIC_KEY_SIZE)
  chainKey : Option (ChainKey B)
  skippedMessageKeys : List (UInt64 × B MESSAGE_KEY_SIZE)

/-- The Double Ratchet state machine. -/
structure DoubleRatchet (B : Nat → Type) where
  rootKey : RootKey B
  sendingChain : RatchetChain B
  receivingChain : RatchetChain B
  sessionId : String
  associatedData : Bytes

namespace DoubleRatchet

/-- Initialize a new session as the initiator. -/
def init (P : Primitives B) (sessionId : String) (rootKey : RootKey B)
    (ourDhKey : B X25519_PRIVATE_KEY_SIZE) (peerDhPublic : B X25519_PUBLIC_KEY_SIZE)
    (associatedData : Bytes) : DoubleRatchet B :=
  let shared := P.diffieHellman ourDhKey peerDhPublic
  let (newRoot, chain) := rootKey.ratchetStep P shared
  { rootKey := newRoot
    sendingChain :=
      { ourRatchetKey := some ourDhKey
        theirRatchetPublic := some peerDhPublic
        chainKey := some chain
        skippedMessageKeys := [] }
    receivingChain :=
      { ourRatchetKey := none
        theirRatchetPublic := some peerDhPublic
        chainKey := none
        skippedMessageKeys := [] }
    sessionId := sessionId
    associatedData := associatedData }

/-- Initialize a session as the responder. -/
def initAsResponder (sessionId : String) (rootKey : RootKey B)
    (ourRatchetKey : B X25519_PRIVATE_KEY_SIZE) (associatedData : Bytes) : DoubleRatchet B :=
  { rootKey := rootKey
    sendingChain :=
      { ourRatchetKey := some ourRatchetKey
        theirRatchetPublic := none
        chainKey := none
        skippedMessageKeys := [] }
    receivingChain :=
      { ourRatchetKey := none
        theirRatchetPublic := none
        chainKey := none
        skippedMessageKeys := [] }
    sessionId := sessionId
    associatedData := associatedData }

/-! ## Encryption -/

/-- The first part of `encrypt`: derive the sending chain from the DH with the
peer's ratchet key when it is not yet established.  Both error exits come
before the first write. -/
def ensureSendingChain (P : Primitives B) (r : DoubleRatchet B) :
    Except CryptoError (DoubleRatchet B) :=
  match r.sendingChain.chainKey with
  | some _ => .ok r
  | none =>
    match r.sendingChain.ourRatchetKey with
    | none => .error (.ratchetError "No sending ratchet key")
    | some ourKey =>
      match r.sendingChain.theirRatchetPublic with
      | none => .error (.ratchetError "No peer ratchet key")
      | some their =>
        let shared := P.diffieHellman ourKey their
        let (newRoot, chain) := r.rootKey.ratchetStep P shared
        .ok { r with
          rootKey := newRoot
          sendingChain := { r.sendingChain with chainKey := some chain } }

/-- The header of the next message: our own ratchet public key and the index
of the chain. -/
def headerFor (P : Primitives B) (r : DoubleRatchet B) (index : UInt64) :
    RatchetMessageHeader B :=
  { dhPublicKey :=
      match r.sendingChain.ourRatchetKey with
      | some key => P.x25519Public key
      | none => P.zeros X25519_PUBLIC_KEY_SIZE
    messageNumber := index
    previousMessageNumber := 0 }

/-- Encrypt a message.  The chain moves before the AEAD runs, so a failed
encryption uses up a message number. -/
def encrypt (P : Primitives B) [Serde (RatchetMessageHeader B)] (r : DoubleRatchet B)
    (plaintext : Bytes) :
    Outcome CryptoError (DoubleRatchet B) (Bytes × RatchetMessageHeader B) :=
  match r.ensureSendingChain P with
  | .error e => .error e r
  | .ok r₁ =>
    match r₁.sendingChain.chainKey with
    | none => .error (.ratchetError "No sending chain") r₁
    | some chain =>
      let messageKey := chain.messageKey P
      let r₂ := { r₁ with
        sendingChain := { r₁.sendingChain with chainKey := some (chain.next P) } }
      let header := r₂.headerFor P messageKey.index
      match P.aeadEncrypt messageKey.key (nonceOf messageKey.index) (Serde.toVec header)
          plaintext with
      | none => .error (.encryptionFailed "Ratchet encryption failed") r₂
      | some ciphertext => .ok (ciphertext, header) r₂

/-! ## Decryption -/

/-- The `while` loop of `decrypt`.  It stores the key of every message number
below `target` and stops with an error once too many keys are stored. -/
def catchUp (P : Primitives B) (target : UInt64) :
    Nat → ChainKey B → List (UInt64 × B MESSAGE_KEY_SIZE) →
      Outcome CryptoError (ChainKey B × List (UInt64 × B MESSAGE_KEY_SIZE)) Unit
  | 0, chain, skipped => .ok () (chain, skipped)
  | fuel + 1, chain, skipped =>
    if chain.index < target then
      let msgKey := chain.messageKey P
      let skipped := skipped ++ [(msgKey.index, msgKey.key)]
      -- the limit is tested after the push and before the chain moves
      if skipped.length > MAX_SKIP_MESSAGES then
        .error (.ratchetError "Too many skipped messages") (chain, skipped)
      else
        catchUp P target fuel (chain.next P) skipped
    else
      .ok () (chain, skipped)

/-- `ChaCha20Poly1305::decrypt` of a message under a message key, with the
header as associated data. -/
def openWith (P : Primitives B) [Serde (RatchetMessageHeader B)] (key : B MESSAGE_KEY_SIZE)
    (header : RatchetMessageHeader B) (ciphertext : Bytes) : Option Bytes :=
  P.aeadDecrypt key (nonceOf header.messageNumber) (Serde.toVec header) ciphertext

/-- The key that is stored for a message number, if any. -/
def storedKey (r : DoubleRatchet B) (messageNumber : UInt64) : Option (B MESSAGE_KEY_SIZE) :=
  (r.receivingChain.skippedMessageKeys.find? (fun entry => entry.1 == messageNumber)).map
    Prod.snd

/-- The ratchet with a new receiving chain key and skipped-key list. -/
def withReceiving (r : DoubleRatchet B) (chain : ChainKey B)
    (skipped : List (UInt64 × B MESSAGE_KEY_SIZE)) : DoubleRatchet B :=
  { r with
    receivingChain :=
      { r.receivingChain with chainKey := some chain, skippedMessageKeys := skipped } }

/-- Decrypt a message. -/
def decrypt (P : Primitives B) [Serde (RatchetMessageHeader B)] (r : DoubleRatchet B)
    (ciphertext : Bytes) (header : RatchetMessageHeader B) :
    Outcome CryptoError (DoubleRatchet B) Bytes :=
  match r.storedKey header.messageNumber with
  | some key =>
    -- the stored key stays in the list
    match openWith P key header ciphertext with
    | none => .error .decryptionFailed r
    | some plaintext => .ok plaintext r
  | none =>
    match r.receivingChain.chainKey with
    | none => .error (.ratchetError "No receiving chain established") r
    | some chain =>
      match catchUp P header.messageNumber (MAX_SKIP_MESSAGES + 1) chain
          r.receivingChain.skippedMessageKeys with
      | .error e (chain, skipped) => .error e (r.withReceiving chain skipped)
      | .ok _ (chain, skipped) =>
        let messageKey := chain.messageKey P
        let r₁ := r.withReceiving (chain.next P) skipped
        match openWith P messageKey.key header ciphertext with
        | none => .error .decryptionFailed r₁
        | some plaintext => .ok plaintext r₁

/-! ## The DH ratchet -/

/-- The DH ratchet step.  The first branch rotates a key out of the receiving
chain, the second one makes the derived chain the receiving chain. -/
def dhRatchet (P : Primitives B) (r : DoubleRatchet B)
    (peerRatchetPublic : B X25519_PUBLIC_KEY_SIZE) :
    Outcome CryptoError (DoubleRatchet B) Unit :=
  match r.receivingChain.ourRatchetKey.or r.sendingChain.ourRatchetKey with
  | none => .error (.ratchetError "No ratchet key available") r
  | some ourKey =>
    let shared := P.diffieHellman ourKey peerRatchetPublic
    let (newRoot, newChain) := r.rootKey.ratchetStep P shared
    let sending := { r.sendingChain with theirRatchetPublic := some peerRatchetPublic }
    if r.receivingChain.ourRatchetKey.isSome then
      .ok () { r with
        rootKey := newRoot
        sendingChain :=
          { sending with
            ourRatchetKey := r.receivingChain.ourRatchetKey
            chainKey := some newChain }
        receivingChain := { r.receivingChain with ourRatchetKey := none } }
    else
      .ok () { r with
        rootKey := newRoot
        sendingChain := sending
        receivingChain := { r.receivingChain with chainKey := some newChain } }

end DoubleRatchet
end Presidium
