import Presidium.Lib.LittleEndian
import Presidium.Lib.Outcome

/-!
# The primitives under `presidium-crypto`

The crate builds on third-party crates: `hmac`, `hkdf`, `x25519-dalek`,
`chacha20poly1305`, `ed25519-dalek`, `ml-dsa`, `ml-kem`, `sha2`, `argon2` and
`serde_json`.  None of them is in the repository, so the model takes them as
parameters.  `Primitives B` is the record of the functions that the code
calls, and `Serde α` is the JSON codec of one type.

`B n` stands for the Rust type `[u8; n]`.  It is a parameter as well.  The
agreement results need nothing of it, and the results that treat the KDF as a
free function cannot live in a finite type.  Variable-length data is
`Bytes = List UInt8` throughout.

What the code relies on is stated as one predicate per crate, and every
theorem names the ones that it uses:

* `DhCommutes`, `AeadRoundTrip`, `SignaturesVerify`, `KemRoundTrip` and
  `ArraysRoundTrip` are the documented correctness of the crates;
* `AeadIdeal` is the idealisation of `chacha20poly1305` that the replay
  argument uses.

Four error branches of the source have no counterpart here, because the
crates document that they cannot be taken: `Hmac::new_from_slice` accepts a
key of every length, `Hkdf::expand` fails only above `255 * 32` output bytes,
Argon2id fails only on parameters out of range, and `serde_json::to_vec` fails
only on a map with non-string keys.
-/

namespace Presidium

/-- `Vec<u8>` and `&[u8]`. -/
abbrev Bytes := List UInt8

/-- `str::as_bytes`. -/
def asBytes (s : String) : Bytes := s.toByteArray.data.toList

/-- `String::from_utf8`. -/
def fromUtf8 (b : Bytes) : Option String := String.fromUTF8? ⟨b.toArray⟩

@[simp] theorem fromUtf8_asBytes (s : String) : fromUtf8 (asBytes s) = some s := by
  unfold fromUtf8 asBytes String.fromUTF8?
  simp only [Array.toArray_toList]
  rw [dif_pos s.isValidUTF8]
  rfl

theorem asBytes_inj {s t : String} (h : asBytes s = asBytes t) : s = t := by
  have hs := fromUtf8_asBytes s
  rw [h, fromUtf8_asBytes] at hs
  exact (Option.some.inj hs).symm

/-! ## Sizes of `constants.rs` -/

abbrev ED25519_PUBLIC_KEY_SIZE : Nat := 32
abbrev ED25519_PRIVATE_KEY_SIZE : Nat := 32
abbrev ED25519_SIGNATURE_SIZE : Nat := 64
abbrev X25519_PUBLIC_KEY_SIZE : Nat := 32
abbrev X25519_PRIVATE_KEY_SIZE : Nat := 32
abbrev X25519_SHARED_SECRET_SIZE : Nat := 32
abbrev ML_KEM_1024_PUBLIC_KEY_SIZE : Nat := 1568
abbrev ML_KEM_1024_PRIVATE_KEY_SIZE : Nat := 64
abbrev ML_KEM_1024_SHARED_SECRET_SIZE : Nat := 32
abbrev ML_DSA_87_PUBLIC_KEY_SIZE : Nat := 2592
abbrev ML_DSA_87_PRIVATE_KEY_SIZE : Nat := 32
abbrev HMAC_SHA256_SIZE : Nat := 32
abbrev ROOT_KEY_SIZE : Nat := 32
abbrev CHAIN_KEY_SIZE : Nat := 32
abbrev MESSAGE_KEY_SIZE : Nat := 32
abbrev ARGON2_SALT_SIZE : Nat := 16
abbrev ARGON2_OUTPUT_SIZE : Nat := 32

/-- Maximum skipped message keys kept per chain. -/
abbrev MAX_SKIP_MESSAGES : Nat := 1000

/-! ## `error.rs` -/

/-- The variants of `CryptoError` that the modelled functions return. -/
inductive CryptoError where
  | invalidKey (message : String)
  | invalidSignature
  | decryptionFailed
  | encryptionFailed (message : String)
  | ratchetError (message : String)
  | pqxdhError (message : String)
  | serializationError (message : String)
  | invalidParameter (message : String)
  deriving DecidableEq, Repr

/-! ## The crates -/

/-- The salt of `Hkdf::new`: none, a 32-byte key, or a byte-string literal. -/
inductive Salt (B : Nat → Type) where
  | none
  | key (k : B 32)
  | label (s : String)

/-- The functions of the third-party crates, over the byte-array types `B`. -/
structure Primitives (B : Nat → Type) where
  /-- `<[u8; n]>::to_vec`. -/
  toVec : {n : Nat} → B n → Bytes
  /-- `<[u8; n]>::try_from` on a slice. -/
  tryFrom : (n : Nat) → Bytes → Option (B n)
  /-- `[0u8; n]`. -/
  zeros : (n : Nat) → B n
  /-- HMAC-SHA256 of a label under a key. -/
  hmacSha256 : B 32 → String → B HMAC_SHA256_SIZE
  /-- HKDF-SHA256: salt, input keying material as 32-byte blocks, info label,
  output length. -/
  hkdf : Salt B → List (B 32) → String → (n : Nat) → B n
  /-- `Sha256::digest`. -/
  sha256 : Bytes → B 32
  /-- Argon2id of a passphrase and a salt, with the parameters of
  `constants.rs`. -/
  argon2id : Bytes → B ARGON2_SALT_SIZE → B ARGON2_OUTPUT_SIZE
  /-- `x25519_dalek::PublicKey::from(&secret)`. -/
  x25519Public : B X25519_PRIVATE_KEY_SIZE → B X25519_PUBLIC_KEY_SIZE
  /-- `StaticSecret::diffie_hellman`. -/
  diffieHellman : B X25519_PRIVATE_KEY_SIZE → B X25519_PUBLIC_KEY_SIZE →
    B X25519_SHARED_SECRET_SIZE
  /-- `ChaCha20Poly1305::encrypt`: key, nonce, associated data, message.  It
  fails on a message above the block-counter limit. -/
  aeadEncrypt : B 32 → Bytes → Bytes → Bytes → Option Bytes
  /-- `ChaCha20Poly1305::decrypt`: key, nonce, associated data, ciphertext. -/
  aeadDecrypt : B 32 → Bytes → Bytes → Bytes → Option Bytes
  /-- `ed25519_dalek::SigningKey::verifying_key`, from the seed. -/
  ed25519Public : B ED25519_PRIVATE_KEY_SIZE → B ED25519_PUBLIC_KEY_SIZE
  /-- `SigningKey::sign`. -/
  ed25519Sign : B ED25519_PRIVATE_KEY_SIZE → Bytes → B ED25519_SIGNATURE_SIZE
  /-- Whether `VerifyingKey::from_bytes` accepts the bytes. -/
  ed25519KeyValid : B ED25519_PUBLIC_KEY_SIZE → Bool
  /-- `VerifyingKey::verify`. -/
  ed25519Verify : B ED25519_PUBLIC_KEY_SIZE → Bytes → B ED25519_SIGNATURE_SIZE → Bool
  /-- The ML-DSA-87 verifying key of a seed. -/
  mlDsaPublic : B ML_DSA_87_PRIVATE_KEY_SIZE → B ML_DSA_87_PUBLIC_KEY_SIZE
  /-- ML-DSA-87 signing, encoded. -/
  mlDsaSign : B ML_DSA_87_PRIVATE_KEY_SIZE → Bytes → Bytes
  /-- Whether the bytes have the signature size and `MlDsaSignature::decode`
  accepts them. -/
  mlDsaSignatureValid : Bytes → Bool
  /-- ML-DSA-87 verification. -/
  mlDsaVerify : B ML_DSA_87_PUBLIC_KEY_SIZE → Bytes → Bytes → Bool
  /-- The ML-KEM-1024 encapsulation key of a seed. -/
  mlKemPublic : B ML_KEM_1024_PRIVATE_KEY_SIZE → B ML_KEM_1024_PUBLIC_KEY_SIZE
  /-- `EncapsulationKey::new` and `encapsulate_with_rng`; the second argument
  is the random draw.  It fails on bytes that are not an encapsulation key. -/
  mlKemEncapsulate : B ML_KEM_1024_PUBLIC_KEY_SIZE → B 32 →
    Option (Bytes × B ML_KEM_1024_SHARED_SECRET_SIZE)
  /-- `Ciphertext::try_from` and `decapsulate`.  It fails on a wrong size. -/
  mlKemDecapsulate : B ML_KEM_1024_PRIVATE_KEY_SIZE → Bytes →
    Option (B ML_KEM_1024_SHARED_SECRET_SIZE)

/-- The JSON codec of a type: `serde_json::to_vec` and `from_slice`. -/
class Serde (α : Type) where
  toVec : α → Bytes
  fromSlice : Bytes → Option α

/-- JSON reads back what it wrote, and it is text. -/
class LawfulSerde (α : Type) [Serde α] : Prop where
  fromSlice_toVec : ∀ x : α, Serde.fromSlice (Serde.toVec x) = some x
  isText : ∀ x : α, ∃ s : String, asBytes s = Serde.toVec x

@[simp] theorem fromSlice_toVec {α : Type} [Serde α] [LawfulSerde α] (x : α) :
    Serde.fromSlice (Serde.toVec x) = some x :=
  LawfulSerde.fromSlice_toVec x

/-- Distinct values have distinct JSON. -/
theorem toVec_inj {α : Type} [Serde α] [LawfulSerde α] {x y : α}
    (h : Serde.toVec x = Serde.toVec y) : x = y := by
  have hx := fromSlice_toVec x
  rw [h, fromSlice_toVec] at hx
  exact (Option.some.inj hx).symm

/-! ## What the code relies on -/

namespace Primitives

variable {B : Nat → Type} (P : Primitives B)

/-- A slice cut from an array converts back to the array. -/
def ArraysRoundTrip : Prop :=
  ∀ (n : Nat) (a : B n), P.tryFrom n (P.toVec a) = some a

/-- X25519 commutes. -/
def DhCommutes : Prop :=
  ∀ a b, P.diffieHellman a (P.x25519Public b) = P.diffieHellman b (P.x25519Public a)

/-- AEAD decryption undoes encryption under equal key, nonce and associated
data. -/
def AeadRoundTrip : Prop :=
  ∀ k nonce aad m c, P.aeadEncrypt k nonce aad m = some c →
    P.aeadDecrypt k nonce aad c = some m

/-- The ideal AEAD: decryption succeeds only under the exact key, nonce and
associated data that the ciphertext was made with. -/
structure AeadIdeal : Prop where
  sealed : ∀ k nonce aad m c, P.aeadDecrypt k nonce aad c = some m →
    P.aeadEncrypt k nonce aad m = some c
  inj : ∀ k nonce aad m k' nonce' aad' m' c,
    P.aeadEncrypt k nonce aad m = some c → P.aeadEncrypt k' nonce' aad' m' = some c →
    k = k' ∧ nonce = nonce' ∧ aad = aad'

/-- Honest signatures verify, in both halves of the hybrid scheme. -/
structure SignaturesVerify : Prop where
  ed25519Key : ∀ seed, P.ed25519KeyValid (P.ed25519Public seed) = true
  ed25519 : ∀ seed m, P.ed25519Verify (P.ed25519Public seed) m (P.ed25519Sign seed m) = true
  mlDsaSignature : ∀ seed m, P.mlDsaSignatureValid (P.mlDsaSign seed m) = true
  mlDsa : ∀ seed m, P.mlDsaVerify (P.mlDsaPublic seed) m (P.mlDsaSign seed m) = true

/-- Encapsulation toward the key of a seed succeeds, and decapsulation with
that seed undoes it. -/
def KemRoundTrip : Prop :=
  ∀ seed coins, ∃ c s, P.mlKemEncapsulate (P.mlKemPublic seed) coins = some (c, s) ∧
    P.mlKemDecapsulate seed c = some s

/-- HKDF, X25519 and ML-KEM as free functions: a value is made in one way only.
X25519 has the two ways of `DhCommutes`, and a secret that was encapsulated
comes only out of its own ciphertext, under the seed of its own key. -/
structure Free : Prop where
  hkdf : ∀ salt ikm info salt' ikm' info' n, P.hkdf salt ikm info n = P.hkdf salt' ikm' info' n →
    salt = salt' ∧ ikm = ikm' ∧ info = info'
  diffieHellman : ∀ a p b q, P.diffieHellman a p = P.diffieHellman b q →
    (a = b ∧ p = q) ∨ (p = P.x25519Public b ∧ q = P.x25519Public a)
  mlKem : ∀ p coins c s seed c', P.mlKemEncapsulate p coins = some (c, s) →
    P.mlKemDecapsulate seed c' = some s → p = P.mlKemPublic seed ∧ c' = c

end Primitives

/-! ## The AEAD nonce -/

/-- `[0u8; 12]` with `index.to_le_bytes()` copied into the last eight bytes. -/
def nonceOf (index : UInt64) : Bytes :=
  [0, 0, 0, 0] ++ LittleEndian.leBytes 8 index.toNat

/-- Distinct counters give distinct nonces. -/
theorem nonceOf_inj {i j : UInt64} (h : nonceOf i = nonceOf j) : i = j := by
  have hbytes : LittleEndian.leBytes 8 i.toNat = LittleEndian.leBytes 8 j.toNat := by
    simpa [nonceOf] using h
  have hi : i.toNat < 256 ^ 8 := i.toNat_lt
  have hj : j.toNat < 256 ^ 8 := j.toNat_lt
  exact UInt64.toNat_inj.mp (LittleEndian.leBytes_inj hi hj hbytes)

end Presidium
