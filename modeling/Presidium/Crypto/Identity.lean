import Presidium.Crypto.Primitives

/-!
# Identity keys and prekeys of `identity.rs`

Signatures and key encapsulation are hybrid: a classical half and a
post-quantum half.  A signature verifies only when both halves do, and the
shared secret of a KEM leg is derived from both.

Random draws are arguments.  `IdentityKeyPair::generate` draws two seeds,
`HybridKemPublicKey::generate` draws a private key, and `encapsulate` draws
the ML-KEM coins.
-/

namespace Presidium

variable {B : Nat → Type}

/-- Hybrid identity key pair, as its two seeds: Ed25519 and ML-DSA-87. -/
structure IdentityKeyPair (B : Nat → Type) where
  classical : B ED25519_PRIVATE_KEY_SIZE
  pq : B ML_DSA_87_PRIVATE_KEY_SIZE

structure IdentityPublicKey (B : Nat → Type) where
  classical : B ED25519_PUBLIC_KEY_SIZE
  pq : B ML_DSA_87_PUBLIC_KEY_SIZE

structure HybridSignature (B : Nat → Type) where
  classical : B ED25519_SIGNATURE_SIZE
  pq : Bytes

structure HybridKemPublicKey (B : Nat → Type) where
  classical : B X25519_PUBLIC_KEY_SIZE
  pq : B ML_KEM_1024_PUBLIC_KEY_SIZE

structure HybridKemPrivateKey (B : Nat → Type) where
  classical : B X25519_PRIVATE_KEY_SIZE
  pq : B ML_KEM_1024_PRIVATE_KEY_SIZE

/-! ## Key encapsulation -/

namespace HybridKemPrivateKey

/-- The matching public key. -/
def publicKey (P : Primitives B) (k : HybridKemPrivateKey B) : HybridKemPublicKey B :=
  { classical := P.x25519Public k.classical, pq := P.mlKemPublic k.pq }

/-- HKDF over the X25519 and the ML-KEM secret, the end of both directions. -/
def combine (P : Primitives B) (classicalShared : B X25519_SHARED_SECRET_SIZE)
    (pqShared : B ML_KEM_1024_SHARED_SECRET_SIZE) : B 32 :=
  P.hkdf .none [classicalShared, pqShared] "presidium-pqxdh-shared" 32

/-- Hybrid encapsulation toward a peer key: ciphertext and shared secret. -/
def encapsulate (P : Primitives B) (k : HybridKemPrivateKey B) (peerPublic : HybridKemPublicKey B)
    (coins : B 32) : Except CryptoError (Bytes × B 32) :=
  let classicalShared := P.diffieHellman k.classical peerPublic.classical
  match P.mlKemEncapsulate peerPublic.pq coins with
  | none => .error (.invalidKey "Invalid ML-KEM-1024 public key")
  | some (ciphertext, pqShared) => .ok (ciphertext, combine P classicalShared pqShared)

/-- Hybrid decapsulation of a peer ciphertext. -/
def decapsulate (P : Primitives B) (k : HybridKemPrivateKey B) (ciphertext : Bytes)
    (peerPublic : HybridKemPublicKey B) : Except CryptoError (B 32) :=
  let classicalShared := P.diffieHellman k.classical peerPublic.classical
  match P.mlKemDecapsulate k.pq ciphertext with
  | none => .error (.invalidParameter "Invalid ciphertext size")
  | some pqShared => .ok (combine P classicalShared pqShared)

end HybridKemPrivateKey

/-- `HybridKemPublicKey::generate`, for the private key that was drawn. -/
def HybridKemPublicKey.generate (P : Primitives B) (drawn : HybridKemPrivateKey B) :
    HybridKemPublicKey B × HybridKemPrivateKey B :=
  (drawn.publicKey P, drawn)

/-! ## Identities -/

namespace IdentityKeyPair

/-- Rebuild an identity from the stored seeds. -/
def fromSeed (P : Primitives B) (classicalSeed pqSeed : Bytes) :
    Except CryptoError (IdentityKeyPair B) :=
  match P.tryFrom ED25519_PRIVATE_KEY_SIZE classicalSeed with
  | none => .error (.invalidKey "classical seed must be 32 bytes")
  | some classical =>
    match P.tryFrom ML_DSA_87_PRIVATE_KEY_SIZE pqSeed with
    | none => .error (.invalidKey "pq seed must be 32 bytes")
    | some pq => .ok { classical, pq }

/-- The raw seeds, as an `IdentityRecord` persists them. -/
def seeds (P : Primitives B) (i : IdentityKeyPair B) : Bytes × Bytes :=
  (P.toVec i.classical, P.toVec i.pq)

/-- `IdentityKeyPair::public`. -/
def publicKey (P : Primitives B) (i : IdentityKeyPair B) : IdentityPublicKey B :=
  { classical := P.ed25519Public i.classical, pq := P.mlDsaPublic i.pq }

/-- Sign with both keys. -/
def signHybrid (P : Primitives B) (i : IdentityKeyPair B) (message : Bytes) :
    HybridSignature B :=
  { classical := P.ed25519Sign i.classical message, pq := P.mlDsaSign i.pq message }

/-- Verify both halves, the classical one first. -/
def verifyHybrid (P : Primitives B) (pub : IdentityPublicKey B) (message : Bytes)
    (sig : HybridSignature B) : Except CryptoError Unit :=
  if P.ed25519KeyValid pub.classical = false then
    .error (.invalidKey "Invalid Ed25519 public key")
  else if P.ed25519Verify pub.classical message sig.classical = false then
    .error .invalidSignature
  else if P.mlDsaSignatureValid sig.pq = false then
    .error .invalidSignature
  else if P.mlDsaVerify pub.pq message sig.pq = false then
    .error .invalidSignature
  else
    .ok ()

/-- The KEM private key of an identity.  Its X25519 half is the Ed25519 seed. -/
def kemSecret (P : Primitives B) (i : IdentityKeyPair B) : HybridKemPrivateKey B :=
  { classical := i.classical
    pq := P.hkdf (.label "presidium-identity-kem") [i.pq] "identity-pq-seed"
      ML_KEM_1024_PRIVATE_KEY_SIZE }

def kemPublic (P : Primitives B) (i : IdentityKeyPair B) : HybridKemPublicKey B :=
  (i.kemSecret P).publicKey P

variable {P : Primitives B}

/-- Honest signatures verify. -/
theorem verifyHybrid_signHybrid (h : P.SignaturesVerify) (i : IdentityKeyPair B)
    (message : Bytes) :
    verifyHybrid P (i.publicKey P) message (i.signHybrid P message) = .ok () := by
  unfold verifyHybrid signHybrid IdentityKeyPair.publicKey
  simp only [h.ed25519Key, h.ed25519, h.mlDsaSignature, h.mlDsa]
  rfl

/-- Ideal signatures: one signature is valid for one byte string only. -/
def SignaturesIdeal (P : Primitives B) : Prop :=
  ∀ pub message message' sig, verifyHybrid P pub message sig = .ok () →
    verifyHybrid P pub message' sig = .ok () → message = message'

/-- What a hybrid signature must pass in its first half. -/
theorem ed25519Verify_of_verifyHybrid {pub : IdentityPublicKey B} {message : Bytes}
    {sig : HybridSignature B} (h : verifyHybrid P pub message sig = .ok ()) :
    P.ed25519Verify pub.classical message sig.classical = true := by
  unfold verifyHybrid at h
  by_cases hkey : P.ed25519KeyValid pub.classical = false
  · simp [hkey] at h
  · by_cases hverify : P.ed25519Verify pub.classical message sig.classical = false
    · simp [hkey, hverify] at h
    · simpa using hverify

/-- The stored seeds give the identity back. -/
theorem fromSeed_seeds (h : P.ArraysRoundTrip) (i : IdentityKeyPair B) :
    fromSeed P (i.seeds P).1 (i.seeds P).2 = .ok i := by
  unfold fromSeed seeds
  simp only [h _ _]

end IdentityKeyPair

/-! ## Prekey bundles -/

structure SignedPreKey (B : Nat → Type) where
  keyId : UInt32
  publicKey : HybridKemPublicKey B
  signature : HybridSignature B
  timestamp : UInt64

structure OneTimePreKey (B : Nat → Type) where
  keyId : UInt32
  publicKey : HybridKemPublicKey B

structure PreKeyBundle (B : Nat → Type) where
  identityKey : IdentityPublicKey B
  identityKemPublic : HybridKemPublicKey B
  signedPrekey : SignedPreKey B
  oneTimePrekeys : List (OneTimePreKey B)
  bundleSignature : HybridSignature B

/-- The bytes that the bundle signature covers.  The signature of the signed
prekey is not among them. -/
def bundleBytes (P : Primitives B) (identity : IdentityPublicKey B)
    (identityKemPublic : HybridKemPublicKey B) (signedPrekey : SignedPreKey B)
    (oneTimePrekeys : List (OneTimePreKey B)) : Bytes :=
  P.toVec identity.classical ++ P.toVec identity.pq ++
    P.toVec identityKemPublic.classical ++ P.toVec identityKemPublic.pq ++
    LittleEndian.leBytes 4 signedPrekey.keyId.toNat ++
    P.toVec signedPrekey.publicKey.classical ++ P.toVec signedPrekey.publicKey.pq ++
    LittleEndian.leBytes 8 signedPrekey.timestamp.toNat ++
    oneTimePrekeys.flatMap fun otpk =>
      LittleEndian.leBytes 4 otpk.keyId.toNat ++ P.toVec otpk.publicKey.classical ++
        P.toVec otpk.publicKey.pq

namespace PreKeyBundle

/-- A bundle signed by the identity key. -/
def new (P : Primitives B) (identity : IdentityKeyPair B) (signedPrekey : SignedPreKey B)
    (oneTimePrekeys : List (OneTimePreKey B)) : PreKeyBundle B :=
  { identityKey := identity.publicKey P
    identityKemPublic := identity.kemPublic P
    signedPrekey
    oneTimePrekeys
    bundleSignature := identity.signHybrid P
      (bundleBytes P (identity.publicKey P) (identity.kemPublic P) signedPrekey oneTimePrekeys) }

/-- Verify the bundle signature. -/
def verify (P : Primitives B) (b : PreKeyBundle B) : Except CryptoError Unit :=
  IdentityKeyPair.verifyHybrid P b.identityKey
    (bundleBytes P b.identityKey b.identityKemPublic b.signedPrekey b.oneTimePrekeys)
    b.bundleSignature

theorem verify_new {P : Primitives B} (h : P.SignaturesVerify) (identity : IdentityKeyPair B)
    (signedPrekey : SignedPreKey B) (oneTimePrekeys : List (OneTimePreKey B)) :
    (new P identity signedPrekey oneTimePrekeys).verify P = .ok () :=
  IdentityKeyPair.verifyHybrid_signHybrid h identity _

end PreKeyBundle
end Presidium
