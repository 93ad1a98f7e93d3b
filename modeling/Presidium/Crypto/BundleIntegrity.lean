import Presidium.Crypto.Identity
import Presidium.Lib.Delimited

/-!
# The signature of a prekey bundle

`bundle_bytes` concatenates eight fields and then the one-time prekeys, without
any framing.  All parts have a fixed width, because arrays do
(`Primitives.ArrayLengths`) and the integers are written out in full.  So the
string can be read from the front, and a list of one-time prekeys of any length
can be read off its end (`bundleBytes_inj`).

With ideal signatures a bundle is then bound to its signature in all of these
fields (`bundle_integrity`).  The signature inside the signed prekey is not
among them.
-/

namespace Presidium

variable {B : Nat → Type}

attribute [ext] IdentityPublicKey HybridKemPublicKey

/-- An array has as many bytes as its type says. -/
def Primitives.ArrayLengths (P : Primitives B) : Prop :=
  ∀ (n : Nat) (a : B n), (P.toVec a).length = n

/-- The two bundles agree in everything that `bundle_bytes` covers. -/
structure PreKeyBundle.Agree (a b : PreKeyBundle B) : Prop where
  identityKey : a.identityKey = b.identityKey
  identityKemPublic : a.identityKemPublic = b.identityKemPublic
  signedPrekeyId : a.signedPrekey.keyId = b.signedPrekey.keyId
  signedPrekeyPublic : a.signedPrekey.publicKey = b.signedPrekey.publicKey
  timestamp : a.signedPrekey.timestamp = b.signedPrekey.timestamp
  oneTimePrekeys : a.oneTimePrekeys = b.oneTimePrekeys

/-- The signed bytes of a bundle. -/
def PreKeyBundle.signedBytes (P : Primitives B) (b : PreKeyBundle B) : Bytes :=
  bundleBytes P b.identityKey b.identityKemPublic b.signedPrekey b.oneTimePrekeys

/-! ## The parts -/

/-- The bytes of one one-time prekey. -/
def oneTimeBytes (P : Primitives B) (otpk : OneTimePreKey B) : Bytes :=
  LittleEndian.leBytes 4 otpk.keyId.toNat ++ P.toVec otpk.publicKey.classical ++
    P.toVec otpk.publicKey.pq

theorem delimited_u32 : Delimited fun n : UInt32 => LittleEndian.leBytes 4 n.toNat := by
  refine .of_width (fun n => LittleEndian.length_leBytes 4 n.toNat) ?_
  intro n m h
  exact UInt32.toNat_inj.mp (LittleEndian.leBytes_inj n.toNat_lt m.toNat_lt h)

theorem delimited_u64 : Delimited fun n : UInt64 => LittleEndian.leBytes 8 n.toNat := by
  refine .of_width (fun n => LittleEndian.length_leBytes 8 n.toNat) ?_
  intro n m h
  exact UInt64.toNat_inj.mp (LittleEndian.leBytes_inj n.toNat_lt m.toNat_lt h)

section Arrays

variable {P : Primitives B} (harrays : P.ArraysRoundTrip) (hlengths : P.ArrayLengths)
include harrays hlengths

theorem delimited_toVec (n : Nat) : Delimited fun a : B n => P.toVec a := by
  refine .of_width (hlengths n) ?_
  intro a a' h
  have hread := harrays n a
  have h : P.toVec a = P.toVec a' := h
  rw [h, harrays n a'] at hread
  exact (Option.some.inj hread).symm

theorem delimited_oneTimeBytes : Delimited (oneTimeBytes P) := by
  rintro ⟨id, classical, pq⟩ ⟨id', classical', pq'⟩ r t h
  simp only [oneTimeBytes, List.append_assoc] at h
  obtain ⟨hid, h⟩ := delimited_u32 h
  obtain ⟨hclassical, h⟩ := delimited_toVec harrays hlengths _ h
  obtain ⟨hpq, h⟩ := delimited_toVec harrays hlengths _ h
  rw [hid, hclassical, hpq]
  exact ⟨rfl, h⟩

omit harrays hlengths in
theorem oneTimeBytes_ne_nil (otpk : OneTimePreKey B) : oneTimeBytes P otpk ≠ [] := by
  intro h
  have hlength := congrArg List.length h
  simp only [oneTimeBytes, List.length_append, LittleEndian.length_leBytes, List.length_nil]
    at hlength
  omega

/-- The signed bytes give all their fields back. -/
theorem bundleBytes_inj {a b : PreKeyBundle B} (h : a.signedBytes P = b.signedBytes P) :
    a.Agree b := by
  have hvec := fun n => delimited_toVec harrays hlengths (P := P) n
  simp only [PreKeyBundle.signedBytes, bundleBytes, List.append_assoc] at h
  obtain ⟨hclassical, h⟩ := hvec _ h
  obtain ⟨hpq, h⟩ := hvec _ h
  obtain ⟨hkemClassical, h⟩ := hvec _ h
  obtain ⟨hkemPq, h⟩ := hvec _ h
  obtain ⟨hid, h⟩ := delimited_u32 h
  obtain ⟨hsignedClassical, h⟩ := hvec _ h
  obtain ⟨hsignedPq, h⟩ := hvec _ h
  obtain ⟨htimestamp, h⟩ := delimited_u64 h
  have hlist : a.oneTimePrekeys.flatMap (oneTimeBytes P) =
      b.oneTimePrekeys.flatMap (oneTimeBytes P) := by
    have hbytes : oneTimeBytes P = fun otpk => LittleEndian.leBytes 4 otpk.keyId.toNat ++
        (P.toVec otpk.publicKey.classical ++ P.toVec otpk.publicKey.pq) :=
      funext fun _ => List.append_assoc _ _ _
    rw [hbytes]
    exact h
  have honeTime := (delimited_oneTimeBytes harrays hlengths).flatMap_injective
    oneTimeBytes_ne_nil hlist
  exact ⟨IdentityPublicKey.ext hclassical hpq, HybridKemPublicKey.ext hkemClassical hkemPq, hid,
    HybridKemPublicKey.ext hsignedClassical hsignedPq, htimestamp, honeTime⟩

end Arrays

/-- A bundle made by an identity verifies.  The signed bytes determine every
field that they cover, with one-time lists of any length, so two bundles that
are accepted under one identity key and one signature agree in all of them. -/
theorem bundle_integrity {P : Primitives B} (hsig : P.SignaturesVerify)
    (hideal : IdentityKeyPair.SignaturesIdeal P) (harrays : P.ArraysRoundTrip)
    (hlengths : P.ArrayLengths) :
    (∀ identity signedPrekey oneTimePrekeys,
        (PreKeyBundle.new P identity signedPrekey oneTimePrekeys).verify P = .ok ()) ∧
      (∀ a b : PreKeyBundle B, a.signedBytes P = b.signedBytes P → a.Agree b) ∧
      ∀ a b : PreKeyBundle B, a.verify P = .ok () → b.verify P = .ok () →
        b.identityKey = a.identityKey → b.bundleSignature = a.bundleSignature → a.Agree b := by
  refine ⟨PreKeyBundle.verify_new hsig, ?_, ?_⟩
  · intro a b h
    exact bundleBytes_inj harrays hlengths h
  · intro a b ha hb hkey hsignature
    have hb : IdentityKeyPair.verifyHybrid P a.identityKey (b.signedBytes P) a.bundleSignature =
        .ok () := by
      rw [← hkey, ← hsignature]
      exact hb
    exact bundleBytes_inj harrays hlengths (hideal _ _ _ _ ha hb)

/-! ## Real arrays -/

namespace Plain

/-- Primitives on real byte arrays.  The second half of a signature is the
message itself, and nothing else computes anything. -/
def primitives : Primitives fun n => Vector UInt8 n where
  toVec v := v.toList
  tryFrom n b := if h : b.length = n then some ⟨b.toArray, h⟩ else none
  zeros n := Vector.replicate n 0
  hmacSha256 _ _ := Vector.replicate _ 0
  hkdf _ _ _ n := Vector.replicate n 0
  sha256 _ := Vector.replicate _ 0
  argon2id _ _ := Vector.replicate _ 0
  x25519Public a := a
  diffieHellman a _ := a
  aeadEncrypt _ _ _ m := some m
  aeadDecrypt _ _ _ c := some c
  ed25519Public a := a
  ed25519Sign _ _ := Vector.replicate _ 0
  ed25519KeyValid _ := true
  ed25519Verify _ _ _ := true
  mlDsaPublic _ := Vector.replicate _ 0
  mlDsaSign _ m := m
  mlDsaSignatureValid _ := true
  mlDsaVerify _ m sig := sig == m
  mlKemPublic _ := Vector.replicate _ 0
  mlKemEncapsulate _ coins := some ([], coins)
  mlKemDecapsulate _ _ := some (Vector.replicate _ 0)

theorem arraysRoundTrip : primitives.ArraysRoundTrip := by
  intro n a
  have hlength : a.toList.length = n := a.length_toList
  show (if h : a.toList.length = n then some (⟨a.toList.toArray, h⟩ : Vector UInt8 n) else none) =
    some a
  rw [dif_pos hlength]
  rfl

theorem arrayLengths : primitives.ArrayLengths := fun _ a => a.length_toList

theorem signaturesVerify : primitives.SignaturesVerify where
  ed25519Key _ := rfl
  ed25519 _ _ := rfl
  mlDsaSignature _ _ := rfl
  mlDsa _ m := beq_self_eq_true m

theorem signaturesIdeal : IdentityKeyPair.SignaturesIdeal primitives := by
  have hpq : ∀ pub message sig, IdentityKeyPair.verifyHybrid primitives pub message sig = .ok () →
      sig.pq = message := by
    intro pub message sig h
    unfold IdentityKeyPair.verifyHybrid at h
    simpa [primitives] using h
  intro pub message message' sig h h'
  exact (hpq _ _ _ h).symm.trans (hpq _ _ _ h')

def identity : IdentityKeyPair fun n => Vector UInt8 n :=
  { classical := Vector.replicate _ 1, pq := Vector.replicate _ 2 }

def signedPrekey : SignedPreKey fun n => Vector UInt8 n :=
  { keyId := 1
    publicKey := { classical := Vector.replicate _ 3, pq := Vector.replicate _ 4 }
    signature := identity.signHybrid primitives []
    timestamp := 5 }

def oneTimePrekey : OneTimePreKey fun n => Vector UInt8 n :=
  { keyId := 7, publicKey := { classical := Vector.replicate _ 6, pq := Vector.replicate _ 7 } }

/-- A bundle with one one-time prekey. -/
def bundle : PreKeyBundle fun n => Vector UInt8 n :=
  .new primitives identity signedPrekey [oneTimePrekey]

end Plain

/-- Without its one-time prekey a signed bundle is not accepted any more. -/
theorem bundle_integrity_removed :
    Plain.bundle.verify Plain.primitives = .ok () ∧
      PreKeyBundle.verify Plain.primitives { Plain.bundle with oneTimePrekeys := [] } ≠ .ok () := by
  obtain ⟨hnew, -, hbound⟩ := bundle_integrity Plain.signaturesVerify Plain.signaturesIdeal
    Plain.arraysRoundTrip Plain.arrayLengths
  have hverify : Plain.bundle.verify Plain.primitives = .ok () := hnew _ _ _
  refine ⟨hverify, fun hremoved => ?_⟩
  have hagree := hbound Plain.bundle { Plain.bundle with oneTimePrekeys := [] } hverify hremoved
    rfl rfl
  exact absurd hagree.oneTimePrekeys (List.cons_ne_nil Plain.oneTimePrekey [])

end Presidium
