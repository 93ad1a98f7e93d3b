import Presidium.Crypto.Pqxdh
import Presidium.Crypto.Symbolic

/-!
# Both sides of PQXDH derive one secret

`leg_agrees` is one leg: what the initiator encapsulates under its private key
toward a public key, the holder of that key decapsulates to the same secret.
`pqxdh_ok` runs the four legs and the optional fifth one through both
functions.
-/

namespace Presidium

variable {B : Nat → Type} {P : Primitives B}

/-- Encapsulation toward `k'` and decapsulation by `k'` meet. -/
theorem leg_agrees (hdh : P.DhCommutes) (hkem : P.KemRoundTrip)
    (k k' : HybridKemPrivateKey B) (coins : B 32) :
    ∃ shared ciphertext,
      hybridEncaps P k (k'.publicKey P) coins = .ok (shared, ciphertext) ∧
        hybridDh P k' (k.publicKey P) (some ciphertext) = .ok shared := by
  obtain ⟨ciphertext, pqShared, hencaps, hdecaps⟩ := hkem k'.pq coins
  refine ⟨HybridKemPrivateKey.combine P
    (P.diffieHellman k.classical (P.x25519Public k'.classical)) pqShared, ciphertext, ?_, ?_⟩
  · unfold hybridEncaps HybridKemPrivateKey.encapsulate HybridKemPrivateKey.publicKey
    simp only [hencaps]
    rfl
  · unfold hybridDh HybridKemPrivateKey.decapsulate HybridKemPrivateKey.publicKey
    simp only [hdecaps, hdh k.classical k'.classical]

/-- The keys of a responder that owns the prekeys of a bundle: the private part
of the signed prekey and of the first one-time prekey, or none of the latter
when the list is empty. -/
structure OwnsPrekeys (P : Primitives B) (keys : PqxdhResponderKeys B)
    (spk : SignedPreKey B) (opks : List (OneTimePreKey B)) : Prop where
  signedPrekey : spk.publicKey = keys.signedPrekey.publicKey P
  signedPrekeyId : keys.signedPrekeyId = spk.keyId
  oneTimePrekey : opks.head?.map OneTimePreKey.publicKey =
    keys.oneTimePrekey.map (HybridKemPrivateKey.publicKey P)
  oneTimePrekeyId : keys.oneTimePrekeyId = opks.head?.map OneTimePreKey.keyId

/-- The fifth leg, present or not. -/
theorem oneTime_agrees (hdh : P.DhCommutes) (hkem : P.KemRoundTrip)
    (ephemeral : HybridKemPrivateKey B) {otpk : Option (OneTimePreKey B)}
    {opk : Option (HybridKemPrivateKey B)}
    (hopk : otpk.map OneTimePreKey.publicKey = opk.map (HybridKemPrivateKey.publicKey P))
    (coins : B 32) :
    ∃ dh5 ct5, encapsOneTime P ephemeral otpk coins =
        .ok (dh5, ct5, otpk.map OneTimePreKey.keyId) ∧
      ∀ message : PqxdhPrekeyMessage B, message.oneTimeCiphertext = ct5 →
        message.ephemeralPublic = ephemeral.publicKey P →
        decapsOneTime P opk message =
          .ok ((otpk.map OneTimePreKey.keyId).map fun _ => dh5) := by
  cases otpk with
  | none =>
    obtain rfl : opk = none := by simpa using hopk.symm
    exact ⟨P.zeros 32, none, rfl, fun _ _ _ => rfl⟩
  | some otpk =>
    obtain ⟨opk, rfl⟩ : ∃ k, opk = some k := by
      cases opk with
      | none => simp at hopk
      | some k => exact ⟨k, rfl⟩
    have hkey : otpk.publicKey = opk.publicKey P := by simpa using hopk
    obtain ⟨dh5, ct5, hencaps, hdecaps⟩ := leg_agrees hdh hkem ephemeral opk coins
    refine ⟨dh5, some ct5, ?_, ?_⟩
    · unfold encapsOneTime
      simp only [hkey, hencaps]
      rfl
    · intro message hct hpublic
      unfold decapsOneTime
      simp only [hct, hpublic, hdecaps]
      rfl

section Run

variable {keys : PqxdhResponderKeys B} {spk : SignedPreKey B} {opks : List (OneTimePreKey B)}

/-- A responder finds the one-time prekey that its own bundle lists first. -/
theorem OwnsPrekeys.select (h : OwnsPrekeys P keys spk opks) {message : PqxdhPrekeyMessage B}
    (hid : message.oneTimePrekeyId = opks.head?.map OneTimePreKey.keyId) :
    selectOneTimePrekey keys message = .ok keys.oneTimePrekey := by
  obtain ⟨-, -, hopk, hopkId⟩ := h
  unfold selectOneTimePrekey
  rw [hid, hopkId]
  cases hfirst : opks.head? <;> cases hown : keys.oneTimePrekey <;>
    simp [hfirst, hown] at hopk ⊢

/-- The responder accepts the message of the initiator, with the same output. -/
theorem pqxdh_ok (hdh : P.DhCommutes) (hkem : P.KemRoundTrip) (hsig : P.SignaturesVerify)
    (howns : OwnsPrekeys P keys spk opks) (identity : IdentityKeyPair B)
    (ephemeral : HybridKemPrivateKey B) (coins : Coins B) :
    ∃ output message,
      pqxdhInitiator P ⟨identity, ephemeral, .new P keys.identity spk opks⟩ coins =
        .ok (output, message) ∧
      pqxdhResponder P keys message = .ok output ∧
      message.identityPublic = identity.publicKey P := by
  obtain ⟨dh1, ct1, e1, d1⟩ := leg_agrees hdh hkem ephemeral keys.signedPrekey coins.dh1
  obtain ⟨dh2, ct2, e2, d2⟩ :=
    leg_agrees hdh hkem (identity.kemSecret P) keys.signedPrekey coins.dh2
  obtain ⟨dh3, ct3, e3, d3⟩ :=
    leg_agrees hdh hkem ephemeral (keys.identity.kemSecret P) coins.dh3
  obtain ⟨dh4, ct4, e4, d4⟩ :=
    leg_agrees hdh hkem (identity.kemSecret P) (keys.identity.kemSecret P) coins.dh4
  obtain ⟨dh5, ct5, e5, d5⟩ := oneTime_agrees hdh hkem ephemeral howns.oneTimePrekey coins.dh5
  rw [← howns.signedPrekey] at e1 e2
  have hinitiator : InitiatorRun P ⟨identity, ephemeral, .new P keys.identity spk opks⟩ coins
      ⟨dh1, dh2, dh3, dh4⟩ ⟨ct1, ct2, ct3, ct4⟩ dh5 ct5 (opks.head?.map OneTimePreKey.keyId) :=
    ⟨PreKeyBundle.verify_new hsig _ _ _, e1, e2, e3, e4, e5⟩
  refine ⟨_, _, (pqxdhInitiator_eq_ok P).mpr ⟨_, _, _, _, _, hinitiator, rfl, rfl⟩, ?_, rfl⟩
  exact (pqxdhResponder_eq_ok P).mpr
    ⟨keys.oneTimePrekey, ⟨dh1, dh2, dh3, dh4⟩, _,
      ⟨howns.signedPrekeyId.symm, howns.select rfl, d1, d2, d3, d4, d5 _ rfl rfl⟩, rfl⟩

/-- PQXDH agreement, with or without a one-time prekey: the initiator succeeds
on the responder's bundle, the responder accepts the message, and both hold
the same secret and the same root key. -/
theorem pqxdh_agrees (hdh : P.DhCommutes) (hkem : P.KemRoundTrip) (hsig : P.SignaturesVerify)
    (howns : OwnsPrekeys P keys spk opks) (identity : IdentityKeyPair B)
    (ephemeral : HybridKemPrivateKey B) (coins : Coins B) :
    ∃ outA message outB,
      pqxdhInitiator P ⟨identity, ephemeral, .new P keys.identity spk opks⟩ coins =
        .ok (outA, message) ∧
      pqxdhResponder P keys message = .ok outB ∧
      outA.sharedSecret = outB.sharedSecret ∧
      outA.ephemeralPublic = outB.ephemeralPublic ∧
      outA.signedPrekeyId = outB.signedPrekeyId ∧
      outA.oneTimePrekeyId = outB.oneTimePrekeyId ∧
      pqxdhDeriveKeys P outA = pqxdhDeriveKeys P outB ∧
      ∀ peerA peerB, (SessionKeys.new P true outA.sharedSecret peerA).rootKey =
        (SessionKeys.new P false outB.sharedSecret peerB).rootKey := by
  obtain ⟨output, message, hinitiator, hresponder, -⟩ :=
    pqxdh_ok hdh hkem hsig howns identity ephemeral coins
  exact ⟨output, message, output, hinitiator, hresponder, rfl, rfl, rfl, rfl, rfl,
    fun _ _ => rfl⟩

end Run

/-! ## Fixed keys -/

namespace Sym

/-- An initiator, its ephemeral key and its coins. -/
def alice : IdentityKeyPair Sym := { classical := [30], pq := [31] }

def ephemeral : HybridKemPrivateKey Sym := { classical := [32], pq := [33] }

def coins : Coins Sym := { dh1 := [34], dh2 := [35], dh3 := [36], dh4 := [37], dh5 := [38] }

/-- A responder with one one-time prekey. -/
def responderKeys : PqxdhResponderKeys Sym :=
  { identity := { classical := [40], pq := [41] }
    signedPrekey := { classical := [42], pq := [43] }
    signedPrekeyId := 1
    oneTimePrekey := some { classical := [44], pq := [45] }
    oneTimePrekeyId := some 7 }

def signedPrekey : SignedPreKey Sym :=
  { keyId := 1
    publicKey := responderKeys.signedPrekey.publicKey primitives
    signature := responderKeys.identity.signHybrid primitives [4, 42]
    timestamp := 0 }

def oneTimePrekeys : List (OneTimePreKey Sym) :=
  [{ keyId := 7, publicKey := { classical := [4, 44], pq := [11, 45] } }]

end Sym

theorem pqxdh_agrees_oneTime :
    OwnsPrekeys Sym.primitives Sym.responderKeys Sym.signedPrekey Sym.oneTimePrekeys ∧
      ∃ outA message outB,
        pqxdhInitiator Sym.primitives ⟨Sym.alice, Sym.ephemeral,
            .new Sym.primitives Sym.responderKeys.identity Sym.signedPrekey Sym.oneTimePrekeys⟩
          Sym.coins = .ok (outA, message) ∧
        pqxdhResponder Sym.primitives Sym.responderKeys message = .ok outB ∧
        outA.sharedSecret = outB.sharedSecret := by
  have howns : OwnsPrekeys Sym.primitives Sym.responderKeys Sym.signedPrekey
      Sym.oneTimePrekeys := ⟨rfl, rfl, rfl, rfl⟩
  obtain ⟨outA, message, outB, hinitiator, hresponder, hsecret, -⟩ :=
    pqxdh_agrees Sym.dhCommutes Sym.kemRoundTrip Sym.signaturesVerify howns Sym.alice
      Sym.ephemeral Sym.coins
  exact ⟨howns, outA, message, outB, hinitiator, hresponder, hsecret⟩

end Presidium
