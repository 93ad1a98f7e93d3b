import Presidium.Crypto.PqxdhAgreement

/-!
# What the PQXDH secret says about identities

With HKDF, X25519 and ML-KEM free, an equal secret forces the keys of the legs:
the responder owns the KEM keys of the bundle, and the message carries the
X25519 halves of the initiator.  It forces nothing else.  `identity_public` is
no input of any leg, and the `identity_key` of a bundle is tied to its
`identity_kem_public` only by a signature that the owner of `identity_key`
makes.

So a message reaches the secret exactly when the responder owns the KEM keys of
the bundle (`KeysMatch`), and then it still does under any other
`identity_public`.
-/

namespace Presidium

variable {B : Nat → Type} {P : Primitives B}

/-! ## One leg -/

theorem hybridEncaps_eq_ok {k : HybridKemPrivateKey B} {peer : HybridKemPublicKey B}
    {coins shared : B 32} {ciphertext : Bytes} :
    hybridEncaps P k peer coins = .ok (shared, ciphertext) ↔
      ∃ pqShared, P.mlKemEncapsulate peer.pq coins = some (ciphertext, pqShared) ∧
        shared = HybridKemPrivateKey.combine P
          (P.diffieHellman k.classical peer.classical) pqShared := by
  unfold hybridEncaps HybridKemPrivateKey.encapsulate
  cases hencaps : P.mlKemEncapsulate peer.pq coins with
  | none =>
    constructor
    · intro h
      cases h
    · rintro ⟨_, h, -⟩
      cases h
  | some out =>
    constructor
    · intro h
      obtain ⟨rfl, rfl⟩ := Prod.mk.inj (Except.ok.inj h)
      exact ⟨out.2, rfl, rfl⟩
    · rintro ⟨pqShared, h, rfl⟩
      obtain rfl := Option.some.inj h
      rfl

theorem hybridDh_eq_ok {k : HybridKemPrivateKey B} {peer : HybridKemPublicKey B}
    {shared : B 32} {ciphertext : Bytes} :
    hybridDh P k peer (some ciphertext) = .ok shared ↔
      ∃ pqShared, P.mlKemDecapsulate k.pq ciphertext = some pqShared ∧
        shared = HybridKemPrivateKey.combine P
          (P.diffieHellman k.classical peer.classical) pqShared := by
  show k.decapsulate P ciphertext peer = .ok shared ↔ _
  unfold HybridKemPrivateKey.decapsulate
  cases hdecaps : P.mlKemDecapsulate k.pq ciphertext with
  | none =>
    constructor
    · intro h
      cases h
    · rintro ⟨_, h, -⟩
      cases h
  | some out =>
    constructor
    · intro h
      exact ⟨out, rfl, (Except.ok.inj h).symm⟩
    · rintro ⟨pqShared, h, rfl⟩
      obtain rfl := Option.some.inj h
      rfl

/-- The owner of the peer key undoes a leg. -/
theorem leg_undone (hdh : P.DhCommutes) (hkem : P.KemRoundTrip) {k k' : HybridKemPrivateKey B}
    {coins shared : B 32} {ciphertext : Bytes}
    (h : hybridEncaps P k (k'.publicKey P) coins = .ok (shared, ciphertext)) :
    hybridDh P k' (k.publicKey P) (some ciphertext) = .ok shared := by
  obtain ⟨shared', ciphertext', hencaps, hdecaps⟩ := leg_agrees hdh hkem k k' coins
  obtain ⟨rfl, rfl⟩ := Prod.mk.inj (Except.ok.inj (hencaps.symm.trans h))
  exact hdecaps

/-- The two ways in which `a` with the point `p` and `b` with the point `q`
come to one X25519 secret. -/
def Meet (P : Primitives B) (a : B X25519_PRIVATE_KEY_SIZE) (p : B X25519_PUBLIC_KEY_SIZE)
    (b : B X25519_PRIVATE_KEY_SIZE) (q : B X25519_PUBLIC_KEY_SIZE) : Prop :=
  (a = b ∧ p = q) ∨ (p = P.x25519Public b ∧ q = P.x25519Public a)

/-- Equal legs: the ML-KEM key belongs to the seed, and the X25519 halves meet. -/
theorem leg_forces (hfree : P.Free) {k k' : HybridKemPrivateKey B}
    {peer peer' : HybridKemPublicKey B} {coins shared : B 32} {ciphertext ciphertext' : Bytes}
    (hencaps : hybridEncaps P k peer coins = .ok (shared, ciphertext))
    (hdecaps : hybridDh P k' peer' (some ciphertext') = .ok shared) :
    peer.pq = P.mlKemPublic k'.pq ∧
      Meet P k.classical peer.classical k'.classical peer'.classical := by
  obtain ⟨pqShared, hpq, hshared⟩ := hybridEncaps_eq_ok.mp hencaps
  obtain ⟨pqShared', hpq', hshared'⟩ := hybridDh_eq_ok.mp hdecaps
  obtain ⟨-, hinput, -⟩ := hfree.hkdf _ _ _ _ _ _ _ (hshared.symm.trans hshared')
  obtain ⟨hclassical, hrest⟩ := List.cons.inj hinput
  obtain rfl := (List.cons.inj hrest).1
  exact ⟨(hfree.mlKem _ _ _ _ _ _ hpq hpq').1, hfree.diffieHellman _ _ _ _ hclassical⟩

/-- The secret `e` on two legs.  Either it is the secret of the peer, or both
points are those of the peer and the peer was given the public key of `e`. -/
theorem meet_both {e s i : B X25519_PRIVATE_KEY_SIZE} {p p' q : B X25519_PUBLIC_KEY_SIZE}
    (h : Meet P e p s q) (h' : Meet P e p' i q) :
    (e = s ∧ p = q) ∨
      (p = P.x25519Public s ∧ p' = P.x25519Public i ∧ q = P.x25519Public e) := by
  rcases h with hsame | ⟨hp, hq⟩
  · exact .inl hsame
  · right
    rcases h' with ⟨rfl, hp'⟩ | ⟨hp', -⟩
    · exact ⟨hp, hp'.trans hq, hq⟩
    · exact ⟨hp, hp', hq⟩

/-- Two different secrets on the same two legs cannot both be the secret of the
peer, so the points are those of the peer. -/
theorem meet_forces {e a s i : B X25519_PRIVATE_KEY_SIZE}
    {p p' qe qa : B X25519_PUBLIC_KEY_SIZE} (hne : e ≠ a)
    (h1 : Meet P e p s qe) (h2 : Meet P a p s qa) (h3 : Meet P e p' i qe)
    (h4 : Meet P a p' i qa) :
    p = P.x25519Public s ∧ p' = P.x25519Public i ∧ qe = P.x25519Public e := by
  rcases meet_both h1 h3 with ⟨hes, hp⟩ | hforced
  · rcases meet_both h2 h4 with ⟨has, -⟩ | ⟨hs, hi, -⟩
    · exact absurd (hes.trans has.symm) hne
    · exact ⟨hs, hi, by rw [← hp, hs, hes]⟩
  · exact hforced

/-! ## The fifth leg -/

theorem encapsOneTime_some {ephemeral : HybridKemPrivateKey B} {otpk : OneTimePreKey B}
    {coins dh5 : B 32} {ct5 : Option Bytes} {dh5Id : Option UInt32}
    (h : encapsOneTime P ephemeral (some otpk) coins = .ok (dh5, ct5, dh5Id)) :
    ∃ ct, hybridEncaps P ephemeral otpk.publicKey coins = .ok (dh5, ct) ∧ ct5 = some ct ∧
      dh5Id = some otpk.keyId := by
  obtain ⟨⟨dh, ct⟩, hencaps, hout⟩ := Except.bind_eq_ok.mp h
  obtain ⟨rfl, hrest⟩ := Prod.mk.inj (Except.ok.inj hout)
  obtain ⟨rfl, rfl⟩ := Prod.mk.inj hrest
  exact ⟨ct, hencaps, rfl, rfl⟩

theorem decapsOneTime_some {oneTimePrekey : Option (HybridKemPrivateKey B)}
    {message : PqxdhPrekeyMessage B} {dh5 : B 32}
    (h : decapsOneTime P oneTimePrekey message = .ok (some dh5)) :
    ∃ opk ct, oneTimePrekey = some opk ∧
      hybridDh P opk message.ephemeralPublic (some ct) = .ok dh5 := by
  unfold decapsOneTime at h
  cases oneTimePrekey with
  | none => cases h
  | some opk =>
    cases hct : message.oneTimeCiphertext with
    | none =>
      rw [hct] at h
      cases h
    | some ct =>
      rw [hct] at h
      obtain ⟨dh, hdecaps, hout⟩ := Except.bind_eq_ok.mp h
      obtain rfl := Option.some.inj (Except.ok.inj hout)
      exact ⟨opk, ct, rfl, hdecaps⟩

/-! ## The master secret -/

theorem deriveMasterSecret_inj (hfree : P.Free) {shared shared' : Legs (B 32)}
    {dh5 dh5' : Option (B 32)}
    (h : deriveMasterSecret P shared.dh1 shared.dh2 shared.dh3 shared.dh4 dh5 =
      deriveMasterSecret P shared'.dh1 shared'.dh2 shared'.dh3 shared'.dh4 dh5') :
    shared = shared' ∧ dh5 = dh5' := by
  obtain ⟨-, hlegs, -⟩ := hfree.hkdf _ _ _ _ _ _ _ h
  obtain ⟨d1, d2, d3, d4⟩ := shared
  obtain ⟨d1', d2', d3', d4'⟩ := shared'
  simp only [List.cons_append, List.nil_append, List.cons.injEq] at hlegs
  obtain ⟨rfl, rfl, rfl, rfl, hlast⟩ := hlegs
  refine ⟨rfl, ?_⟩
  cases dh5 <;> cases dh5' <;> simp at hlast ⊢
  exact hlast

/-! ## The keys of the bundle -/

/-- The responder owns the KEM keys that the initiator takes from a bundle.
Nothing is said of ids, which a message can name as it likes, nor of the
`identity_key` and the signatures. -/
structure KeysMatch (P : Primitives B) (bundle : PreKeyBundle B) (keys : PqxdhResponderKeys B) :
    Prop where
  signedPrekey : bundle.signedPrekey.publicKey = keys.signedPrekey.publicKey P
  identityKem : bundle.identityKemPublic = keys.identity.kemPublic P
  oneTimePrekey : ∀ otpk, bundle.oneTimePrekeys.head? = some otpk →
    ∃ opk, keys.oneTimePrekey = some opk ∧ otpk.publicKey = opk.publicKey P
  /-- A one-time prekey without an id lets no message through. -/
  oneTimePrekeyId : keys.oneTimePrekey.isSome → keys.oneTimePrekeyId.isSome

theorem eq_publicKey {k : HybridKemPrivateKey B} {pub : HybridKemPublicKey B}
    (hclassical : pub.classical = P.x25519Public k.classical)
    (hpq : pub.pq = P.mlKemPublic k.pq) : pub = k.publicKey P := by
  obtain ⟨classical, pq⟩ := pub
  obtain rfl : classical = P.x25519Public k.classical := hclassical
  obtain rfl : pq = P.mlKemPublic k.pq := hpq
  rfl

section Run

variable {keys : PqxdhInitiatorKeys B} {coins : Coins B} {shared : Legs (B 32)}
  {ciphertexts : Legs Bytes} {dh5 : B 32} {ct5 : Option Bytes} {dh5Id : Option UInt32}
  {responder : PqxdhResponderKeys B}

/-- A message that names `other` as its sender and the ids of the responder, and
is the message of the initiator in everything else. -/
def misnamed (message : PqxdhPrekeyMessage B) (responder : PqxdhResponderKeys B)
    (other : IdentityPublicKey B) : PqxdhPrekeyMessage B :=
  { message with
    identityPublic := other
    signedPrekeyId := responder.signedPrekeyId
    oneTimePrekeyId := responder.oneTimePrekey.bind fun _ => responder.oneTimePrekeyId }

theorem KeysMatch.select (h : KeysMatch P keys.peerBundle responder)
    (message : PqxdhPrekeyMessage B) (other : IdentityPublicKey B) :
    selectOneTimePrekey responder (misnamed message responder other) =
      .ok responder.oneTimePrekey := by
  have hid := h.oneTimePrekeyId
  refine selectOneTimePrekey_eq_ok.mpr ⟨rfl, ?_⟩
  unfold misnamed
  cases hopk : responder.oneTimePrekey with
  | none => simp
  | some opk =>
    rw [hopk] at hid
    exact ⟨(hid rfl).symm, fun _ => rfl⟩

/-- The fifth leg of the responder on such a message.  When the bundle lists no
one-time prekey there is no ciphertext, and the leg is dropped even by a
responder that holds a one-time prekey. -/
theorem KeysMatch.oneTime (hdh : P.DhCommutes) (hkem : P.KemRoundTrip)
    (h : KeysMatch P keys.peerBundle responder)
    (hrun : InitiatorRun P keys coins shared ciphertexts dh5 ct5 dh5Id)
    (other : IdentityPublicKey B) :
    decapsOneTime P responder.oneTimePrekey
        (misnamed (initiatorMessage P keys ciphertexts ct5 dh5Id) responder other) =
      .ok (dh5Id.map fun _ => dh5) := by
  have hleg := hrun.leg5
  cases hfirst : keys.peerBundle.oneTimePrekeys.head? with
  | none =>
    rw [hfirst] at hleg
    obtain ⟨-, rfl, rfl⟩ : P.zeros 32 = dh5 ∧ none = ct5 ∧ none = dh5Id := by
      simpa [encapsOneTime] using hleg
    unfold decapsOneTime misnamed initiatorMessage
    cases responder.oneTimePrekey <;> rfl
  | some otpk =>
    rw [hfirst] at hleg
    obtain ⟨opk, hopk, hkey⟩ := h.oneTimePrekey otpk hfirst
    obtain ⟨ct, hencaps, rfl, rfl⟩ := encapsOneTime_some hleg
    rw [hkey] at hencaps
    unfold decapsOneTime
    rw [hopk]
    show (hybridDh P opk (keys.ephemeral.publicKey P) (some ct) >>= fun dh5 => .ok (some dh5)) = _
    rw [leg_undone hdh hkem hencaps]
    rfl

/-- Whoever owns the KEM keys of the bundle reaches the secret, whatever
identity the message names. -/
theorem KeysMatch.accepts (hdh : P.DhCommutes) (hkem : P.KemRoundTrip)
    (h : KeysMatch P keys.peerBundle responder)
    (hrun : InitiatorRun P keys coins shared ciphertexts dh5 ct5 dh5Id)
    (other : IdentityPublicKey B) :
    ∃ output, pqxdhResponder P responder
        (misnamed (initiatorMessage P keys ciphertexts ct5 dh5Id) responder other) = .ok output ∧
      output.sharedSecret = (initiatorOutput P keys shared dh5 dh5Id).sharedSecret := by
  have ⟨_, h1, h2, h3, h4, _⟩ := hrun
  rw [h.signedPrekey] at h1 h2
  rw [h.identityKem] at h3 h4
  have haccepted : ResponderRun P responder
      (misnamed (initiatorMessage P keys ciphertexts ct5 dh5Id) responder other)
      responder.oneTimePrekey shared (dh5Id.map fun _ => dh5) :=
    { known := rfl
      selected := h.select _ other
      leg1 := leg_undone hdh hkem h1
      leg2 := leg_undone hdh hkem h2
      leg3 := leg_undone hdh hkem h3
      leg4 := leg_undone hdh hkem h4
      leg5 := h.oneTime hdh hkem hrun other }
  exact ⟨_, (pqxdhResponder_eq_ok P).mpr ⟨_, _, _, haccepted, rfl⟩, rfl⟩

/-- The initiator runs through on such a bundle, if its signature verifies. -/
theorem KeysMatch.initiates (hdh : P.DhCommutes) (hkem : P.KemRoundTrip)
    (h : KeysMatch P keys.peerBundle responder) (hverify : keys.peerBundle.verify P = .ok ())
    (coins : Coins B) :
    ∃ shared ciphertexts dh5 ct5 dh5Id,
      InitiatorRun P keys coins shared ciphertexts dh5 ct5 dh5Id := by
  have hleg (k k' : HybridKemPrivateKey B) (coins : B 32) :
      ∃ dh ct, hybridEncaps P k (k'.publicKey P) coins = .ok (dh, ct) := by
    obtain ⟨dh, ct, hencaps, -⟩ := leg_agrees hdh hkem k k' coins
    exact ⟨dh, ct, hencaps⟩
  obtain ⟨dh1, ct1, h1⟩ := hleg keys.ephemeral responder.signedPrekey coins.dh1
  obtain ⟨dh2, ct2, h2⟩ := hleg (keys.identity.kemSecret P) responder.signedPrekey coins.dh2
  obtain ⟨dh3, ct3, h3⟩ := hleg keys.ephemeral (responder.identity.kemSecret P) coins.dh3
  obtain ⟨dh4, ct4, h4⟩ :=
    hleg (keys.identity.kemSecret P) (responder.identity.kemSecret P) coins.dh4
  obtain ⟨dh5, ct5, dh5Id, h5⟩ : ∃ dh5 ct5 dh5Id,
      encapsOneTime P keys.ephemeral keys.peerBundle.oneTimePrekeys.head? coins.dh5 =
        .ok (dh5, ct5, dh5Id) := by
    cases hfirst : keys.peerBundle.oneTimePrekeys.head? with
    | none => exact ⟨_, _, _, rfl⟩
    | some otpk =>
      obtain ⟨opk, -, hkey⟩ := h.oneTimePrekey otpk hfirst
      obtain ⟨dh, ct, hencaps⟩ := hleg keys.ephemeral opk coins.dh5
      refine ⟨dh, some ct, some otpk.keyId, ?_⟩
      unfold encapsOneTime
      simp only [hkey, hencaps]
      rfl
  rw [← h.signedPrekey] at h1 h2
  exact ⟨⟨dh1, dh2, dh3, dh4⟩, ⟨ct1, ct2, ct3, ct4⟩, dh5, ct5, dh5Id,
    ⟨hverify, h1, h2, h.identityKem ▸ h3, h.identityKem ▸ h4, h5⟩⟩

/-- Conversely an equal secret shows that the responder owns the KEM keys of the
bundle: each leg forces its keys. -/
theorem KeysMatch.of_legs (hfree : P.Free)
    (hfresh : keys.ephemeral.classical ≠ (keys.identity.kemSecret P).classical)
    (hrun : InitiatorRun P keys coins shared ciphertexts dh5 ct5 dh5Id)
    {message : PqxdhPrekeyMessage B} {oneTimePrekey : Option (HybridKemPrivateKey B)}
    (hresponder : ResponderRun P responder message oneTimePrekey shared
      (dh5Id.map fun _ => dh5)) :
    KeysMatch P keys.peerBundle responder := by
  obtain ⟨hspk, hmeet1⟩ := leg_forces hfree hrun.leg1 hresponder.leg1
  obtain ⟨-, hmeet2⟩ := leg_forces hfree hrun.leg2 hresponder.leg2
  obtain ⟨hidentity, hmeet3⟩ := leg_forces hfree hrun.leg3 hresponder.leg3
  obtain ⟨-, hmeet4⟩ := leg_forces hfree hrun.leg4 hresponder.leg4
  obtain ⟨hspkPoint, hidentityPoint, hephemeral⟩ :=
    meet_forces hfresh hmeet1 hmeet2 hmeet3 hmeet4
  obtain ⟨rfl, hnamed, hid⟩ := selectOneTimePrekey_eq_ok.mp hresponder.selected
  refine ⟨eq_publicKey hspkPoint hspk, eq_publicKey hidentityPoint hidentity, ?_,
    fun hsome => hid hsome ▸ hnamed ▸ hsome⟩
  intro otpk hfirst
  have hleg := hrun.leg5
  rw [hfirst] at hleg
  obtain ⟨ct, hencaps, -, rfl⟩ := encapsOneTime_some hleg
  obtain ⟨opk, ct', hopk, hdecaps⟩ := decapsOneTime_some hresponder.leg5
  obtain ⟨hpq, hmeet5⟩ := leg_forces hfree hencaps hdecaps
  refine ⟨opk, hopk, eq_publicKey ?_ hpq⟩
  -- the responder was given the true ephemeral key, by the other legs
  rcases hmeet5 with ⟨hsame, hpoint⟩ | ⟨hpoint, -⟩
  · rw [hpoint, hephemeral, hsame]
  · exact hpoint

end Run

/-! ## The identity of the bundle -/

/-- A bundle taken over by `identity`, which signs it again. -/
def PreKeyBundle.resigned (P : Primitives B) (bundle : PreKeyBundle B)
    (identity : IdentityKeyPair B) : PreKeyBundle B :=
  { bundle with
    identityKey := identity.publicKey P
    bundleSignature := identity.signHybrid P
      (bundleBytes P (identity.publicKey P) bundle.identityKemPublic bundle.signedPrekey
        bundle.oneTimePrekeys) }

/-- Anyone can put their `identity_key` on the bundle of the responder.  The
initiator takes it for theirs, and the two ends still share one secret. -/
theorem resigned_accepted (hdh : P.DhCommutes) (hkem : P.KemRoundTrip)
    (hsig : P.SignaturesVerify) {bundle : PreKeyBundle B} {responder : PqxdhResponderKeys B}
    (h : KeysMatch P bundle responder) (forger identity : IdentityKeyPair B)
    (ephemeral : HybridKemPrivateKey B) (coins : Coins B) (named : IdentityPublicKey B) :
    ∃ output message output',
      pqxdhInitiator P ⟨identity, ephemeral, bundle.resigned P forger⟩ coins =
        .ok (output, message) ∧
      pqxdhResponder P responder (misnamed message responder named) = .ok output' ∧
      output'.sharedSecret = output.sharedSecret := by
  have hmatch : KeysMatch P (bundle.resigned P forger) responder :=
    ⟨h.signedPrekey, h.identityKem, h.oneTimePrekey, h.oneTimePrekeyId⟩
  have hverify : (bundle.resigned P forger).verify P = .ok () :=
    IdentityKeyPair.verifyHybrid_signHybrid hsig forger _
  obtain ⟨shared, ciphertexts, dh5, ct5, dh5Id, hrun⟩ : ∃ shared ciphertexts dh5 ct5 dh5Id,
      InitiatorRun P ⟨identity, ephemeral, bundle.resigned P forger⟩ coins shared ciphertexts dh5
        ct5 dh5Id :=
    KeysMatch.initiates hdh hkem hmatch hverify coins
  obtain ⟨output', haccepted, hsecret⟩ := hmatch.accepts hdh hkem hrun named
  exact ⟨_, _, output', (pqxdhInitiator_eq_ok P).mpr ⟨_, _, _, _, _, hrun, rfl, rfl⟩, haccepted,
    hsecret⟩

/-! ## Identities and secrets -/

/-- There is more than one identity, since HKDF has more than one value. -/
theorem exists_other_identity (hfree : P.Free) (identity : IdentityPublicKey B) :
    ∃ other : IdentityPublicKey B, other ≠ identity := by
  have hne : P.hkdf .none [] "ROOT_KEY" 32 ≠ P.hkdf .none [] "SENDING_CHAIN" 32 := by
    intro h
    exact absurd (hfree.hkdf _ _ _ _ _ _ _ h).2.2 (by decide)
  by_cases hfirst : identity.classical = P.hkdf .none [] "ROOT_KEY" 32
  · refine ⟨{ identity with classical := P.hkdf .none [] "SENDING_CHAIN" 32 }, ?_⟩
    intro h
    exact hne (hfirst.symm.trans (congrArg IdentityPublicKey.classical h).symm)
  · refine ⟨{ identity with classical := P.hkdf .none [] "ROOT_KEY" 32 }, ?_⟩
    intro h
    exact hfirst (congrArg IdentityPublicKey.classical h).symm

/-- The identities that go with an equal secret.  For a run of the initiator with
a fresh ephemeral key, an accepted message with the secret of the initiator
names the initiator, and the bundle named the responder, only if no message
reaches that secret: as soon as the responder owns the KEM keys of the bundle,
some message does and names someone else. -/
theorem identities_bound_iff (hfree : P.Free) (hdh : P.DhCommutes) (hkem : P.KemRoundTrip)
    {keys : PqxdhInitiatorKeys B} {coins : Coins B} {output : PqxdhOutput B}
    {message : PqxdhPrekeyMessage B}
    (hinitiator : pqxdhInitiator P keys coins = .ok (output, message))
    (hfresh : keys.ephemeral.classical ≠ (keys.identity.kemSecret P).classical)
    (responder : PqxdhResponderKeys B) :
    (∀ message' output', pqxdhResponder P responder message' = .ok output' →
      output'.sharedSecret = output.sharedSecret →
        message'.identityPublic = message.identityPublic ∧
          keys.peerBundle.identityKey = responder.identity.publicKey P) ↔
      ¬ KeysMatch P keys.peerBundle responder := by
  obtain ⟨shared, ciphertexts, dh5, ct5, dh5Id, hrun, rfl, rfl⟩ :=
    (pqxdhInitiator_eq_ok P).mp hinitiator
  constructor
  · intro hbound hmatch
    obtain ⟨other, hother⟩ := exists_other_identity hfree (keys.identity.publicKey P)
    obtain ⟨output', haccepted, hsecret⟩ := hmatch.accepts hdh hkem hrun other
    exact hother (hbound _ _ haccepted hsecret).1
  · intro hmatch message' output' haccepted hsecret
    obtain ⟨oneTimePrekey, shared', dh5', hresponder, rfl⟩ :=
      (pqxdhResponder_eq_ok P).mp haccepted
    obtain ⟨rfl, rfl⟩ := deriveMasterSecret_inj hfree hsecret
    exact absurd (KeysMatch.of_legs hfree hfresh hrun hresponder) hmatch

/-! ## Fixed keys -/

namespace Sym

/-- `alice` toward the bundle of `responderKeys`. -/
def initiatorKeys : PqxdhInitiatorKeys Sym :=
  { identity := alice
    ephemeral
    peerBundle := .new primitives responderKeys.identity signedPrekey oneTimePrekeys }

/-- Someone else, with keys of their own. -/
def eve : IdentityKeyPair Sym := { classical := [46], pq := [47] }

def eveKeys : PqxdhResponderKeys Sym :=
  { responderKeys with
    identity := eve
    signedPrekey := { classical := [48], pq := [49] } }

/-- `alice` toward the same bundle under the name of `eve`. -/
def resignedKeys : PqxdhInitiatorKeys Sym :=
  { initiatorKeys with peerBundle := initiatorKeys.peerBundle.resigned primitives eve }

/-- Whether the secrets agree when the message arrives as `deliver` makes it. -/
def secretsAgree (keys : PqxdhInitiatorKeys Sym)
    (deliver : PqxdhPrekeyMessage Sym → PqxdhPrekeyMessage Sym) : Except CryptoError Bool := do
  let (output, message) ← pqxdhInitiator primitives keys coins
  let output' ← pqxdhResponder primitives responderKeys (deliver message)
  return output'.sharedSecret == output.sharedSecret

theorem secretsAgree_eq_ok {keys : PqxdhInitiatorKeys Sym}
    {deliver : PqxdhPrekeyMessage Sym → PqxdhPrekeyMessage Sym}
    (h : secretsAgree keys deliver = .ok true) :
    ∃ output message output', pqxdhInitiator primitives keys coins = .ok (output, message) ∧
      pqxdhResponder primitives responderKeys (deliver message) = .ok output' ∧
      output'.sharedSecret = output.sharedSecret ∧
      message.identityPublic = keys.identity.publicKey primitives := by
  obtain ⟨⟨output, message⟩, hinitiator, hrest⟩ := Except.bind_eq_ok.mp h
  obtain ⟨output', hresponder, hsecret⟩ := Except.bind_eq_ok.mp hrest
  have hnamed : message.identityPublic = keys.identity.publicKey primitives := by
    obtain ⟨_, _, _, _, _, -, -, rfl⟩ := (pqxdhInitiator_eq_ok primitives).mp hinitiator
    rfl
  exact ⟨output, message, output', hinitiator, hresponder, eq_of_beq (Except.ok.inj hsecret),
    hnamed⟩

end Sym

/-- At a responder with other keys no message reaches the secret of `alice`. -/
theorem identities_bound_foreign :
    ∃ output message,
      pqxdhInitiator Sym.primitives Sym.initiatorKeys Sym.coins = .ok (output, message) ∧
      ∀ message' output',
        pqxdhResponder Sym.primitives Sym.eveKeys message' = .ok output' →
        output'.sharedSecret = output.sharedSecret →
          message'.identityPublic = message.identityPublic ∧
            Sym.initiatorKeys.peerBundle.identityKey = Sym.eve.publicKey Sym.primitives := by
  have howns : OwnsPrekeys Sym.primitives Sym.responderKeys Sym.signedPrekey
      Sym.oneTimePrekeys := ⟨rfl, rfl, rfl, rfl⟩
  obtain ⟨output, message, hinitiator, -⟩ :=
    pqxdh_ok Sym.dhCommutes Sym.kemRoundTrip Sym.signaturesVerify howns Sym.alice Sym.ephemeral
      Sym.coins
  refine ⟨output, message, hinitiator, ?_⟩
  apply (identities_bound_iff Sym.free Sym.dhCommutes Sym.kemRoundTrip hinitiator (by decide)
    Sym.eveKeys).mpr
  intro hmatch
  exact absurd (congrArg HybridKemPublicKey.classical hmatch.signedPrekey) (by decide)

/-- The two ways in which the identities come apart although the secrets agree:
the message under another `identity_public`, and the bundle under another
`identity_key`. -/
theorem renamed_ends_agree :
    (∃ output message output',
      pqxdhInitiator Sym.primitives Sym.initiatorKeys Sym.coins = .ok (output, message) ∧
      pqxdhResponder Sym.primitives Sym.responderKeys
        { message with identityPublic := Sym.eve.publicKey Sym.primitives } = .ok output' ∧
      output'.sharedSecret = output.sharedSecret ∧
      Sym.eve.publicKey Sym.primitives ≠ message.identityPublic) ∧
    (∃ output message output',
      pqxdhInitiator Sym.primitives Sym.resignedKeys Sym.coins = .ok (output, message) ∧
      pqxdhResponder Sym.primitives Sym.responderKeys message = .ok output' ∧
      output'.sharedSecret = output.sharedSecret ∧
      Sym.resignedKeys.peerBundle.identityKey ≠
        Sym.responderKeys.identity.publicKey Sym.primitives) := by
  constructor
  · obtain ⟨output, message, output', hinitiator, hresponder, hsecret, hnamed⟩ :=
      Sym.secretsAgree_eq_ok
        (show Sym.secretsAgree Sym.initiatorKeys (fun message =>
          { message with identityPublic := Sym.eve.publicKey Sym.primitives }) = .ok true by
            decide +kernel)
    refine ⟨output, message, output', hinitiator, hresponder, hsecret, ?_⟩
    rw [hnamed]
    intro h
    exact absurd (congrArg IdentityPublicKey.classical h) (by decide)
  · obtain ⟨output, message, output', hinitiator, hresponder, hsecret, -⟩ :=
      Sym.secretsAgree_eq_ok
        (show Sym.secretsAgree Sym.resignedKeys (fun message => message) = .ok true by
          decide +kernel)
    refine ⟨output, message, output', hinitiator, hresponder, hsecret, ?_⟩
    intro h
    exact absurd (congrArg IdentityPublicKey.classical h) (by decide)

end Presidium
