import Presidium.Crypto.PqxdhAgreement

/-!
# The one-time leg of the responder

A prekey message names a one-time prekey and carries the ciphertext for it, or
it does neither.  `pqxdh_responder` compares the id with the key it holds, and
in a second `match` looks at the ciphertext.  The second `match` has no error
arm: a message with an id and without a ciphertext derives a secret without
the fifth leg and is accepted as one that has used the prekey.

`OneTimeLegKept` is what an accepted message should satisfy.
`one_time_leg_kept_iff` says for which inputs it does.
-/

namespace Presidium

variable {B : Nat → Type}

/-- The message has both the id and the ciphertext of a one-time prekey, or
neither. -/
def PqxdhPrekeyMessage.Paired (message : PqxdhPrekeyMessage B) : Prop :=
  message.oneTimePrekeyId.isSome = message.oneTimeCiphertext.isSome

section

variable (P : Primitives B) (keys : PqxdhResponderKeys B) (message : PqxdhPrekeyMessage B)

/-- The responder does not get as far as the fifth leg: an id is not known, or
one of the other four ciphertexts does not decapsulate. -/
inductive RefusedBefore : Prop
  | signedPrekeyId (h : message.signedPrekeyId ≠ keys.signedPrekeyId)
  | oneTimePrekeyId {e : CryptoError} (h : selectOneTimePrekey keys message = .error e)
  | leg1 {e : CryptoError} (h : hybridDh P keys.signedPrekey message.ephemeralPublic
      (some message.ciphertexts.dh1) = .error e)
  | leg2 {e : CryptoError} (h : hybridDh P keys.signedPrekey message.identityKemPublic
      (some message.ciphertexts.dh2) = .error e)
  | leg3 {e : CryptoError} (h : hybridDh P (keys.identity.kemSecret P) message.ephemeralPublic
      (some message.ciphertexts.dh3) = .error e)
  | leg4 {e : CryptoError} (h : hybridDh P (keys.identity.kemSecret P) message.identityKemPublic
      (some message.ciphertexts.dh4) = .error e)

/-- The message is paired, and the secret has the fifth leg exactly when the
output names a one-time prekey. -/
structure OneTimeLegKept (output : PqxdhOutput B) : Prop where
  paired : message.Paired
  leg5 : ∃ oneTimePrekey shared dh5, ResponderRun P keys message oneTimePrekey shared dh5 ∧
    output.sharedSecret =
      deriveMasterSecret P shared.dh1 shared.dh2 shared.dh3 shared.dh4 dh5 ∧
    (dh5.isSome ↔ output.oneTimePrekeyId.isSome)

end

variable {P : Primitives B} {keys : PqxdhResponderKeys B} {message : PqxdhPrekeyMessage B}

/-! ## The two matches -/

/-- The fifth leg is there when both the prekey and the ciphertext are. -/
theorem decapsOneTime_isSome {oneTimePrekey : Option (HybridKemPrivateKey B)} {dh5 : Option (B 32)}
    (h : decapsOneTime P oneTimePrekey message = .ok dh5) :
    dh5.isSome = (oneTimePrekey.isSome && message.oneTimeCiphertext.isSome) := by
  unfold decapsOneTime at h
  cases oneTimePrekey with
  | none =>
    cases h
    rfl
  | some opk =>
    cases hct : message.oneTimeCiphertext with
    | none =>
      simp only [hct] at h
      cases h
      rfl
    | some ct =>
      simp only [hct] at h
      obtain ⟨leg, -, h⟩ := Except.bind_eq_ok.mp h
      cases h
      rfl

/-- With one of the two missing the leg is dropped, and nothing is refused. -/
theorem decapsOneTime_unpaired {oneTimePrekey : Option (HybridKemPrivateKey B)}
    (hselect : selectOneTimePrekey keys message = .ok oneTimePrekey) (h : ¬ message.Paired) :
    decapsOneTime P oneTimePrekey message = .ok none := by
  have hsome := (selectOneTimePrekey_eq_ok.mp hselect).2.1
  unfold PqxdhPrekeyMessage.Paired at h
  rw [← hsome] at h
  unfold decapsOneTime
  cases oneTimePrekey with
  | none => rfl
  | some opk =>
    cases hct : message.oneTimeCiphertext with
    | none => rfl
    | some ct =>
      rw [hct] at h
      exact absurd rfl h

/-! ## The responder -/

private theorem exists_ok {α : Type} {x : Except CryptoError α} (h : ∀ e, x ≠ .error e) :
    ∃ a, x = .ok a := by
  cases x with
  | ok a => exact ⟨a, rfl⟩
  | error e => exact absurd rfl (h e)

theorem RefusedBefore.not_ok (h : RefusedBefore P keys message) (output : PqxdhOutput B) :
    pqxdhResponder P keys message ≠ .ok output := by
  intro hok
  obtain ⟨oneTimePrekey, shared, dh5, hrun, -⟩ := (pqxdhResponder_eq_ok P).mp hok
  cases h with
  | signedPrekeyId h => exact h hrun.known
  | oneTimePrekeyId h => exact absurd (h.symm.trans hrun.selected) (by simp)
  | leg1 h => exact absurd (h.symm.trans hrun.leg1) (by simp)
  | leg2 h => exact absurd (h.symm.trans hrun.leg2) (by simp)
  | leg3 h => exact absurd (h.symm.trans hrun.leg3) (by simp)
  | leg4 h => exact absurd (h.symm.trans hrun.leg4) (by simp)

/-- An unpaired message that gets as far as the fifth leg is accepted. -/
theorem accepted_of_unpaired (hgoes : ¬ RefusedBefore P keys message) (h : ¬ message.Paired) :
    ∃ output, pqxdhResponder P keys message = .ok output := by
  have hknown : message.signedPrekeyId = keys.signedPrekeyId :=
    not_not.mp fun hne => hgoes (.signedPrekeyId hne)
  obtain ⟨oneTimePrekey, hselect⟩ := exists_ok fun e he => hgoes (.oneTimePrekeyId (e := e) he)
  obtain ⟨dh1, h1⟩ := exists_ok fun e he => hgoes (.leg1 (e := e) he)
  obtain ⟨dh2, h2⟩ := exists_ok fun e he => hgoes (.leg2 (e := e) he)
  obtain ⟨dh3, h3⟩ := exists_ok fun e he => hgoes (.leg3 (e := e) he)
  obtain ⟨dh4, h4⟩ := exists_ok fun e he => hgoes (.leg4 (e := e) he)
  have hrun : ResponderRun P keys message oneTimePrekey ⟨dh1, dh2, dh3, dh4⟩ none :=
    ⟨hknown, hselect, h1, h2, h3, h4, decapsOneTime_unpaired hselect h⟩
  exact ⟨_, (pqxdhResponder_eq_ok P).mpr ⟨_, _, _, hrun, rfl⟩⟩

/-- A paired message that is accepted has its fifth leg as it says. -/
theorem oneTimeLegKept_of_paired (hpaired : message.Paired) {output : PqxdhOutput B}
    (hok : pqxdhResponder P keys message = .ok output) :
    OneTimeLegKept P keys message output := by
  obtain ⟨oneTimePrekey, shared, dh5, hrun, rfl⟩ := (pqxdhResponder_eq_ok P).mp hok
  refine ⟨hpaired, oneTimePrekey, shared, dh5, hrun, rfl, ?_⟩
  show dh5.isSome = true ↔ message.oneTimePrekeyId.isSome = true
  have hpaired : message.oneTimePrekeyId.isSome = message.oneTimeCiphertext.isSome := hpaired
  rw [decapsOneTime_isSome hrun.leg5, (selectOneTimePrekey_eq_ok.mp hrun.selected).2.1, ← hpaired,
    Bool.and_self]

/-- For every responder and every message: what is accepted keeps the one-time
leg if and only if the message is paired or refused before the leg. -/
theorem one_time_leg_kept_iff (P : Primitives B) (keys : PqxdhResponderKeys B)
    (message : PqxdhPrekeyMessage B) :
    (∀ output, pqxdhResponder P keys message = .ok output →
        OneTimeLegKept P keys message output) ↔
      message.Paired ∨ RefusedBefore P keys message := by
  constructor
  · intro hkept
    by_contra hnot
    rw [not_or] at hnot
    obtain ⟨hunpaired, hgoes⟩ := hnot
    obtain ⟨output, hok⟩ := accepted_of_unpaired hgoes hunpaired
    exact hunpaired (hkept output hok).paired
  · rintro (hpaired | hrefused) output hok
    · exact oneTimeLegKept_of_paired hpaired hok
    · exact absurd hok (hrefused.not_ok output)

/-- The message with its one-time ciphertext cut off. -/
def PqxdhPrekeyMessage.stripped (message : PqxdhPrekeyMessage B) : PqxdhPrekeyMessage B :=
  { message with oneTimeCiphertext := none }

/-- What was accepted is accepted without its one-time ciphertext, too. -/
theorem stripped_ok {output : PqxdhOutput B} (hok : pqxdhResponder P keys message = .ok output)
    (hkey : keys.oneTimePrekey.isSome) :
    ∃ output', pqxdhResponder P keys message.stripped = .ok output' ∧
      output'.oneTimePrekeyId.isSome ∧ ¬ OneTimeLegKept P keys message.stripped output' := by
  obtain ⟨oneTimePrekey, shared, dh5, hrun, -⟩ := (pqxdhResponder_eq_ok P).mp hok
  obtain ⟨rfl, hid, -⟩ := selectOneTimePrekey_eq_ok.mp hrun.selected
  rw [hkey] at hid
  have hunpaired : ¬ message.stripped.Paired := by
    unfold PqxdhPrekeyMessage.Paired PqxdhPrekeyMessage.stripped
    rw [← hid]
    simp
  have hstripped : ResponderRun P keys message.stripped keys.oneTimePrekey shared none :=
    ⟨hrun.known, hrun.selected, hrun.leg1, hrun.leg2, hrun.leg3, hrun.leg4,
      decapsOneTime_unpaired hrun.selected hunpaired⟩
  refine ⟨_, (pqxdhResponder_eq_ok P).mpr ⟨_, _, _, hstripped, rfl⟩, hid.symm, ?_⟩
  intro hkept
  exact hunpaired hkept.paired

/-- An honest message without its one-time ciphertext is accepted, and the
output names a one-time prekey. -/
theorem stripped_message_accepted :
    ∃ output message, pqxdhInitiator Sym.primitives
        ⟨Sym.alice, Sym.ephemeral,
          .new Sym.primitives Sym.responderKeys.identity Sym.signedPrekey Sym.oneTimePrekeys⟩
        Sym.coins = .ok (output, message) ∧
      ∃ output', pqxdhResponder Sym.primitives Sym.responderKeys message.stripped = .ok output' ∧
        output'.oneTimePrekeyId.isSome ∧
        ¬ OneTimeLegKept Sym.primitives Sym.responderKeys message.stripped output' := by
  have howns : OwnsPrekeys Sym.primitives Sym.responderKeys Sym.signedPrekey
      Sym.oneTimePrekeys := ⟨rfl, rfl, rfl, rfl⟩
  obtain ⟨output, message, hinitiator, hresponder, -⟩ :=
    pqxdh_ok Sym.dhCommutes Sym.kemRoundTrip Sym.signaturesVerify howns Sym.alice Sym.ephemeral
      Sym.coins
  exact ⟨output, message, hinitiator, stripped_ok hresponder rfl⟩

end Presidium
