import Presidium.Crypto.RatchetAgreement
import Presidium.Crypto.RatchetRuns
import Presidium.Demo.SymbolicJson

/-!
# What a rejected message does to a session

`decrypt` moves the receiving chain before the AEAD has checked anything, and
`ChatSession::decrypt` runs `dh_ratchet` before that.  Neither undoes it on an
error exit.  So a message that is rejected can still cost a message that is
not: a duplicate of a message read before takes the key of the next one.

`rejected_undamaged_iff` says which rejections are harmless.  On the ratchet:
those of a number with a stored key, and all of them while there is no
receiving chain.  On the session: in addition those that fail at the header or
the signature.  With a new header key the session has already moved its root
key, so no rejection is harmless then, unless the key derivation gives the old
root key again.
-/

namespace Presidium

variable {B : Nat → Type}

namespace DoubleRatchet

variable (P : Primitives B) [Serde (RatchetMessageHeader B)]

/-- The ratchet `r'` is `r`, and opens what `r` opens. -/
structure Undamaged (r r' : DoubleRatchet B) : Prop where
  same : r' = r
  opens : ∀ ciphertext header text,
    (r.decrypt P ciphertext header).result = .ok text →
      (r'.decrypt P ciphertext header).result = .ok text

/-- Message numbers on which `decrypt` writes nothing. -/
def Guarded (r : DoubleRatchet B) (messageNumber : UInt64) : Prop :=
  (r.storedKey messageNumber).isSome ∨ r.receivingChain.chainKey = none

variable {P}

theorem undamaged_iff {r r' : DoubleRatchet B} : Undamaged P r r' ↔ r' = r := by
  constructor
  · exact Undamaged.same
  · rintro rfl
    exact ⟨rfl, fun _ _ _ h => h⟩

omit [Serde (RatchetMessageHeader B)] in
theorem skipped_length_of_eq {r : DoubleRatchet B} {chain : ChainKey B}
    {skipped : List (UInt64 × B MESSAGE_KEY_SIZE)} (h : r.withReceiving chain skipped = r) :
    skipped.length = r.receivingChain.skippedMessageKeys.length :=
  congrArg (fun r => r.receivingChain.skippedMessageKeys.length) h

omit [Serde (RatchetMessageHeader B)] in
/-- The live path never leads back: it stores a key or moves the chain. -/
theorem tried_ne {r : DoubleRatchet B} {c : ChainKey B}
    (hchain : r.receivingChain.chainKey = some c) (target : UInt64) :
    r.tried P c target ≠ r := by
  intro h
  have hlength := skipped_length_of_eq h
  rw [List.length_append, skippedRange_length] at hlength
  have hzero : distance c target = 0 := by omega
  have hkey : some (c.advance P (distance c target + 1)) = r.receivingChain.chainKey :=
    congrArg (fun r => r.receivingChain.chainKey) h
  rw [hzero, hchain, ChainKey.advance_succ, ChainKey.advance_zero] at hkey
  exact c.next_ne P (Option.some.inj hkey)

omit [Serde (RatchetMessageHeader B)] in
theorem overrun_ne (r : DoubleRatchet B) (c : ChainKey B) : r.overrun P c ≠ r := by
  intro h
  have hlength := skipped_length_of_eq h
  rw [List.length_append, skippedRange_length] at hlength
  omega

/-- A rejected message leaves the ratchet as it was exactly on the guarded
numbers. -/
theorem decrypt_error_eq_iff {r r' : DoubleRatchet B} {ciphertext : Bytes}
    {header : RatchetMessageHeader B} {e : CryptoError}
    (h : r.decrypt P ciphertext header = .error e r') :
    r' = r ↔ r.Guarded header.messageNumber := by
  have hstate : (r.decrypt P ciphertext header).state = r' := by
    rw [h]
    rfl
  unfold Guarded
  cases hstored : r.storedKey header.messageNumber with
  | some key =>
    rw [decrypt_stored P hstored, answer_state] at hstate
    exact iff_of_true hstate.symm (Or.inl rfl)
  | none =>
    cases hchain : r.receivingChain.chainKey with
    | none =>
      rw [decrypt_noChain P hstored hchain] at hstate
      exact iff_of_true hstate.symm (Or.inr rfl)
    | some c =>
      have hmoved : r' ≠ r := by
        rw [← hstate, decrypt_live P hstored hchain]
        split
        · rw [answer_state]
          exact tried_ne hchain header.messageNumber
        · exact overrun_ne r c
      exact iff_of_false hmoved (by simp)

/-! ## After a new header key -/

/-- No header key makes the derivation give the root key again. -/
def RootMoves (P : Primitives B) (r : DoubleRatchet B) : Prop :=
  ∀ ourKey key, r.sendingChain.ourRatchetKey = some ourKey →
    (r.rootKey.ratchetStep P (P.diffieHellman ourKey key)).1 ≠ r.rootKey

/-- `dh_ratchet` under our key and the attempt after it lead back to the same
ratchet.  The derivation has to reproduce the root key and the receiving
chain. -/
structure Returns (P : Primitives B) (r : DoubleRatchet B) (ourKey : B X25519_PRIVATE_KEY_SIZE)
    (header : RatchetMessageHeader B) : Prop where
  root : (r.rootKey.ratchetStep P (P.diffieHellman ourKey header.dhPublicKey)).1 = r.rootKey
  their : r.sendingChain.theirRatchetPublic = some header.dhPublicKey
  chain :
    let c := (r.rootKey.ratchetStep P (P.diffieHellman ourKey header.dhPublicKey)).2
    (r.storedKey header.messageNumber).isSome ∧ r.receivingChain.chainKey = some c ∨
      r.storedKey header.messageNumber = none ∧ header.messageNumber = 0 ∧
        r.receivingChain.chainKey = some (c.next P)

omit [Serde (RatchetMessageHeader B)] in
theorem ratcheted_withReceiving_eq_iff (r : DoubleRatchet B)
    (ourKey : B X25519_PRIVATE_KEY_SIZE) (key : B X25519_PUBLIC_KEY_SIZE) (chain : ChainKey B)
    (skipped : List (UInt64 × B MESSAGE_KEY_SIZE)) :
    (r.ratcheted P ourKey key).withReceiving chain skipped = r ↔
      (r.rootKey.ratchetStep P (P.diffieHellman ourKey key)).1 = r.rootKey ∧
        r.sendingChain.theirRatchetPublic = some key ∧
        r.receivingChain.chainKey = some chain ∧
        skipped = r.receivingChain.skippedMessageKeys := by
  obtain ⟨root, ⟨our, their, sendingKey, stored⟩, ⟨receivingOur, known, chainKey, keys⟩, _, _⟩ := r
  simp only [ratcheted, withReceiving, mk.injEq, RatchetChain.mk.injEq, true_and, and_true]
  constructor
  · rintro ⟨hroot, htheir, hchain, hskipped⟩
    exact ⟨hroot, htheir.symm, hchain.symm, hskipped⟩
  · rintro ⟨hroot, htheir, hchain, hskipped⟩
    exact ⟨hroot, htheir.symm, hchain.symm, hskipped⟩

omit [Serde (RatchetMessageHeader B)] in
/-- The receiving chain that `dh_ratchet` derives starts at number zero. -/
theorem distance_ratchetStep (root : RootKey B) (shared : B X25519_SHARED_SECRET_SIZE)
    (target : UInt64) : distance (root.ratchetStep P shared).2 target = 0 ↔ target = 0 := by
  have hindex : (root.ratchetStep P shared).2.index = 0 := rfl
  rw [distance, hindex, ← UInt64.toNat_inj]
  simp

omit [Serde (RatchetMessageHeader B)] in
/-- The stored key is tried on the ratchet as `dh_ratchet` leaves it. -/
theorem ratcheted_eq_iff {r : DoubleRatchet B} {ourKey : B X25519_PRIVATE_KEY_SIZE}
    {header : RatchetMessageHeader B} {key : B MESSAGE_KEY_SIZE}
    (hstored : r.storedKey header.messageNumber = some key) :
    r.ratcheted P ourKey header.dhPublicKey = r ↔ r.Returns P ourKey header := by
  have heq := ratcheted_withReceiving_eq_iff (P := P) r ourKey header.dhPublicKey
    (r.rootKey.ratchetStep P (P.diffieHellman ourKey header.dhPublicKey)).2
    r.receivingChain.skippedMessageKeys
  refine Iff.trans heq ⟨?_, ?_⟩
  · rintro ⟨hroot, htheir, hchain, -⟩
    exact ⟨hroot, htheir, Or.inl ⟨by rw [hstored]; rfl, hchain⟩⟩
  · rintro ⟨hroot, htheir, hchain⟩
    have hsame := hchain.resolve_right fun hnone => by simp [hstored] at hnone
    exact ⟨hroot, htheir, hsame.2, rfl⟩

omit [Serde (RatchetMessageHeader B)] in
/-- The live path moves the new chain by one, and stores no key for number zero
only. -/
theorem ratcheted_tried_eq_iff {r : DoubleRatchet B} {ourKey : B X25519_PRIVATE_KEY_SIZE}
    {header : RatchetMessageHeader B} (hstored : r.storedKey header.messageNumber = none) :
    (r.ratcheted P ourKey header.dhPublicKey).tried P
        (r.rootKey.ratchetStep P (P.diffieHellman ourKey header.dhPublicKey)).2
        header.messageNumber = r ↔ r.Returns P ourKey header := by
  set c := (r.rootKey.ratchetStep P (P.diffieHellman ourKey header.dhPublicKey)).2
  have hzero : distance c header.messageNumber = 0 ↔ header.messageNumber = 0 :=
    distance_ratchetStep r.rootKey _ _
  have heq := ratcheted_withReceiving_eq_iff (P := P) r ourKey header.dhPublicKey
    (c.advance P (distance c header.messageNumber + 1))
    (r.receivingChain.skippedMessageKeys ++ skippedRange P c (distance c header.messageNumber))
  refine Iff.trans heq ⟨?_, ?_⟩
  · rintro ⟨hroot, htheir, hchain, hskipped⟩
    have hlength := congrArg List.length hskipped
    rw [List.length_append, skippedRange_length] at hlength
    have hd : distance c header.messageNumber = 0 := by omega
    rw [hd] at hchain
    exact ⟨hroot, htheir, Or.inr ⟨hstored, hzero.mp hd, hchain⟩⟩
  · rintro ⟨hroot, htheir, hchain⟩
    obtain ⟨-, hnumber, hchain⟩ := hchain.resolve_left fun hsome => by simp [hstored] at hsome
    rw [hzero.mpr hnumber]
    exact ⟨hroot, htheir, hchain, by simp⟩

/-- After `dh_ratchet` with a new key, a rejected message leaves the ratchet as
it was only at a fixed point of the derivation. -/
theorem ratcheted_decrypt_error_eq_iff {r r' : DoubleRatchet B}
    {ourKey : B X25519_PRIVATE_KEY_SIZE} {ciphertext : Bytes} {header : RatchetMessageHeader B}
    {e : CryptoError}
    (h : (r.ratcheted P ourKey header.dhPublicKey).decrypt P ciphertext header = .error e r') :
    r' = r ↔ r.Returns P ourKey header := by
  set fresh := r.ratcheted P ourKey header.dhPublicKey
  have hstate : (fresh.decrypt P ciphertext header).state = r' := by
    rw [h]
    rfl
  cases hstored : r.storedKey header.messageNumber with
  | some key =>
    have hkey : fresh.storedKey header.messageNumber = some key := hstored
    rw [decrypt_stored P hkey, answer_state] at hstate
    rw [← hstate]
    exact ratcheted_eq_iff hstored
  | none =>
    have hnone : fresh.storedKey header.messageNumber = none := hstored
    rw [decrypt_live P hnone rfl] at hstate
    split at hstate
    next =>
      rw [answer_state] at hstate
      rw [← hstate]
      exact ratcheted_tried_eq_iff hstored
    next hlimit =>
      -- the limit stops the attempt after it has stored a key
      have hne : r' ≠ r := by
        intro heq
        rw [heq] at hstate
        have hlength : (r.receivingChain.skippedMessageKeys ++ skippedRange P _ _).length =
            r.receivingChain.skippedMessageKeys.length :=
          congrArg (fun r => r.receivingChain.skippedMessageKeys.length) hstate
        rw [List.length_append, skippedRange_length] at hlength
        omega
      refine iff_of_false hne ?_
      rintro ⟨-, -, hchain⟩
      obtain ⟨-, hnumber, -⟩ := hchain.resolve_left fun hsome => by simp [hstored] at hsome
      exact hlimit (Or.inl ((distance_ratchetStep r.rootKey _ _).mpr hnumber))

end DoubleRatchet

/-! ## Sessions -/

namespace ChatSession

variable (P : Primitives B) [Serde (HybridSignature B)] [Serde (RatchetMessageHeader B)]
  [DecidableEq (B X25519_PUBLIC_KEY_SIZE)]

/-- Envelopes that do no harm to a session that rejects them: their header does
not parse, their signature is wrong, or their header has the known key and a
guarded number. -/
def Harmless (s : ChatSession B) (envelope : NetworkEnvelope) : Prop :=
  ∀ header, parseHeader envelope.nonce = .ok header →
    verifyEnvelope P s.peerIdentity envelope = .ok true →
    known s.ratchet = some header.dhPublicKey ∧ s.ratchet.Guarded header.messageNumber

/-- An envelope with a new header key, at a fixed point of the derivation. -/
def FixedPoint (s : ChatSession B) (envelope : NetworkEnvelope) : Prop :=
  ∃ header, parseHeader envelope.nonce = .ok header ∧
    verifyEnvelope P s.peerIdentity envelope = .ok true ∧
    known s.ratchet ≠ some header.dhPublicKey ∧
    ∃ ourKey, s.ratchet.sendingChain.ourRatchetKey = some ourKey ∧
      s.ratchet.Returns P ourKey header

variable {P}

omit [Serde (HybridSignature B)] in
/-- A failure behind `dh_ratchet` is a failure of the ratchet. -/
theorem ratchetDecrypt_eq_error {s s' : ChatSession B} {header : RatchetMessageHeader B}
    {payload : Bytes} {e : AppError} {r : DoubleRatchet B}
    (hadvance : advance P s.ratchet header = .ok () r)
    (h : s.ratchetDecrypt P header payload = .error e s') :
    ∃ cause, r.decrypt P payload header = .error cause s'.ratchet := by
  cases hdecrypt : r.decrypt P payload header with
  | ok text r' =>
    rw [ratchetDecrypt_ok hadvance hdecrypt] at h
    cases h
  | error cause r' =>
    rw [ratchetDecrypt_error hadvance hdecrypt] at h
    cases h
    exact ⟨cause, rfl⟩

omit [Serde (HybridSignature B)] in
/-- With the known header key, a failure behind the signature check leaves the
ratchet as it was exactly on the guarded numbers. -/
theorem ratchetDecrypt_error_known {s s' : ChatSession B} {header : RatchetMessageHeader B}
    {payload : Bytes} {e : AppError} (hknown : known s.ratchet = some header.dhPublicKey)
    (h : s.ratchetDecrypt P header payload = .error e s') :
    s'.ratchet = s.ratchet ↔ s.ratchet.Guarded header.messageNumber := by
  have hadvance : advance P s.ratchet header = .ok () s.ratchet := if_neg (not_not_intro hknown)
  obtain ⟨cause, hdecrypt⟩ := ratchetDecrypt_eq_error hadvance h
  exact DoubleRatchet.decrypt_error_eq_iff hdecrypt

omit [Serde (HybridSignature B)] in
/-- With a new header key it does so at a fixed point only. -/
theorem ratchetDecrypt_error_new {s s' : ChatSession B} (hs : s.ratchet.Keyed)
    {header : RatchetMessageHeader B} {payload : Bytes} {e : AppError}
    {ourKey : B X25519_PRIVATE_KEY_SIZE}
    (hour : s.ratchet.sendingChain.ourRatchetKey = some ourKey)
    (hnew : known s.ratchet ≠ some header.dhPublicKey)
    (h : s.ratchetDecrypt P header payload = .error e s') :
    s'.ratchet = s.ratchet ↔ s.ratchet.Returns P ourKey header := by
  have hadvance : advance P s.ratchet header =
      .ok () (s.ratchet.ratcheted P ourKey header.dhPublicKey) := by
    rw [advance, if_pos hnew, DoubleRatchet.dhRatchet_eq P hs.noReceivingKey hour]
  obtain ⟨cause, hdecrypt⟩ := ratchetDecrypt_eq_error hadvance h
  exact DoubleRatchet.ratcheted_decrypt_error_eq_iff hdecrypt

/-- A rejected envelope leaves the ratchet as it was exactly when it is
harmless, or at a fixed point of the derivation. -/
theorem decrypt_error_eq_iff {s s' : ChatSession B} (hs : s.ratchet.Keyed)
    {envelope : NetworkEnvelope} {e : AppError} (h : s.decrypt P envelope = .error e s') :
    s'.ratchet = s.ratchet ↔ s.Harmless P envelope ∨ s.FixedPoint P envelope := by
  rcases decrypt_cases (P := P) s envelope with
    ⟨⟨cause, hrefused⟩, hbad⟩ | ⟨header, hparse, hverify, hrun⟩
  · rw [hrefused] at h
    cases h
    exact iff_of_true rfl (Or.inl fun header hparse hverify => absurd hverify (hbad header hparse))
  · rw [hrun] at h
    have hone : ∀ header', parseHeader envelope.nonce = .ok header' → header' = header :=
      fun header' hparse' => Except.ok.inj (hparse'.symm.trans hparse)
    by_cases hknown : known s.ratchet = some header.dhPublicKey
    · rw [ratchetDecrypt_error_known hknown h]
      constructor
      · intro hguarded
        refine Or.inl fun header' hparse' _ => ?_
        rw [hone header' hparse']
        exact ⟨hknown, hguarded⟩
      · rintro (hharmless | ⟨header', hparse', -, hnew, -⟩)
        · exact (hharmless header hparse hverify).2
        · rw [hone header' hparse'] at hnew
          exact absurd hknown hnew
    · obtain ⟨ourKey, hour⟩ := hs.sendingKey
      rw [ratchetDecrypt_error_new hs hour hknown h]
      constructor
      · exact fun hreturns => Or.inr ⟨header, hparse, hverify, hknown, ourKey, hour, hreturns⟩
      · rintro (hharmless | ⟨header', hparse', -, -, key, hkey, hreturns⟩)
        · exact absurd (hharmless header hparse hverify).1 hknown
        · rw [hone header' hparse'] at hreturns
          rw [hour] at hkey
          rwa [Option.some.inj hkey]

omit [DecidableEq (B X25519_PUBLIC_KEY_SIZE)] in
theorem not_fixedPoint {s : ChatSession B} (h : s.ratchet.RootMoves P)
    (envelope : NetworkEnvelope) : ¬ s.FixedPoint P envelope := by
  rintro ⟨header, -, -, -, ourKey, hour, hreturns⟩
  exact h ourKey header.dhPublicKey hour hreturns.root

end ChatSession

section Main

variable {P : Primitives B} [Serde (HybridSignature B)] [Serde (RatchetMessageHeader B)]
  [DecidableEq (B X25519_PUBLIC_KEY_SIZE)]

/-- Which rejections leave a ratchet that runs of any kind have led to
undamaged: on the ratchet the guarded numbers, on a session around it the
harmless envelopes, and no others as long as the derivation does not give the
root key again. -/
theorem rejected_undamaged_iff (r : DoubleRatchet B) (hr : r.Reachable P) :
    (∀ ciphertext header e r', r.decrypt P ciphertext header = .error e r' →
      (DoubleRatchet.Undamaged P r r' ↔ r.Guarded header.messageNumber)) ∧
    (∀ (s : ChatSession B) envelope e s', s.ratchet = r →
      s.decrypt P envelope = .error e s' →
      (DoubleRatchet.Undamaged P r s'.ratchet ↔
        s.Harmless P envelope ∨ s.FixedPoint P envelope)) ∧
    (r.RootMoves P → ∀ (s : ChatSession B) envelope e s', s.ratchet = r →
      s.decrypt P envelope = .error e s' →
      (DoubleRatchet.Undamaged P r s'.ratchet ↔ s.Harmless P envelope)) := by
  refine ⟨?_, ?_, ?_⟩
  · intro ciphertext header e r' hrejected
    rw [DoubleRatchet.undamaged_iff]
    exact DoubleRatchet.decrypt_error_eq_iff hrejected
  · rintro s envelope e s' rfl hrejected
    rw [DoubleRatchet.undamaged_iff]
    exact ChatSession.decrypt_error_eq_iff hr.keyed hrejected
  · rintro hmoves s envelope e s' rfl hrejected
    rw [DoubleRatchet.undamaged_iff, ChatSession.decrypt_error_eq_iff hr.keyed hrejected]
    exact or_iff_left (ChatSession.not_fixedPoint hmoves envelope)

end Main

namespace Sym

/-- A responder that has read one message of its peer. -/
def heardOne (msg : Bytes × RatchetMessageHeader Sym) : DoubleRatchet Sym :=
  ((pairing.startOf primitives .second).apply primitives (.dhRatchet msg.2.dhPublicKey)).apply
    primitives (.decrypt msg.1 msg.2)

theorem heardOne_reachable (msg : Bytes × RatchetMessageHeader Sym) :
    (heardOne msg).Reachable primitives :=
  .call (.call (.start (.responder _ _ _ _)) _) _

/-- Its session with `alice`. -/
def latecomer (msg : Bytes × RatchetMessageHeader Sym) : ChatSession Sym :=
  { freshSession with isInitiator := false, ratchet := heardOne msg }

/-- A header with a ciphertext that is none, signed by `alice`. -/
def garbled (header : RatchetMessageHeader Sym) : NetworkEnvelope :=
  buildSignedEnvelope primitives alice "a1" KIND_DIRECT (asBytes "a1") [9] header 0

/-- A derived root key is longer than the one before. -/
theorem rootMoves (r : DoubleRatchet Sym) : r.RootMoves primitives := by
  intro ourKey key _ h
  have hkey : primitives.hkdf (.key r.rootKey.key) [primitives.diffieHellman ourKey key]
      "presidium-ratchet-root" ROOT_KEY_SIZE = r.rootKey.key := congrArg RootKey.key h
  exact absurd (congrArg List.length hkey) (Nat.ne_of_gt (length_lt_hkdf ..))

end Sym

/-- The peer's second message has overtaken its first one, whose key is stored.
A garbled ciphertext under the number of the first message is rejected by the
ratchet and by the session, and the first message still opens. -/
theorem rejected_undamaged_garbled :
    ∃ m₀ m₁ a₁ a₂,
      (Sym.pairing.startOf Sym.primitives .first).encrypt Sym.primitives [1] = .ok m₀ a₁ ∧
      a₁.encrypt Sym.primitives [2] = .ok m₁ a₂ ∧
      DoubleRatchet.Undamaged Sym.primitives (Sym.heardOne m₁)
        ((Sym.heardOne m₁).decrypt Sym.primitives [9] m₀.2).state ∧
      DoubleRatchet.Undamaged Sym.primitives (Sym.heardOne m₁)
        ((Sym.latecomer m₁).decrypt Sym.primitives (Sym.garbled m₀.2)).state.ratchet ∧
      (((Sym.latecomer m₁).decrypt Sym.primitives (Sym.garbled m₀.2)).state.ratchet.decrypt
        Sym.primitives m₀.1 m₀.2).result = .ok [1] := by
  refine ⟨_, _, _, _, rfl, rfl, ?_, ?_, by decide +kernel⟩
  · refine ((rejected_undamaged_iff _ (Sym.heardOne_reachable _)).1 _ _ .decryptionFailed _
      (Outcome.eq_error_of_result (by decide +kernel))).mpr ?_
    exact Or.inl (by decide +kernel)
  · refine ((rejected_undamaged_iff _ (Sym.heardOne_reachable _)).2.2 (Sym.rootMoves _)
      (Sym.latecomer _) (Sym.garbled _) (.context "ratchet decrypt" (.crypto .decryptionFailed)) _ rfl
      (Outcome.eq_error_of_result (by decide +kernel))).mpr ?_
    intro header hparse _
    cases (parseHeader_toVec _).symm.trans hparse
    exact ⟨by decide +kernel, Or.inl (by decide +kernel)⟩

/-- A duplicate of message 0 is rejected and takes message 1 with it: before
the duplicate message 1 opens, after it message 1 is rejected. -/
theorem duplicate_costs_next :
    ∃ m₀ m₁ a₁ a₂,
      (Sym.pairing.startOf Sym.primitives .first).encrypt Sym.primitives [1] = .ok m₀ a₁ ∧
      a₁.encrypt Sym.primitives [2] = .ok m₁ a₂ ∧
      (Sym.heardOne m₀).Reachable Sym.primitives ∧
      ((Sym.heardOne m₀).decrypt Sym.primitives m₀.1 m₀.2).result = .error .decryptionFailed ∧
      ((Sym.heardOne m₀).decrypt Sym.primitives m₁.1 m₁.2).result = .ok [2] ∧
      (((Sym.heardOne m₀).decrypt Sym.primitives m₀.1 m₀.2).state.decrypt Sym.primitives
        m₁.1 m₁.2).result = .error .decryptionFailed := by
  refine ⟨_, _, _, _, rfl, rfl, Sym.heardOne_reachable _, ?_, ?_, ?_⟩
  all_goals decide +kernel

end Presidium
