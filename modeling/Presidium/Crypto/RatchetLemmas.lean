import Presidium.Crypto.Ratchet
import Mathlib.Logic.Function.Iterate

/-!
# What one call of the ratchet does

One equation per function, so that no later proof unfolds the loop.

* `ChainKey.advance` is the `n`-fold `next`, and `skippedRange` is the list of
  keys that the catch-up loop stores on the way.
* `catchUp_ok` and `catchUp_tooMany` are the two ends of the loop, by
  induction on the distance to the target.  `catchUp_fuel` frees them of the
  fuel.
* `decrypt_stored`, `decrypt_noChain` and `decrypt_live` are the three paths
  of `decrypt`.  `decrypt_live` is the exact state after the live path, on
  every exit.
* `dhRatchet_eq` and `encrypt_of_chain` are the cases that occur in a ratchet
  whose receiving chain holds no key pair of ours.
-/

namespace Presidium

variable {B : Nat → Type} (P : Primitives B)

/-! ## Positions of a chain -/

/-- The `n`-fold `next`. -/
def ChainKey.advance (c : ChainKey B) (n : Nat) : ChainKey B :=
  (ChainKey.next P)^[n] c

namespace ChainKey

variable (c : ChainKey B) (n : Nat)

@[simp] theorem advance_zero : c.advance P 0 = c := rfl

theorem advance_succ : c.advance P (n + 1) = (c.advance P n).next P :=
  Function.iterate_succ_apply' _ _ _

theorem advance_next : (c.next P).advance P n = c.advance P (n + 1) :=
  (Function.iterate_succ_apply _ _ _).symm

theorem advance_advance (m : Nat) : (c.advance P m).advance P n = c.advance P (m + n) := by
  rw [advance, advance, advance, Nat.add_comm m n, Function.iterate_add_apply]

theorem advance_index : (c.advance P n).index = c.index + UInt64.ofNat n := by
  induction n with
  | zero => simp
  | succ n ih =>
    rw [advance_succ, next, ih, UInt64.ofNat_add, UInt64.add_assoc]
    rfl

/-- Below `2 ^ 64` the counter does not wrap. -/
theorem advance_index_toNat (h : c.index.toNat + n < 2 ^ 64) :
    (c.advance P n).index.toNat = c.index.toNat + n := by
  rw [advance_index, UInt64.toNat_add, UInt64.toNat_ofNat', Nat.add_mod_mod,
    Nat.mod_eq_of_lt h]

/-- The chain never stands still: its counter moves. -/
theorem next_ne : c.next P ≠ c := by
  intro h
  have hindex : c.index + 1 = c.index := congrArg ChainKey.index h
  have hnat := congrArg UInt64.toNat hindex
  rw [UInt64.toNat_add] at hnat
  have hlt := c.index.toNat_lt
  simp only [UInt64.reduceToNat] at hnat
  omega

end ChainKey

/-- The message key at position `n` of a chain that starts at `c`. -/
def messageKeyAt (c : ChainKey B) (n : Nat) : B MESSAGE_KEY_SIZE :=
  ((c.advance P n).messageKey P).key

theorem messageKeyAt_advance (c : ChainKey B) (m n : Nat) :
    messageKeyAt P (c.advance P m) n = messageKeyAt P c (m + n) := by
  unfold messageKeyAt
  rw [ChainKey.advance_advance]

/-- The entries that the catch-up loop stores over `n` turns from `c`. -/
def skippedRange (c : ChainKey B) (n : Nat) : List (UInt64 × B MESSAGE_KEY_SIZE) :=
  (List.range n).map fun k =>
    (((c.advance P k).messageKey P).index, ((c.advance P k).messageKey P).key)

@[simp] theorem skippedRange_length (c : ChainKey B) (n : Nat) :
    (skippedRange P c n).length = n := by
  simp [skippedRange]

@[simp] theorem skippedRange_zero (c : ChainKey B) : skippedRange P c 0 = [] := rfl

theorem skippedRange_succ (c : ChainKey B) (n : Nat) :
    skippedRange P c (n + 1) =
      ((c.messageKey P).index, (c.messageKey P).key) :: skippedRange P (c.next P) n := by
  simp only [skippedRange, List.range_succ_eq_map, List.map_cons, List.map_map,
    ChainKey.advance_zero]
  rfl

/-! ## The catch-up loop -/

namespace DoubleRatchet

/-- A target at or below the chain index ends the loop at once. -/
theorem catchUp_done {target : UInt64} {c : ChainKey B} (h : target ≤ c.index) (fuel : Nat)
    (skipped : List (UInt64 × B MESSAGE_KEY_SIZE)) :
    catchUp P target fuel c skipped = .ok () (c, skipped) := by
  cases fuel with
  | zero => rfl
  | succ fuel => rw [catchUp, if_neg (UInt64.not_lt.mpr h)]

private theorem next_index_toNat {target : UInt64} {c : ChainKey B} (h : c.index < target) :
    (c.next P).index.toNat = c.index.toNat + 1 := by
  have hlt : c.index.toNat < target.toNat := UInt64.lt_iff_toNat_lt.mp h
  have hbound := target.toNat_lt
  have hone := c.advance_index_toNat P 1 (by omega)
  rwa [ChainKey.advance_succ, ChainKey.advance_zero] at hone

/-- The loop reaches a target that the limit allows, and stores the keys in
between.  The induction is on the distance. -/
theorem catchUp_ok {target : UInt64} {d : Nat} :
    ∀ {c : ChainKey B} {skipped : List (UInt64 × B MESSAGE_KEY_SIZE)} {fuel : Nat},
      c.index.toNat + d = target.toNat → skipped.length + d ≤ MAX_SKIP_MESSAGES →
      d ≤ fuel →
      catchUp P target fuel c skipped =
        .ok () (c.advance P d, skipped ++ skippedRange P c d) := by
  induction d with
  | zero =>
    intro c skipped fuel hindex _ _
    rw [catchUp_done P (UInt64.le_iff_toNat_le.mpr (by omega)), ChainKey.advance_zero,
      skippedRange_zero, List.append_nil]
  | succ d ih =>
    intro c skipped fuel hindex hlimit hfuel
    obtain ⟨fuel, rfl⟩ : ∃ f, fuel = f + 1 := ⟨fuel - 1, by omega⟩
    have hlt : c.index < target := UInt64.lt_iff_toNat_lt.mpr (by omega)
    have hnext := next_index_toNat P hlt
    rw [catchUp, if_pos hlt]
    have hlen : ¬ (skipped ++ [((c.messageKey P).index, (c.messageKey P).key)]).length
        > MAX_SKIP_MESSAGES := by
      rw [List.length_append, List.length_singleton]
      omega
    simp only [hlen, if_false]
    rw [ih (by omega) (by rw [List.length_append, List.length_singleton]; omega) (by omega),
      ChainKey.advance_next, skippedRange_succ, List.append_assoc, List.singleton_append]

/-- The loop leaves with an error as soon as it has stored one key more than
the limit.  The chain stands at the key stored last. -/
theorem catchUp_tooMany {target : UInt64} {m : Nat} :
    ∀ {c : ChainKey B} {skipped : List (UInt64 × B MESSAGE_KEY_SIZE)} {fuel : Nat},
      c.index.toNat + m < target.toNat → m = MAX_SKIP_MESSAGES - skipped.length →
      m < fuel →
      catchUp P target fuel c skipped =
        .error (.ratchetError "Too many skipped messages")
          (c.advance P m, skipped ++ skippedRange P c (m + 1)) := by
  induction m with
  | zero =>
    intro c skipped fuel hindex hm hfuel
    obtain ⟨fuel, rfl⟩ : ∃ f, fuel = f + 1 := ⟨fuel - 1, by omega⟩
    have hlt : c.index < target := UInt64.lt_iff_toNat_lt.mpr (by omega)
    have hlen : (skipped ++ [((c.messageKey P).index, (c.messageKey P).key)]).length
        > MAX_SKIP_MESSAGES := by
      rw [List.length_append, List.length_singleton]
      omega
    rw [catchUp, if_pos hlt]
    simp only [hlen, if_true]
    rw [skippedRange_succ, skippedRange_zero, ChainKey.advance_zero]
  | succ m ih =>
    intro c skipped fuel hindex hm hfuel
    obtain ⟨fuel, rfl⟩ : ∃ f, fuel = f + 1 := ⟨fuel - 1, by omega⟩
    have hlt : c.index < target := UInt64.lt_iff_toNat_lt.mpr (by omega)
    have hnext := next_index_toNat P hlt
    have hlen : ¬ (skipped ++ [((c.messageKey P).index, (c.messageKey P).key)]).length
        > MAX_SKIP_MESSAGES := by
      rw [List.length_append, List.length_singleton]
      omega
    rw [catchUp, if_pos hlt]
    simp only [hlen, if_false]
    rw [ih (by omega) (by rw [List.length_append, List.length_singleton]; omega) (by omega),
      ChainKey.advance_next, skippedRange_succ P c (m + 1), List.append_assoc,
      List.singleton_append]

/-- The distance of the loop: how many message numbers lie between the chain
and the target. -/
def distance (c : ChainKey B) (target : UInt64) : Nat :=
  target.toNat - c.index.toNat

/-- Whether the loop may store that many keys more. -/
def WithinLimit (c : ChainKey B) (skipped : List (UInt64 × B MESSAGE_KEY_SIZE))
    (target : UInt64) : Prop :=
  distance c target = 0 ∨ skipped.length + distance c target ≤ MAX_SKIP_MESSAGES

instance (c : ChainKey B) (skipped : List (UInt64 × B MESSAGE_KEY_SIZE)) (target : UInt64) :
    Decidable (WithinLimit c skipped target) :=
  inferInstanceAs (Decidable (_ ∨ _))

/-- The loop as one equation. -/
theorem catchUp_eq (target : UInt64) (c : ChainKey B)
    (skipped : List (UInt64 × B MESSAGE_KEY_SIZE)) {fuel : Nat}
    (hfuel : MAX_SKIP_MESSAGES - skipped.length < fuel) :
    catchUp P target fuel c skipped =
      if WithinLimit c skipped target then
        .ok () (c.advance P (distance c target),
          skipped ++ skippedRange P c (distance c target))
      else
        .error (.ratchetError "Too many skipped messages")
          (c.advance P (MAX_SKIP_MESSAGES - skipped.length),
            skipped ++ skippedRange P c (MAX_SKIP_MESSAGES - skipped.length + 1)) := by
  by_cases hzero : distance c target = 0
  · have hlimit : WithinLimit c skipped target := Or.inl hzero
    rw [if_pos hlimit, hzero]
    have hle : target ≤ c.index := UInt64.le_iff_toNat_le.mpr (Nat.sub_eq_zero_iff_le.mp hzero)
    rw [catchUp_done P hle, ChainKey.advance_zero, skippedRange_zero, List.append_nil]
  · have hdist : c.index.toNat + distance c target = target.toNat := by
      unfold distance at hzero ⊢
      omega
    by_cases hlimit : WithinLimit c skipped target
    · rw [if_pos hlimit]
      have hle := hlimit.resolve_left hzero
      exact catchUp_ok P hdist hle (by omega)
    · rw [if_neg hlimit]
      have hgt : ¬ skipped.length + distance c target ≤ MAX_SKIP_MESSAGES :=
        fun h => hlimit (Or.inr h)
      exact catchUp_tooMany P (by omega) rfl hfuel

/-- Fuel beyond the limit changes nothing. -/
theorem catchUp_fuel (target : UInt64) (c : ChainKey B)
    (skipped : List (UInt64 × B MESSAGE_KEY_SIZE)) {fuel fuel' : Nat}
    (hfuel : MAX_SKIP_MESSAGES - skipped.length < fuel) (hle : fuel ≤ fuel') :
    catchUp P target fuel' c skipped = catchUp P target fuel c skipped := by
  rw [catchUp_eq P target c skipped hfuel, catchUp_eq P target c skipped (by omega)]

/-! ## Stored keys -/

/-- A number without a stored key has no entry. -/
theorem not_mem_of_storedKey_none {r : DoubleRatchet B} {number : UInt64}
    (h : r.storedKey number = none) (key : B MESSAGE_KEY_SIZE) :
    (number, key) ∉ r.receivingChain.skippedMessageKeys := by
  intro hmem
  have hnone := List.find?_eq_none.mp (Option.map_eq_none_iff.mp h) _ hmem
  exact hnone (beq_self_eq_true number)

theorem mem_of_storedKey {r : DoubleRatchet B} {number : UInt64} {key : B MESSAGE_KEY_SIZE}
    (h : r.storedKey number = some key) :
    (number, key) ∈ r.receivingChain.skippedMessageKeys := by
  obtain ⟨entry, hfind, rfl⟩ := Option.map_eq_some_iff.mp h
  have hmatch := List.find?_some hfind
  have hnumber : entry.1 = number := beq_iff_eq.mp hmatch
  rw [← hnumber]
  exact List.mem_of_find?_eq_some hfind

/-! ## The three paths of `decrypt` -/

/-- The end of both paths of `decrypt`: the answer of the AEAD, with the
ratchet already in its last state. -/
def answer (r : DoubleRatchet B) : Option Bytes → Outcome CryptoError (DoubleRatchet B) Bytes
  | none => .error .decryptionFailed r
  | some plaintext => .ok plaintext r

@[simp] theorem answer_state (r : DoubleRatchet B) (o : Option Bytes) :
    (answer r o).state = r := by
  cases o <;> rfl

@[simp] theorem answer_eq_ok (r r' : DoubleRatchet B) (o : Option Bytes) (m : Bytes) :
    answer r o = .ok m r' ↔ o = some m ∧ r = r' := by
  cases o <;> simp [answer]

section Decrypt

variable [Serde (RatchetMessageHeader B)] {r : DoubleRatchet B}
  {header : RatchetMessageHeader B}

/-- A number with a stored key goes to that key, and the ratchet stays as it
is. -/
theorem decrypt_stored {key : B MESSAGE_KEY_SIZE}
    (h : r.storedKey header.messageNumber = some key) (ciphertext : Bytes) :
    r.decrypt P ciphertext header = answer r (openWith P key header ciphertext) := by
  unfold decrypt
  simp only [h]
  cases openWith P key header ciphertext <;> rfl

/-- Without a stored key and without a receiving chain the message is refused. -/
theorem decrypt_noChain (h : r.storedKey header.messageNumber = none)
    (hchain : r.receivingChain.chainKey = none) (ciphertext : Bytes) :
    r.decrypt P ciphertext header =
      .error (.ratchetError "No receiving chain established") r := by
  unfold decrypt
  simp only [h, hchain]

/-- The ratchet after the live path has tried a message number: the chain
stands behind the key that was tried, and the keys before it are stored. -/
def tried (P : Primitives B) (r : DoubleRatchet B) (c : ChainKey B) (target : UInt64) :
    DoubleRatchet B :=
  r.withReceiving (c.advance P (distance c target + 1))
    (r.receivingChain.skippedMessageKeys ++ skippedRange P c (distance c target))

/-- The ratchet after the live path has hit the limit. -/
def overrun (P : Primitives B) (r : DoubleRatchet B) (c : ChainKey B) : DoubleRatchet B :=
  let m := MAX_SKIP_MESSAGES - r.receivingChain.skippedMessageKeys.length
  r.withReceiving (c.advance P m)
    (r.receivingChain.skippedMessageKeys ++ skippedRange P c (m + 1))

/-- The key that the live path tries on a message number. -/
def liveKey (P : Primitives B) (c : ChainKey B) (target : UInt64) : B MESSAGE_KEY_SIZE :=
  ((c.advance P (distance c target)).messageKey P).key

/-- The live path: the state after it on every exit. -/
theorem decrypt_live {c : ChainKey B} (h : r.storedKey header.messageNumber = none)
    (hchain : r.receivingChain.chainKey = some c) (ciphertext : Bytes) :
    r.decrypt P ciphertext header =
      if WithinLimit c r.receivingChain.skippedMessageKeys header.messageNumber then
        answer (r.tried P c header.messageNumber)
          (openWith P (liveKey P c header.messageNumber) header ciphertext)
      else
        .error (.ratchetError "Too many skipped messages") (r.overrun P c) := by
  unfold decrypt
  simp only [h, hchain]
  rw [catchUp_eq P header.messageNumber c _ (by omega)]
  by_cases hlimit : WithinLimit c r.receivingChain.skippedMessageKeys header.messageNumber
  · simp only [if_pos hlimit, tried, liveKey, ChainKey.advance_succ]
    cases openWith P _ header ciphertext <;> rfl
  · simp only [if_neg hlimit, overrun]

/-- How `decrypt` takes a message: under a stored key, with the ratchet left as
it is, or from the live chain. -/
theorem decrypt_eq_ok {r' : DoubleRatchet B} {ciphertext plaintext : Bytes}
    (h : r.decrypt P ciphertext header = .ok plaintext r') :
    ∃ key, openWith P key header ciphertext = some plaintext ∧
      ((r.storedKey header.messageNumber = some key ∧ r' = r) ∨
        (r.storedKey header.messageNumber = none ∧
          ∃ c, r.receivingChain.chainKey = some c ∧
            WithinLimit c r.receivingChain.skippedMessageKeys header.messageNumber ∧
            key = liveKey P c header.messageNumber ∧ r' = r.tried P c header.messageNumber)) := by
  cases hstored : r.storedKey header.messageNumber with
  | some key =>
    rw [decrypt_stored P hstored, answer_eq_ok] at h
    exact ⟨key, h.1, Or.inl ⟨rfl, h.2.symm⟩⟩
  | none =>
    cases hchain : r.receivingChain.chainKey with
    | none =>
      rw [decrypt_noChain P hstored hchain] at h
      cases h
    | some c =>
      rw [decrypt_live P hstored hchain] at h
      split at h
      next hlimit =>
        rw [answer_eq_ok] at h
        exact ⟨_, h.1, Or.inr ⟨rfl, c, rfl, hlimit, rfl, h.2.symm⟩⟩
      next => cases h

end Decrypt

/-! ## `dh_ratchet` and `encrypt` -/

/-- A receiving chain without a key pair of ours.  Both constructors start so
and no method of the ratchet ever puts one there. -/
def NoReceivingKey (r : DoubleRatchet B) : Prop :=
  r.receivingChain.ourRatchetKey = none

/-- The ratchet with a fresh receiving chain, agreed with the peer key
`peerRatchetPublic` under our key `ourKey`. -/
def ratcheted (P : Primitives B) (r : DoubleRatchet B) (ourKey : B X25519_PRIVATE_KEY_SIZE)
    (peerRatchetPublic : B X25519_PUBLIC_KEY_SIZE) : DoubleRatchet B :=
  let step := r.rootKey.ratchetStep P (P.diffieHellman ourKey peerRatchetPublic)
  { r with
    rootKey := step.1
    sendingChain := { r.sendingChain with theirRatchetPublic := some peerRatchetPublic }
    receivingChain := { r.receivingChain with chainKey := some step.2 } }

/-- `dh_ratchet` always takes its second branch. -/
theorem dhRatchet_eq {r : DoubleRatchet B} (hr : r.NoReceivingKey)
    {ourKey : B X25519_PRIVATE_KEY_SIZE} (hkey : r.sendingChain.ourRatchetKey = some ourKey)
    (peerRatchetPublic : B X25519_PUBLIC_KEY_SIZE) :
    r.dhRatchet P peerRatchetPublic = .ok () (r.ratcheted P ourKey peerRatchetPublic) := by
  obtain ⟨root, ⟨our, their, sendingKey, stored⟩, ⟨receivingOur, _, _, _⟩, _, _⟩ := r
  obtain rfl : receivingOur = none := hr
  obtain rfl : our = some ourKey := hkey
  rfl

section Encrypt

variable [Serde (RatchetMessageHeader B)]

/-- The ratchet after one message was sent from the chain `c`. -/
def sent (P : Primitives B) (r : DoubleRatchet B) (c : ChainKey B) : DoubleRatchet B :=
  { r with sendingChain := { r.sendingChain with chainKey := some (c.next P) } }

/-- The AEAD call of `encrypt` on the chain `c`. -/
def sealWith (P : Primitives B) (r : DoubleRatchet B) (c : ChainKey B) (plaintext : Bytes) :
    Option Bytes :=
  P.aeadEncrypt (c.messageKey P).key (nonceOf c.index) (Serde.toVec (r.headerFor P c.index))
    plaintext

/-- `encrypt` on an established sending chain. -/
theorem encrypt_of_chain {r : DoubleRatchet B} {c : ChainKey B}
    (h : r.sendingChain.chainKey = some c) (plaintext : Bytes) :
    r.encrypt P plaintext =
      match r.sealWith P c plaintext with
      | none => .error (.encryptionFailed "Ratchet encryption failed") (r.sent P c)
      | some ciphertext => .ok (ciphertext, r.headerFor P c.index) (r.sent P c) := by
  have hensure : r.ensureSendingChain P = .ok r := by
    unfold ensureSendingChain
    simp only [h]
  unfold encrypt
  simp only [hensure, h]
  rfl

/-- The ratchet with the sending chain that `encrypt` derives on first use. -/
def derived (P : Primitives B) (r : DoubleRatchet B) (ourKey : B X25519_PRIVATE_KEY_SIZE)
    (their : B X25519_PUBLIC_KEY_SIZE) : DoubleRatchet B :=
  let step := r.rootKey.ratchetStep P (P.diffieHellman ourKey their)
  { r with
    rootKey := step.1
    sendingChain := { r.sendingChain with chainKey := some step.2 } }

/-- `encrypt` without a sending chain first derives one. -/
theorem encrypt_of_derived {r : DoubleRatchet B} (h : r.sendingChain.chainKey = none)
    {ourKey : B X25519_PRIVATE_KEY_SIZE} (hkey : r.sendingChain.ourRatchetKey = some ourKey)
    {their : B X25519_PUBLIC_KEY_SIZE} (htheir : r.sendingChain.theirRatchetPublic = some their)
    (plaintext : Bytes) :
    r.encrypt P plaintext = (r.derived P ourKey their).encrypt P plaintext := by
  obtain ⟨root, ⟨our, peer, sendingKey, stored⟩, receiving, _, _⟩ := r
  obtain rfl : sendingKey = none := h
  obtain rfl : our = some ourKey := hkey
  obtain rfl : peer = some their := htheir
  rfl

/-- The ratchet after `encrypt`, whatever its exit. -/
theorem encrypt_state_eq (r : DoubleRatchet B) (plaintext : Bytes) :
    (r.encrypt P plaintext).state =
      match r.ensureSendingChain P with
      | .error _ => r
      | .ok r₁ =>
        match r₁.sendingChain.chainKey with
        | none => r₁
        | some c => r₁.sent P c := by
  unfold encrypt
  cases r.ensureSendingChain P with
  | error e => rfl
  | ok r₁ =>
    cases hchain : r₁.sendingChain.chainKey with
    | none => simp only [hchain, Outcome.state_error]
    | some c =>
      simp only [hchain]
      split <;> rfl

omit [Serde (RatchetMessageHeader B)] in
/-- The first part of `encrypt` finds a sending chain or derives one. -/
theorem ensureSendingChain_eq_ok {r r₁ : DoubleRatchet B}
    (h : r.ensureSendingChain P = .ok r₁) :
    r₁ = r ∨ ∃ ourKey their, r.sendingChain.ourRatchetKey = some ourKey ∧
      r.sendingChain.theirRatchetPublic = some their ∧ r₁ = r.derived P ourKey their := by
  obtain ⟨root, ⟨our, their, chainKey, stored⟩, receiving, _, _⟩ := r
  cases chainKey with
  | some c => exact Or.inl (Except.ok.inj h).symm
  | none =>
    cases our with
    | none => cases h
    | some ourKey =>
      cases their with
      | none => cases h
      | some their => exact Or.inr ⟨ourKey, their, rfl, rfl, (Except.ok.inj h).symm⟩

/-- What a successful `encrypt` has done: it has a sending chain, derived now or
before, and has sealed the text under the current key of that chain. -/
theorem encrypt_eq_ok {r r' : DoubleRatchet B} {plaintext ciphertext : Bytes}
    {header : RatchetMessageHeader B} (h : r.encrypt P plaintext = .ok (ciphertext, header) r') :
    ∃ r₁ c, r.ensureSendingChain P = .ok r₁ ∧ r₁.sendingChain.chainKey = some c ∧
      r₁.sealWith P c plaintext = some ciphertext ∧ header = r₁.headerFor P c.index ∧
      r' = r₁.sent P c := by
  cases hensure : r.ensureSendingChain P with
  | error e =>
    unfold encrypt at h
    simp only [hensure] at h
    cases h
  | ok r₁ =>
    cases hkey : r₁.sendingChain.chainKey with
    | none =>
      unfold encrypt at h
      simp only [hensure, hkey] at h
      cases h
    | some c =>
      -- from here on the call is the call on the ratchet with the chain
      have hsame : r.encrypt P plaintext = r₁.encrypt P plaintext := by
        rw [encrypt_of_chain P hkey]
        unfold encrypt
        simp only [hensure, hkey]
        rfl
      rw [hsame, encrypt_of_chain P hkey] at h
      cases hseal : r₁.sealWith P c plaintext with
      | none =>
        simp only [hseal] at h
        cases h
      | some sealed =>
        simp only [hseal] at h
        cases h
        exact ⟨r₁, c, rfl, hkey, hseal, rfl, rfl⟩

end Encrypt

end DoubleRatchet
end Presidium
