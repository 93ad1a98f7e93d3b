import Presidium.Crypto.RatchetLemmas
import Presidium.Lib.Machine

/-!
# Runs of one ratchet

One ratchet on its own: any sequence of `encrypt`, `decrypt` and
`dh_ratchet` calls, with any arguments, from either constructor.  A call that
returns an error counts like any other, with the state that it leaves.

`Keyed` is what every such run keeps.  The receiving chain never holds a key
pair of ours, so `dh_ratchet` always takes its second branch, and the sending
chain always holds one, so `dh_ratchet` never fails.

`apply_receiving` is the specification of a call for the receiving side: the
call stays on the receiving chain, moves forward on it and stores keys of it,
or it opens the next chain.
-/

namespace Presidium

variable {B : Nat → Type}

/-- A call of a ratchet method. -/
inductive RatchetOp (B : Nat → Type) where
  | encrypt (plaintext : Bytes)
  | decrypt (ciphertext : Bytes) (header : RatchetMessageHeader B)
  | dhRatchet (peerRatchetPublic : B X25519_PUBLIC_KEY_SIZE)

namespace DoubleRatchet

/-- The ratchets that the two constructors give. -/
inductive Starts (P : Primitives B) : DoubleRatchet B → Prop
  | initiator (sessionId : String) (rootKey : RootKey B)
      (ourRatchetKey : B X25519_PRIVATE_KEY_SIZE) (peerRatchetPublic : B X25519_PUBLIC_KEY_SIZE)
      (associatedData : Bytes) :
      Starts P (.init P sessionId rootKey ourRatchetKey peerRatchetPublic associatedData)
  | responder (sessionId : String) (rootKey : RootKey B)
      (ourRatchetKey : B X25519_PRIVATE_KEY_SIZE) (associatedData : Bytes) :
      Starts P (.initAsResponder sessionId rootKey ourRatchetKey associatedData)

variable (P : Primitives B) [Serde (RatchetMessageHeader B)]

/-- The ratchet after a call. -/
def apply (r : DoubleRatchet B) : RatchetOp B → DoubleRatchet B
  | .encrypt plaintext => (r.encrypt P plaintext).state
  | .decrypt ciphertext header => (r.decrypt P ciphertext header).state
  | .dhRatchet peerRatchetPublic => (r.dhRatchet P peerRatchetPublic).state

/-- One ratchet as a machine; every call may occur. -/
def machine : Machine (DoubleRatchet B) (RatchetOp B) where
  step := apply P
  Enabled _ _ := True

/-- The receiving chain that a call opens. -/
def opens (r : DoubleRatchet B) : RatchetOp B → List (ChainKey B)
  | .dhRatchet peerRatchetPublic =>
    (r.dhRatchet P peerRatchetPublic).state.receivingChain.chainKey.toList
  | _ => []

/-- The ratchets that some sequence of calls leads to. -/
inductive Reachable : DoubleRatchet B → Prop
  | start {r : DoubleRatchet B} (h : Starts P r) : Reachable r
  | call {r : DoubleRatchet B} (h : Reachable r) (op : RatchetOp B) : Reachable (r.apply P op)

variable {P}

/-! ## What a call leaves alone -/

/-- `decrypt` writes to the chain key and the skipped keys of the receiving
chain only. -/
theorem decrypt_state (r : DoubleRatchet B) (ciphertext : Bytes)
    (header : RatchetMessageHeader B) :
    (r.decrypt P ciphertext header).state = r ∨
      ∃ chain skipped, (r.decrypt P ciphertext header).state = r.withReceiving chain skipped := by
  cases hstored : r.storedKey header.messageNumber with
  | some key =>
    rw [decrypt_stored P hstored, answer_state]
    exact Or.inl rfl
  | none =>
    cases hchain : r.receivingChain.chainKey with
    | none =>
      rw [decrypt_noChain P hstored hchain]
      exact Or.inl rfl
    | some c =>
      right
      rw [decrypt_live P hstored hchain]
      split
      · rw [answer_state]
        exact ⟨_, _, rfl⟩
      · exact ⟨_, _, rfl⟩

theorem decrypt_sendingChain (r : DoubleRatchet B) (ciphertext : Bytes)
    (header : RatchetMessageHeader B) :
    (r.decrypt P ciphertext header).state.sendingChain = r.sendingChain := by
  rcases decrypt_state (P := P) r ciphertext header with hsame | ⟨chain, skipped, hmoved⟩
  · rw [hsame]
  · rw [hmoved]
    rfl

/-- `encrypt` leaves the receiving chain and the ratchet keys alone. -/
theorem encrypt_state (r : DoubleRatchet B) (plaintext : Bytes) :
    (r.encrypt P plaintext).state.receivingChain = r.receivingChain ∧
      (r.encrypt P plaintext).state.sendingChain.ourRatchetKey = r.sendingChain.ourRatchetKey ∧
      (r.encrypt P plaintext).state.sendingChain.theirRatchetPublic =
        r.sendingChain.theirRatchetPublic := by
  rw [encrypt_state_eq]
  cases hensure : r.ensureSendingChain P with
  | error e => exact ⟨rfl, rfl, rfl⟩
  | ok r₁ =>
    have hsame : r₁.receivingChain = r.receivingChain ∧
        r₁.sendingChain.ourRatchetKey = r.sendingChain.ourRatchetKey ∧
        r₁.sendingChain.theirRatchetPublic = r.sendingChain.theirRatchetPublic := by
      rcases ensureSendingChain_eq_ok P hensure with rfl | ⟨ourKey, their, -, -, rfl⟩
      · exact ⟨rfl, rfl, rfl⟩
      · exact ⟨rfl, rfl, rfl⟩
    cases hchain : r₁.sendingChain.chainKey with
    | none =>
      simp only [hchain]
      exact hsame
    | some c =>
      simp only [hchain]
      exact hsame

/-- Session id and associated data of a ratchet. -/
def SameLabels (r r' : DoubleRatchet B) : Prop :=
  r'.sessionId = r.sessionId ∧ r'.associatedData = r.associatedData

omit [Serde (RatchetMessageHeader B)] in
theorem sameLabels_dhRatchet (r : DoubleRatchet B) (peerRatchetPublic : B X25519_PUBLIC_KEY_SIZE) :
    r.SameLabels (r.dhRatchet P peerRatchetPublic).state := by
  unfold dhRatchet
  cases r.receivingChain.ourRatchetKey.or r.sendingChain.ourRatchetKey with
  | none => exact ⟨rfl, rfl⟩
  | some ourKey =>
    simp only
    split
    · exact ⟨rfl, rfl⟩
    · exact ⟨rfl, rfl⟩

theorem sameLabels_decrypt (r : DoubleRatchet B) (ciphertext : Bytes)
    (header : RatchetMessageHeader B) : r.SameLabels (r.decrypt P ciphertext header).state := by
  rcases decrypt_state (P := P) r ciphertext header with hsame | ⟨chain, skipped, hmoved⟩
  · rw [hsame]
    exact ⟨rfl, rfl⟩
  · rw [hmoved]
    exact ⟨rfl, rfl⟩

theorem sameLabels_encrypt (r : DoubleRatchet B) (plaintext : Bytes) :
    r.SameLabels (r.encrypt P plaintext).state := by
  rw [encrypt_state_eq]
  cases hensure : r.ensureSendingChain P with
  | error e => exact ⟨rfl, rfl⟩
  | ok r₁ =>
    have hsame : r.SameLabels r₁ := by
      rcases ensureSendingChain_eq_ok P hensure with rfl | ⟨ourKey, their, -, -, rfl⟩
      · exact ⟨rfl, rfl⟩
      · exact ⟨rfl, rfl⟩
    cases hchain : r₁.sendingChain.chainKey with
    | none =>
      simp only [hchain]
      exact hsame
    | some c =>
      simp only [hchain]
      exact hsame

/-! ## The invariant of every run -/

/-- Our key pair is in the sending chain and in no other place. -/
structure Keyed (r : DoubleRatchet B) : Prop where
  noReceivingKey : r.NoReceivingKey
  sendingKey : ∃ ourKey, r.sendingChain.ourRatchetKey = some ourKey

omit [Serde (RatchetMessageHeader B)] in
theorem Starts.keyed {r : DoubleRatchet B} (h : Starts P r) : r.Keyed := by
  cases h with
  | initiator _ _ ourKey => exact ⟨rfl, ourKey, rfl⟩
  | responder _ _ ourKey => exact ⟨rfl, ourKey, rfl⟩

theorem Keyed.apply {r : DoubleRatchet B} (h : r.Keyed) (op : RatchetOp B) :
    (r.apply P op).Keyed := by
  obtain ⟨ourKey, hour⟩ := h.sendingKey
  cases op with
  | encrypt plaintext =>
    obtain ⟨hreceiving, hsending, -⟩ := encrypt_state (P := P) r plaintext
    refine ⟨?_, ourKey, hsending.trans hour⟩
    show (r.encrypt P plaintext).state.receivingChain.ourRatchetKey = none
    rw [hreceiving]
    exact h.noReceivingKey
  | decrypt ciphertext header =>
    show ((r.decrypt P ciphertext header).state).Keyed
    rcases decrypt_state (P := P) r ciphertext header with hsame | ⟨chain, skipped, hmoved⟩
    · rw [hsame]
      exact h
    · rw [hmoved]
      exact ⟨h.noReceivingKey, h.sendingKey⟩
  | dhRatchet peerRatchetPublic =>
    show ((r.dhRatchet P peerRatchetPublic).state).Keyed
    rw [dhRatchet_eq P h.noReceivingKey hour]
    exact ⟨h.noReceivingKey, h.sendingKey⟩

theorem keyed_run {r : DoubleRatchet B} (hr : r.Keyed) (ops : List (RatchetOp B)) :
    ((machine P).run r ops).Keyed := by
  induction ops generalizing r with
  | nil => exact hr
  | cons op ops ih => exact ih (hr.apply op)

theorem Reachable.keyed {r : DoubleRatchet B} (h : r.Reachable P) : r.Keyed := by
  induction h with
  | start h => exact h.keyed
  | call _ op ih => exact ih.apply op

/-! ## What a call does to the receiving side -/

/-- The keys that the catch-up loop stores, from the chain as it stands. -/
def pushed (P : Primitives B) (r : DoubleRatchet B) (n : Nat) :
    List (UInt64 × B MESSAGE_KEY_SIZE) :=
  match r.receivingChain.chainKey with
  | none => []
  | some c => skippedRange P c n

/-- The receiving side stays on its chain: it moves forward, and keys of the
chain are appended to the stored ones. -/
def Onward (P : Primitives B) (r r' : DoubleRatchet B) : Prop :=
  ∃ m n, m ≤ MAX_SKIP_MESSAGES + 1 ∧ n ≤ MAX_SKIP_MESSAGES + 1 ∧
    r'.receivingChain.chainKey = r.receivingChain.chainKey.map (fun c => c.advance P m) ∧
    r'.receivingChain.skippedMessageKeys =
      r.receivingChain.skippedMessageKeys ++ r.pushed P n

omit [Serde (RatchetMessageHeader B)] in
theorem Onward.of_eq {r r' : DoubleRatchet B} (h : r'.receivingChain = r.receivingChain) :
    Onward P r r' := by
  refine ⟨0, 0, Nat.zero_le _, Nat.zero_le _, ?_, ?_⟩
  · rw [h]
    cases r.receivingChain.chainKey <;> rfl
  · have hnone : r.pushed P 0 = [] := by
      unfold pushed
      cases r.receivingChain.chainKey <;> rfl
    rw [h, hnone, List.append_nil]

theorem decrypt_onward (r : DoubleRatchet B) (ciphertext : Bytes)
    (header : RatchetMessageHeader B) : Onward P r (r.decrypt P ciphertext header).state := by
  cases hstored : r.storedKey header.messageNumber with
  | some key =>
    rw [decrypt_stored P hstored, answer_state]
    exact .of_eq rfl
  | none =>
    cases hchain : r.receivingChain.chainKey with
    | none =>
      rw [decrypt_noChain P hstored hchain]
      exact .of_eq rfl
    | some c =>
      have hmap : ∀ m, r.receivingChain.chainKey.map (fun c => c.advance P m) =
          some (c.advance P m) := by
        intro m
        rw [hchain]
        rfl
      have hpushed : ∀ n, r.pushed P n = skippedRange P c n := by
        intro n
        unfold pushed
        rw [hchain]
      rw [decrypt_live P hstored hchain]
      split
      next hlimit =>
        rw [answer_state]
        refine ⟨distance c header.messageNumber + 1, distance c header.messageNumber, ?_, ?_,
          (hmap _).symm, ?_⟩
        · rcases hlimit with h | h <;> omega
        · rcases hlimit with h | h <;> omega
        · rw [hpushed]
          rfl
      next =>
        -- the loop has stored one key more than it has moved
        refine ⟨MAX_SKIP_MESSAGES - r.receivingChain.skippedMessageKeys.length,
          MAX_SKIP_MESSAGES - r.receivingChain.skippedMessageKeys.length + 1, ?_, ?_,
          (hmap _).symm, ?_⟩
        · omega
        · omega
        · rw [hpushed]
          rfl

/-- A call either stays on the receiving chain or opens the next one. -/
theorem apply_receiving {r : DoubleRatchet B} (hr : r.Keyed) (op : RatchetOp B) :
    (opens P r op = [] ∧ Onward P r (r.apply P op)) ∨
      ∃ c, opens P r op = [c] ∧ (r.apply P op).receivingChain.chainKey = some c ∧
        (r.apply P op).receivingChain.skippedMessageKeys =
          r.receivingChain.skippedMessageKeys := by
  cases op with
  | encrypt plaintext => exact Or.inl ⟨rfl, .of_eq (encrypt_state r plaintext).1⟩
  | decrypt ciphertext header => exact Or.inl ⟨rfl, decrypt_onward r ciphertext header⟩
  | dhRatchet peerRatchetPublic =>
    right
    obtain ⟨ourKey, hour⟩ := hr.sendingKey
    have hstate : r.apply P (.dhRatchet peerRatchetPublic) =
        r.ratcheted P ourKey peerRatchetPublic :=
      congrArg Outcome.state (dhRatchet_eq P hr.noReceivingKey hour peerRatchetPublic)
    have hopens : opens P r (.dhRatchet peerRatchetPublic) =
        (r.apply P (.dhRatchet peerRatchetPublic)).receivingChain.chainKey.toList := rfl
    rw [hopens, hstate]
    exact ⟨_, rfl, rfl, rfl⟩

/-- Stored keys are never removed. -/
theorem stored_prefix_apply {r : DoubleRatchet B} (hr : r.Keyed) (op : RatchetOp B) :
    ∃ more, (r.apply P op).receivingChain.skippedMessageKeys =
      r.receivingChain.skippedMessageKeys ++ more := by
  rcases apply_receiving (P := P) hr op with ⟨-, m, n, -, -, -, hstored⟩ | ⟨c, -, -, hstored⟩
  · exact ⟨_, hstored⟩
  · exact ⟨[], by rw [hstored, List.append_nil]⟩

omit [Serde (RatchetMessageHeader B)] in
theorem mem_pushed {r : DoubleRatchet B} {n : Nat} {entry : UInt64 × B MESSAGE_KEY_SIZE}
    (h : entry ∈ r.pushed P n) :
    ∃ c k, r.receivingChain.chainKey = some c ∧ k < n ∧ entry.2 = messageKeyAt P c k := by
  unfold pushed at h
  cases hchain : r.receivingChain.chainKey with
  | none =>
    rw [hchain] at h
    exact absurd h List.not_mem_nil
  | some c =>
    rw [hchain] at h
    obtain ⟨k, hk, rfl⟩ := List.mem_map.mp h
    exact ⟨c, k, rfl, List.mem_range.mp hk, rfl⟩

end DoubleRatchet
end Presidium
