import Mathlib.Data.List.Range

/-!
# A receiver that takes items in order

Items are numbered.  The receiver waits for one number and takes nothing else;
once it has taken that item it waits for the next number.  Arrivals come in any
order and any number of times, among others that are no items at all.

The receiver takes consecutive items (`accepted_eq_range'`).  It takes all of a
stretch that arrives in order with anything in between (`le_length_accepted`),
and it takes everything of a list of items only when nothing is missing in it
(`outcomes_eq_self_iff`).
-/

namespace InOrder

/-- What becomes of each arrival at a receiver that waits for `next`: the item,
when it is taken. -/
def outcomes : Nat → List (Option Nat) → List (Option Nat)
  | _, [] => []
  | next, arrival :: rest =>
    if arrival = some next then some next :: outcomes (next + 1) rest
    else none :: outcomes next rest

/-- The items that it takes. -/
def accepted (next : Nat) (arrivals : List (Option Nat)) : List Nat :=
  (outcomes next arrivals).filterMap id

variable {next : Nat} {arrivals : List (Option Nat)}

theorem outcomes_cons_self (next : Nat) (rest : List (Option Nat)) :
    outcomes next (some next :: rest) = some next :: outcomes (next + 1) rest := by
  simp [outcomes]

theorem outcomes_cons_ne {arrival : Option Nat} (h : arrival ≠ some next)
    (rest : List (Option Nat)) : outcomes next (arrival :: rest) = none :: outcomes next rest := by
  simp [outcomes, h]

theorem accepted_cons_self (next : Nat) (rest : List (Option Nat)) :
    accepted next (some next :: rest) = next :: accepted (next + 1) rest := by
  simp [accepted, outcomes_cons_self]

theorem accepted_cons_ne {arrival : Option Nat} (h : arrival ≠ some next)
    (rest : List (Option Nat)) : accepted next (arrival :: rest) = accepted next rest := by
  simp [accepted, outcomes_cons_ne h]

/-- It takes consecutive items. -/
theorem accepted_eq_range' (next : Nat) (arrivals : List (Option Nat)) :
    accepted next arrivals = List.range' next (accepted next arrivals).length := by
  induction arrivals generalizing next with
  | nil => rfl
  | cons arrival rest ih =>
    by_cases h : arrival = some next
    · subst h
      rw [accepted_cons_self, List.length_cons, List.range'_succ, ← ih (next + 1)]
    · rw [accepted_cons_ne h]
      exact ih next

theorem mem_of_mem_accepted {n : Nat} (h : n ∈ accepted next arrivals) : some n ∈ arrivals := by
  induction arrivals generalizing next with
  | nil => exact absurd h List.not_mem_nil
  | cons arrival rest ih =>
    by_cases harrival : arrival = some next
    · subst harrival
      rw [accepted_cons_self] at h
      rcases List.mem_cons.mp h with rfl | hlater
      · exact List.mem_cons_self
      · exact List.mem_cons_of_mem _ (ih hlater)
    · rw [accepted_cons_ne harrival] at h
      exact List.mem_cons_of_mem _ (ih h)

/-- A stretch that arrives in order is taken, whatever arrives in between. -/
theorem le_length_accepted {count : Nat}
    (h : ((List.range' next count).map some).Sublist arrivals) :
    count ≤ (accepted next arrivals).length := by
  induction arrivals generalizing next count with
  | nil =>
    have hlength := h.length_le
    simp at hlength
    omega
  | cons arrival rest ih =>
    by_cases harrival : arrival = some next
    · subst harrival
      rw [accepted_cons_self, List.length_cons]
      cases count with
      | zero => omega
      | succ count =>
        rw [List.range'_succ, List.map_cons, List.cons_sublist_cons] at h
        have := ih h
        omega
    · rw [accepted_cons_ne harrival]
      cases count with
      | zero => omega
      | succ count =>
        rw [List.range'_succ, List.map_cons] at h
        cases h with
        | cons _ hrest =>
          apply ih
          rw [List.range'_succ, List.map_cons]
          exact hrest
        | cons_cons _ hrest => exact absurd rfl harrival

/-- All items of a list are taken exactly when they are consecutive from the
awaited one on. -/
theorem outcomes_eq_self_iff {items : List Nat} :
    outcomes next (items.map some) = items.map some ↔ items = List.range' next items.length := by
  constructor
  · intro h
    have hrange := accepted_eq_range' next (items.map some)
    have hall : accepted next (items.map some) = items := by
      rw [accepted, h]
      simp
    rw [hall] at hrange
    exact hrange
  · intro h
    induction items generalizing next with
    | nil => rfl
    | cons item rest ih =>
      rw [List.length_cons, List.range'_succ] at h
      obtain ⟨rfl, hrest⟩ := List.cons.inj h
      rw [List.map_cons, outcomes_cons_self, ih hrest]

/-- When all arrivals are taken, each was the awaited one. -/
theorem outcomes_eq_of_isSome (h : ∀ o ∈ outcomes next arrivals, o.isSome) :
    outcomes next arrivals = arrivals := by
  induction arrivals generalizing next with
  | nil => rfl
  | cons arrival rest ih =>
    by_cases harrival : arrival = some next
    · subst harrival
      rw [outcomes_cons_self] at h ⊢
      rw [ih fun o ho => h o (List.mem_cons_of_mem _ ho)]
    · rw [outcomes_cons_ne harrival] at h
      exact absurd (h none List.mem_cons_self) (by simp)

/-- What is left of the first `n` numbers is consecutive exactly when nothing
before a remaining number is missing. -/
theorem filter_range_eq_iff (p : Nat → Bool) (n : Nat) :
    (List.range n).filter p = List.range' 0 ((List.range n).filter p).length ↔
      ∀ i j, i < j → j < n → p j = true → p i = true := by
  rw [← List.range_eq_range']
  constructor
  · intro h i j hij hj hp
    have hmem : j ∈ (List.range n).filter p := by
      rw [List.mem_filter, List.mem_range]
      exact ⟨hj, hp⟩
    rw [h, List.mem_range] at hmem
    have hi : i ∈ (List.range n).filter p := by
      rw [h, List.mem_range]
      omega
    exact (List.mem_filter.mp hi).2
  · intro h
    induction n with
    | zero => rfl
    | succ n ih =>
      rw [List.range_succ, List.filter_append]
      cases hp : p n with
      | false =>
        simp only [List.filter_cons, hp, Bool.false_eq_true, if_false, List.filter_nil,
          List.append_nil]
        exact ih fun i j hij hj => h i j hij (by omega)
      | true =>
        have hall : (List.range n).filter p = List.range n := by
          rw [List.filter_eq_self]
          intro i hi
          exact h i n (List.mem_range.mp hi) (by omega) hp
        simp [hall, hp, List.range_succ]

end InOrder
