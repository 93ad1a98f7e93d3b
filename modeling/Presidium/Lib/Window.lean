import Mathlib.Data.List.Nodup
import Mathlib.Data.List.Range

/-!
# The receive window of a numbered stream

A receiver of numbered items keeps the next number that it expects and the
numbers that it has jumped over.  `deliver n` takes item `n`: a number at or
above `next` moves the window behind it and records the numbers in between, a
number below `next` is a late item and leaves the window alone.

The window never forgets a number that it jumped over.  So the length of
`skipped` is the total of all jumps, which is what a limit on skipped items
counts.

`Accounts` is the fact that receivers use: after any deliveries, every number
below `next` was delivered or is in `skipped`.
-/

/-- Next expected number, and the numbers jumped over so far. -/
@[ext] structure Window where
  next : Nat
  skipped : List Nat
  deriving DecidableEq, Repr

namespace Window

/-- Nothing received yet. -/
def empty : Window := ⟨0, []⟩

/-- Take item `n`. -/
def deliver (w : Window) (n : Nat) : Window :=
  if n < w.next then w else ⟨n + 1, w.skipped ++ List.range' w.next (n - w.next)⟩

/-- Take the items of a list in order. -/
def deliverAll (w : Window) (ns : List Nat) : Window :=
  ns.foldl deliver w

variable {w : Window} {n : Nat}

theorem deliver_of_lt (h : n < w.next) : w.deliver n = w := if_pos h

theorem deliver_of_le (h : w.next ≤ n) :
    w.deliver n = ⟨n + 1, w.skipped ++ List.range' w.next (n - w.next)⟩ :=
  if_neg (Nat.not_lt.mpr h)

@[simp] theorem deliverAll_nil (w : Window) : w.deliverAll [] = w := rfl

theorem deliverAll_concat (w : Window) (ns : List Nat) (n : Nat) :
    w.deliverAll (ns ++ [n]) = (w.deliverAll ns).deliver n := by
  simp [deliverAll]

/-- The window stays behind the numbers taken. -/
theorem next_lt {bound : Nat} (hpos : 0 < bound) {ns : List Nat}
    (hns : ∀ n ∈ ns, n + 1 < bound) : (empty.deliverAll ns).next < bound := by
  induction ns using List.reverseRecOn with
  | nil => exact hpos
  | append_singleton ns n ih =>
    have hlast := hns n (by simp)
    have hrest := ih fun k hk => hns k (List.mem_append_left _ hk)
    rw [deliverAll_concat, deliver]
    split
    · exact hrest
    · exact hlast

/-- The numbers below `next` are the ones taken and the ones jumped over. -/
structure Accounts (w : Window) (taken : List Nat) : Prop where
  skipped_lt : ∀ n ∈ w.skipped, n < w.next
  nodup : w.skipped.Nodup
  covered : ∀ n < w.next, n ∈ w.skipped ∨ n ∈ taken

theorem accounts_empty : empty.Accounts [] where
  skipped_lt := by simp [empty]
  nodup := List.nodup_nil
  covered n hn := absurd hn (Nat.not_lt_zero n)

/-- A delivery keeps the books. -/
theorem Accounts.deliver {taken : List Nat} (h : w.Accounts taken) (n : Nat) :
    (w.deliver n).Accounts (taken ++ [n]) := by
  by_cases hlt : n < w.next
  · rw [deliver_of_lt hlt]
    refine ⟨h.skipped_lt, h.nodup, fun k hk => ?_⟩
    exact (h.covered k hk).imp_right (List.mem_append_left _)
  · have hle : w.next ≤ n := Nat.not_lt.mp hlt
    rw [deliver_of_le hle]
    refine ⟨fun k hk => ?_, ?_, fun k hk => ?_⟩
    · show k < n + 1
      rcases List.mem_append.mp hk with hold | hnew
      · have := h.skipped_lt k hold
        omega
      · have := List.mem_range'_1.mp hnew
        omega
    · refine List.nodup_append.mpr ⟨h.nodup, List.nodup_range', fun a ha b hb => ?_⟩
      have hold := h.skipped_lt a ha
      have hnew := (List.mem_range'_1.mp hb).1
      omega
    · rcases Nat.lt_or_ge k w.next with hold | hnew
      · exact (h.covered k hold).imp (List.mem_append_left _) (List.mem_append_left _)
      · rcases Nat.lt_or_ge k n with hbelow | habove
        · exact Or.inl (List.mem_append_right _ (List.mem_range'_1.mpr ⟨hnew, by omega⟩))
        · have hk : k < n + 1 := hk
          have : k = n := by omega
          exact Or.inr (List.mem_append_right _ (by simp [this]))

theorem Accounts.deliverAll {taken : List Nat} (h : w.Accounts taken) (ns : List Nat) :
    (w.deliverAll ns).Accounts (taken ++ ns) := by
  induction ns using List.reverseRecOn with
  | nil => simpa using h
  | append_singleton ns n ih =>
    rw [deliverAll_concat, ← List.append_assoc]
    exact ih.deliver n

/-! ## A limit on the numbers jumped over

`deliver` is what a receiver does with an item that it can take.  `arrive` is
what it does with any item, when it keeps at most `limit` numbers: an item that
was jumped over leaves the window alone, one that is within reach moves it, and
one beyond the limit moves it as far as the limit goes, with one number more on
the list.  An item that is behind the window costs the number that it expects.
-/

/-- The window after a jump over `d` numbers. -/
def jump (w : Window) (d : Nat) : Window :=
  ⟨w.next + (d + 1), w.skipped ++ List.range' w.next d⟩

/-- The numbers up to `n` fit on the list. -/
def InReach (limit : Nat) (w : Window) (n : Nat) : Prop :=
  n - w.next = 0 ∨ w.skipped.length + (n - w.next) ≤ limit

instance (limit : Nat) (w : Window) (n : Nat) : Decidable (w.InReach limit n) :=
  inferInstanceAs (Decidable (_ ∨ _))

/-- Item `n` can be taken. -/
def Takes (limit : Nat) (w : Window) (n : Nat) : Prop :=
  n ∈ w.skipped ∨ w.next ≤ n ∧ w.InReach limit n

instance (limit : Nat) (w : Window) (n : Nat) : Decidable (w.Takes limit n) :=
  inferInstanceAs (Decidable (_ ∨ _))

/-- Try item `n`. -/
def arrive (limit : Nat) (w : Window) (n : Nat) : Window :=
  if n ∈ w.skipped then w
  else if w.InReach limit n then w.jump (n - w.next)
  else ⟨w.next + (limit - w.skipped.length),
    w.skipped ++ List.range' w.next (limit - w.skipped.length + 1)⟩

/-- Try the items of a list in order. -/
def arriveAll (limit : Nat) (w : Window) (ns : List Nat) : Window :=
  ns.foldl (arrive limit) w

variable {limit : Nat}

theorem arriveAll_concat (w : Window) (ns : List Nat) (n : Nat) :
    w.arriveAll limit (ns ++ [n]) = (w.arriveAll limit ns).arrive limit n := by
  simp [arriveAll]

/-- For an item that can be taken and was not jumped over, the two are the
same. -/
theorem arrive_eq_deliver (hmem : n ∉ w.skipped) (hle : w.next ≤ n)
    (hreach : w.InReach limit n) : w.arrive limit n = w.deliver n := by
  rw [arrive, if_neg hmem, if_pos hreach, deliver_of_le hle, jump,
    show w.next + (n - w.next + 1) = n + 1 by omega]

/-- An item moves the window by at most one more than the limit. -/
theorem next_arrive_le (w : Window) (n : Nat) :
    (w.arrive limit n).next ≤ w.next + (limit + 1) := by
  unfold arrive
  split
  · omega
  · split
    next hreach =>
      show w.next + (n - w.next + 1) ≤ _
      rcases hreach with hzero | hle <;> omega
    next =>
      show w.next + (limit - w.skipped.length) ≤ _
      omega

theorem next_arriveAll_le (ns : List Nat) :
    (empty.arriveAll limit ns).next ≤ (limit + 1) * ns.length := by
  induction ns using List.reverseRecOn with
  | nil => exact Nat.le_refl 0
  | append_singleton ns n ih =>
    have hstep : ((empty.arriveAll limit ns).arrive limit n).next ≤ _ := next_arrive_le _ n
    rw [arriveAll_concat, List.length_append, List.length_singleton, Nat.mul_succ]
    omega

/-- No number on the list is ahead of the window. -/
theorem skipped_arrive_le (h : ∀ k ∈ w.skipped, k ≤ w.next) (n : Nat) :
    ∀ k ∈ (w.arrive limit n).skipped, k ≤ (w.arrive limit n).next := by
  -- both moves append the numbers from `next` on, up to the new one
  have happend : ∀ d m, d ≤ m + 1 → ∀ k ∈ w.skipped ++ List.range' w.next d, k ≤ w.next + m := by
    intro d m hd k hk
    rcases List.mem_append.mp hk with hold | hnew
    · have := h k hold
      omega
    · have := (List.mem_range'_1.mp hnew).2
      omega
  unfold arrive
  split
  · exact h
  · split
    · exact happend _ _ (by omega)
    · exact happend _ _ (Nat.le_refl _)

theorem skipped_arriveAll_le (ns : List Nat) :
    ∀ k ∈ (empty.arriveAll limit ns).skipped, k ≤ (empty.arriveAll limit ns).next := by
  induction ns using List.reverseRecOn with
  | nil => simp [arriveAll, empty]
  | append_singleton ns n ih =>
    rw [arriveAll_concat]
    exact skipped_arrive_le ih n

end Window
