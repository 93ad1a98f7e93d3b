import Mathlib.Logic.Basic

/-!
# Methods that change their state and may fail

`Outcome` is the result of a method on a mutable receiver that returns a
result: a value or an error, and in both cases the state that the method
leaves.  A program of such methods is an `EStateM`, whose runs are outcomes.

`Moves R` is the frame rule for such programs: whatever its exit, the program
leads from every state to one that `R` relates to it.  For a preorder `R` the
rule is closed under sequencing, so the frame of a program follows from the
frames of its steps.
-/

/-- The result of a call together with the state after it.  An error exit keeps
what was already written. -/
abbrev Outcome (ε σ α : Type) := EStateM.Result ε σ α

namespace Outcome

variable {ε σ α β : Type}

/-- The state after the call. -/
def state : Outcome ε σ α → σ
  | .ok _ s => s
  | .error _ s => s

/-- The value or the error of the call. -/
def result : Outcome ε σ α → Except ε α
  | .ok a _ => .ok a
  | .error e _ => .error e

/-- The value together with the state, for a caller that drops the state on an
error. -/
def toExcept : Outcome ε σ α → Except ε (α × σ)
  | .ok a s => .ok (a, s)
  | .error e _ => .error e

@[simp] theorem state_ok (a : α) (s : σ) : state (.ok a s : Outcome ε σ α) = s := rfl
@[simp] theorem state_error (e : ε) (s : σ) : state (.error e s : Outcome ε σ α) = s := rfl
@[simp] theorem result_ok (a : α) (s : σ) : result (.ok a s : Outcome ε σ α) = .ok a := rfl
@[simp] theorem result_error (e : ε) (s : σ) :
    result (.error e s : Outcome ε σ α) = .error e := rfl

/-- The call has succeeded. -/
def IsOk : Outcome ε σ α → Prop
  | .ok _ _ => True
  | .error _ _ => False

@[simp] theorem isOk_ok (a : α) (s : σ) : IsOk (.ok a s : Outcome ε σ α) := trivial
@[simp] theorem not_isOk_error (e : ε) (s : σ) : ¬ IsOk (.error e s : Outcome ε σ α) := id

instance (out : Outcome ε σ α) : Decidable (IsOk out) :=
  match out with
  | .ok _ _ => .isTrue trivial
  | .error _ _ => .isFalse id

theorem eq_ok_of_result {out : Outcome ε σ α} {a : α} (h : result out = .ok a) :
    out = .ok a (state out) := by
  cases out with
  | ok b s =>
    cases h
    rfl
  | error e s => cases h

theorem eq_error_of_result {out : Outcome ε σ α} {e : ε} (h : result out = .error e) :
    out = .error e (state out) := by
  cases out with
  | ok b s => cases h
  | error e' s =>
    cases h
    rfl

theorem isOk_iff {out : Outcome ε σ α} : IsOk out ↔ ∃ a s, out = .ok a s := by
  cases out with
  | ok a s => exact iff_of_true trivial ⟨a, s, rfl⟩
  | error e s => exact iff_of_false id fun ⟨_, _, h⟩ => nomatch h

section Programs

variable {x : EStateM ε σ α} {f : α → EStateM ε σ β} {s s' : σ}

/-- A program that gets past its first step. -/
theorem bind_ok {a : α} (h : x s = .ok a s') : (x >>= f) s = f a s' := by
  show EStateM.bind x f s = _
  simp only [EStateM.bind, h]

/-- A program that stops at its first step. -/
theorem bind_error {e : ε} (h : x s = .error e s') : (x >>= f) s = .error e s' := by
  show EStateM.bind x f s = _
  simp only [EStateM.bind, h]

/-- A program goes on from the outcome of its first step. -/
theorem bind_eq (x : EStateM ε σ α) (f : α → EStateM ε σ β) (s : σ) :
    (x >>= f) s =
      match x s with
      | .ok a s' => f a s'
      | .error e s' => .error e s' := rfl

/-- What follows a step without an error of its own. -/
theorem isOk_bind_pure (x : EStateM ε σ α) (f : α → β) (s : σ) :
    IsOk ((x >>= fun a => pure (f a)) s) ↔ IsOk (x s) := by
  rw [bind_eq]
  cases x s <;> rfl

/-- Whatever its exit, the program leads from a state to a related one. -/
def Moves (R : σ → σ → Prop) (x : EStateM ε σ α) : Prop := ∀ s, R s (state (x s))

variable {R : σ → σ → Prop}

/-- A program that writes nothing. -/
theorem Moves.of_state (hrefl : ∀ s, R s s) (h : ∀ s, state (x s) = s) : Moves R x := by
  intro s
  rw [h s]
  exact hrefl s

theorem Moves.mono {S : σ → σ → Prop} (hsub : ∀ s s', R s s' → S s s') (h : Moves R x) :
    Moves S x := fun s => hsub _ _ (h s)

theorem Moves.bind (htrans : ∀ s₁ s₂ s₃, R s₁ s₂ → R s₂ s₃ → R s₁ s₃) (hx : Moves R x)
    (hf : ∀ a, Moves R (f a)) : Moves R (x >>= f) := by
  intro s
  have hfirst := hx s
  cases hrun : x s with
  | ok a s' =>
    rw [hrun] at hfirst
    rw [bind_ok hrun]
    exact htrans s s' _ hfirst (hf a s')
  | error e s' =>
    rw [hrun] at hfirst
    rw [bind_error hrun]
    exact hfirst

/-- A program that starts by reading its state. -/
theorem Moves.bind_get {f : σ → EStateM ε σ β} (hf : ∀ s, R s (state (f s s))) :
    Moves R (get >>= f) := by
  intro s
  have hread : (get >>= f) s = f s s := bind_ok rfl
  rw [hread]
  exact hf s

end Programs

end Outcome

/-- A `do` block succeeds when its first statement does and its rest does. -/
theorem Except.bind_eq_ok {ε α β : Type} {x : Except ε α} {f : α → Except ε β} {b : β} :
    (x >>= f) = .ok b ↔ ∃ a, x = .ok a ∧ f a = .ok b := by
  constructor
  · intro h
    cases x with
    | error e => cases h
    | ok a => exact ⟨a, rfl, h⟩
  · rintro ⟨a, rfl, h⟩
    exact h
