import Presidium.Lib.Outcome

/-!
# Programs that call an engine

The engine is outside of the program.  It answers from a script, and once the
script is at its end with the default answer; so a program that terminates
against some engine terminates against a script.  The calls are logged with
their answers.

`dropping` and `onError` are the two ways in which a value that goes out of
scope makes a last call, and `collect` is a loop that goes on as long as there
is a next item.

`Makes C` is the frame rule: the program makes only calls of the kind `C`, and
takes its answers from the script.
-/

namespace Calls

/-- The answers to come and the calls made. -/
structure World (κ ρ : Type) where
  answers : List ρ
  calls : List (κ × ρ)

abbrev CallM (ε κ ρ : Type) := EStateM ε (World κ ρ)

open Outcome (state Moves)

variable {ε κ ρ α β : Type}

section Programs

variable [Inhabited ρ]

/-- The next answer. -/
def World.answer (w : World κ ρ) : ρ := w.answers.headD default

def World.after (w : World κ ρ) (k : κ) : World κ ρ :=
  { answers := w.answers.tail, calls := w.calls ++ [(k, w.answer)] }

def call (k : κ) : CallM ε κ ρ ρ := fun w => .ok w.answer (w.after k)

theorem bind_call (k : κ) (f : ρ → CallM ε κ ρ α) (w : World κ ρ) :
    (call k >>= f) w = f w.answer (w.after k) := rfl

/-- Leave a scope that owns a value: its last call is made on either exit. -/
def dropping (k : κ) (body : CallM ε κ ρ α) : CallM ε κ ρ α := fun w =>
  match body w with
  | .ok a w' => .ok a (w'.after k)
  | .error e w' => .error e (w'.after k)

end Programs

/-- What is done only if the scope is left with an error.  An error on the way
is dropped. -/
def onError (cleanup : CallM ε κ ρ Unit) (body : CallM ε κ ρ α) : CallM ε κ ρ α := fun w =>
  match body w with
  | .ok a w' => .ok a w'
  | .error e w' => .error e (state (cleanup w'))

/-- Run `turn` until it has no item, `fuel` times at most. -/
def collect (turn : CallM ε κ ρ (Option α)) : Nat → CallM ε κ ρ (List α)
  | 0 => pure []
  | fuel + 1 => do
    match ← turn with
    | none => pure []
    | some a =>
      let rest ← collect turn fuel
      pure (a :: rest)

/-- The loop, for a turn that takes an answer for each item (`collectAll_eq`). -/
def collectAll (turn : CallM ε κ ρ (Option α)) : CallM ε κ ρ (List α) := fun w =>
  collect turn (w.answers.length + 1) w

/-! ## The loop -/

/-- One round of the loop. -/
theorem collect_succ (turn : CallM ε κ ρ (Option α)) (fuel : Nat) (w : World κ ρ) :
    collect turn (fuel + 1) w =
      match turn w with
      | .ok none w' => .ok [] w'
      | .ok (some a) w' => (do let rest ← collect turn fuel; pure (a :: rest)) w'
      | .error e w' => .error e w' := by
  show (turn >>= _) w = _
  rw [Outcome.bind_eq]
  cases turn w with
  | error e w' => rfl
  | ok item w' => cases item <;> rfl

/-- The program takes an answer of the script for each item. -/
def Takes (turn : CallM ε κ ρ (Option α)) : Prop :=
  ∀ w a w', turn w = .ok (some a) w' → w'.answers.length < w.answers.length

section Loop

variable {turn : CallM ε κ ρ (Option α)} (hturn : Takes turn)

include hturn

/-- More fuel than answers makes no difference. -/
theorem collect_eq_of_lt (fuel : Nat) : ∀ (fuel' : Nat) {w : World κ ρ},
    w.answers.length < fuel → w.answers.length < fuel' →
      collect turn fuel w = collect turn fuel' w := by
  induction fuel with
  | zero =>
    intro fuel' w hlt
    omega
  | succ fuel ih =>
    intro fuel' w hlt hlt'
    obtain ⟨fuel', rfl⟩ : ∃ n, fuel' = n + 1 := ⟨fuel' - 1, by omega⟩
    rw [collect_succ, collect_succ]
    cases hrun : turn w with
    | error e w' => rfl
    | ok item w' =>
      cases item with
      | none => rfl
      | some a =>
        have hless := hturn w a w' hrun
        simp only
        rw [Outcome.bind_eq, Outcome.bind_eq, ih fuel' (by omega) (by omega)]

/-- The loop goes on with itself. -/
theorem collectAll_eq (w : World κ ρ) :
    collectAll turn w =
      match turn w with
      | .ok none w' => .ok [] w'
      | .ok (some a) w' => (do let rest ← collectAll turn; pure (a :: rest)) w'
      | .error e w' => .error e w' := by
  show collect turn (w.answers.length + 1) w = _
  rw [collect_succ]
  cases hrun : turn w with
  | error e w' => rfl
  | ok item w' =>
    cases item with
    | none => rfl
    | some a =>
      have hless := hturn w a w' hrun
      simp only
      rw [Outcome.bind_eq, Outcome.bind_eq]
      unfold collectAll
      rw [collect_eq_of_lt hturn w.answers.length (w'.answers.length + 1) hless (by omega)]

end Loop

/-! ## Which calls a program makes -/

/-- The log has grown by calls of the kind `C`, and no answer has come back. -/
structure Grown (C : κ → Prop) (w w' : World κ ρ) : Prop where
  calls : ∃ more, w'.calls = w.calls ++ more ∧ ∀ k ∈ more, C k.1
  answers : w'.answers.length ≤ w.answers.length

variable {C : κ → Prop}

theorem Grown.refl (w : World κ ρ) : Grown C w w :=
  ⟨⟨[], (List.append_nil _).symm, by simp⟩, Nat.le_refl _⟩

theorem Grown.trans (w₁ w₂ w₃ : World κ ρ) (h : Grown C w₁ w₂) (h' : Grown C w₂ w₃) :
    Grown C w₁ w₃ := by
  obtain ⟨more, hmore, hkind⟩ := h.calls
  obtain ⟨more', hmore', hkind'⟩ := h'.calls
  refine ⟨⟨more ++ more', by rw [hmore', hmore, List.append_assoc], ?_⟩, ?_⟩
  · intro k hk
    exact (List.mem_append.mp hk).elim (hkind k) (hkind' k)
  · exact Nat.le_trans h'.answers h.answers

theorem Grown.after [Inhabited ρ] {k : κ} (hk : C k) (w : World κ ρ) : Grown C w (w.after k) := by
  refine ⟨⟨[(k, w.answer)], rfl, ?_⟩, ?_⟩
  · intro k' hk'
    rw [List.mem_singleton.mp hk']
    exact hk
  · show w.answers.tail.length ≤ _
    rw [List.length_tail]
    omega

/-- The program makes only calls of the kind `C`, on either exit. -/
def Makes (C : κ → Prop) (x : CallM ε κ ρ α) : Prop := Moves (Grown C) x

namespace Makes

variable {x : CallM ε κ ρ α}

theorem pure (a : α) : Makes C (Pure.pure a : CallM ε κ ρ α) := Grown.refl

theorem throw (e : ε) : Makes C (MonadExcept.throw e : CallM ε κ ρ α) := Grown.refl

theorem bind {f : α → CallM ε κ ρ β} (hx : Makes C x) (hf : ∀ a, Makes C (f a)) :
    Makes C (x >>= f) := Moves.bind Grown.trans hx hf

/-- What the first program gives back matters to the second. -/
theorem bind_of_ok {f : α → CallM ε κ ρ β} (hx : Makes C x)
    (hf : ∀ w a w', x w = .ok a w' → Makes C (f a)) : Makes C (x >>= f) := by
  intro w
  have hfirst := hx w
  cases hrun : x w with
  | ok a w' =>
    rw [hrun] at hfirst
    rw [Outcome.bind_ok hrun]
    exact Grown.trans w w' _ hfirst (hf w a w' hrun w')
  | error e w' =>
    rw [hrun] at hfirst
    rw [Outcome.bind_error hrun]
    exact hfirst

theorem call [Inhabited ρ] {k : κ} (hk : C k) : Makes C (Calls.call k : CallM ε κ ρ ρ) :=
  Grown.after hk

theorem dropping [Inhabited ρ] {k : κ} (hk : C k) (hx : Makes C x) :
    Makes C (Calls.dropping k x) := by
  intro w
  have hbody := hx w
  unfold Calls.dropping
  cases hrun : x w with
  | ok a w' =>
    rw [hrun] at hbody
    exact Grown.trans w w' _ hbody (Grown.after hk w')
  | error e w' =>
    rw [hrun] at hbody
    exact Grown.trans w w' _ hbody (Grown.after hk w')

theorem onError {cleanup : CallM ε κ ρ Unit} (hcleanup : Makes C cleanup) (hx : Makes C x) :
    Makes C (Calls.onError cleanup x) := by
  intro w
  have hbody := hx w
  unfold Calls.onError
  cases hrun : x w with
  | ok a w' =>
    rw [hrun] at hbody
    exact hbody
  | error e w' =>
    rw [hrun] at hbody
    exact Grown.trans w w' _ hbody (hcleanup w')

theorem adaptExcept {ε' : Type} (f : ε → ε') (hx : Makes C x) :
    Makes C (EStateM.adaptExcept f x) := by
  intro w
  have hbody := hx w
  unfold EStateM.adaptExcept
  cases hrun : x w with
  | ok a w' =>
    rw [hrun] at hbody
    exact hbody
  | error e w' =>
    rw [hrun] at hbody
    exact hbody

theorem collectAll {turn : CallM ε κ ρ (Option α)} (hturn : Makes C turn) :
    Makes C (Calls.collectAll turn) := by
  have hcollect : ∀ fuel, Makes C (collect turn fuel) := by
    intro fuel
    induction fuel with
    | zero => exact pure []
    | succ fuel ih =>
      refine bind hturn fun item => ?_
      cases item with
      | none => exact pure []
      | some a => exact bind ih fun rest => pure (a :: rest)
  intro w
  exact hcollect (w.answers.length + 1) w

end Makes

end Calls
