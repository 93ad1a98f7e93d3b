import Presidium.Lib.Protocol

/-!
# Programs of calls against programs on the state of the engine

An engine with a state of its own is an automaton over the calls and their
answers: `next` says where a call with that answer leads, or that the engine
would not have given it.

`Realizes next x y` says that the program of calls `x` does to such an engine
what `y` does to its state.  Whenever the answers are those of the engine, `x`
fails when `y` does, gives back the same value otherwise, and leaves the engine
in the state that `y` leaves.
-/

namespace Calls

open Outcome (state)

variable {σ ε ε' κ ρ α β : Type}

def Realizes (next : σ → κ → ρ → Option σ) (x : CallM ε κ ρ α) (y : EStateM ε' σ α) : Prop :=
  ∀ w s, ∃ more, (state (x w)).calls = w.calls ++ more ∧ ∀ s', follow next s more = some s' →
    (∀ a w', x w = .ok a w' → y s = .ok a s') ∧
      ∀ e w', x w = .error e w' → ∃ e', y s = .error e' s'

namespace Realizes

variable {next : σ → κ → ρ → Option σ} {x : CallM ε κ ρ α} {y : EStateM ε' σ α}

/-- A run from an empty log. -/
theorem run (hx : Realizes next x y) {w : World κ ρ} (hw : w.calls = []) {s s' : σ}
    (hlog : follow next s (state (x w)).calls = some s') :
    (∀ a w', x w = .ok a w' → y s = .ok a s') ∧
      ∀ e w', x w = .error e w' → ∃ e', y s = .error e' s' := by
  obtain ⟨more, hcalls, hmore⟩ := hx w s
  rw [hcalls, hw] at hlog
  exact hmore s' hlog

theorem pure (a : α) :
    Realizes next (Pure.pure a : CallM ε κ ρ α) (Pure.pure a : EStateM ε' σ α) := by
  intro w s
  refine ⟨[], (List.append_nil _).symm, fun s' hs' => ⟨fun a' w' hrun => ?_, nofun⟩⟩
  cases hs'
  cases hrun
  rfl

/-- A program that comes behind the calls `more`: the engine is then in the state
that these lead to. -/
theorem behind (hx : Realizes next x y) {w w' : World κ ρ} {more : List (κ × ρ)}
    (hcalls : w'.calls = w.calls ++ more) (s : σ) :
    ∃ all, (state (x w')).calls = w.calls ++ all ∧ ∀ s', follow next s all = some s' →
      ∃ s₁, follow next s more = some s₁ ∧ (∀ a w'', x w' = .ok a w'' → y s₁ = .ok a s') ∧
        ∀ e w'', x w' = .error e w'' → ∃ e', y s₁ = .error e' s' := by
  cases hfollow : follow next s more with
  | none =>
    -- the engine would have answered otherwise, whatever comes behind
    obtain ⟨more', hcalls', -⟩ := hx w' s
    refine ⟨more ++ more', by rw [hcalls', hcalls, List.append_assoc], fun s' hs' => ?_⟩
    obtain ⟨s₁, hs₁, -⟩ := follow_append_eq_some hs'
    rw [hfollow] at hs₁
    cases hs₁
  | some s₁ =>
    obtain ⟨more', hcalls', hmore'⟩ := hx w' s₁
    refine ⟨more ++ more', by rw [hcalls', hcalls, List.append_assoc], fun s' hs' => ?_⟩
    rw [follow_append_of_some hfollow] at hs'
    exact ⟨s₁, rfl, hmore' s' hs'⟩

theorem bind {f : α → CallM ε κ ρ β} {g : α → EStateM ε' σ β} (hx : Realizes next x y)
    (hf : ∀ a, Realizes next (f a) (g a)) : Realizes next (x >>= f) (y >>= g) := by
  intro w s
  obtain ⟨more, hcalls, hmore⟩ := hx w s
  cases hrun : x w with
  | error e w' =>
    rw [hrun] at hcalls
    rw [Outcome.bind_error hrun]
    refine ⟨more, hcalls, fun s' hs' => ⟨nofun, fun e' w'' _ => ?_⟩⟩
    obtain ⟨e₁, hy⟩ := (hmore s' hs').2 e w' hrun
    exact ⟨e₁, Outcome.bind_error hy⟩
  | ok a w' =>
    rw [hrun, Outcome.state_ok] at hcalls
    rw [Outcome.bind_ok hrun]
    obtain ⟨all, hall, hrest⟩ := (hf a).behind hcalls s
    refine ⟨all, hall, fun s' hs' => ?_⟩
    obtain ⟨s₁, hs₁, hend⟩ := hrest s' hs'
    rw [Outcome.bind_ok ((hmore s₁ hs₁).1 a w' hrun)]
    exact hend

/-- The cleanup comes behind an error only, and its own error is dropped. -/
theorem onError {cleanup : CallM ε κ ρ Unit} {z : EStateM ε' σ Unit} {y' : EStateM ε' σ α}
    (hx : Realizes next x y) (hcleanup : Realizes next cleanup z)
    (hok : ∀ {s a s'}, y s = .ok a s' → y' s = .ok a s')
    (herror : ∀ {s e s'}, y s = .error e s' → y' s = .error e (state (z s'))) :
    Realizes next (Calls.onError cleanup x) y' := by
  intro w s
  obtain ⟨more, hcalls, hmore⟩ := hx w s
  unfold Calls.onError
  cases hrun : x w with
  | ok a w' =>
    rw [hrun] at hcalls
    refine ⟨more, hcalls, fun s' hs' => ⟨fun a' w'' hsame => ?_, nofun⟩⟩
    cases hsame
    exact hok ((hmore s' hs').1 a w' hrun)
  | error e w' =>
    rw [hrun, Outcome.state_error] at hcalls
    obtain ⟨all, hall, hrest⟩ := hcleanup.behind hcalls s
    refine ⟨all, hall, fun s' hs' => ⟨nofun, fun _ _ _ => ?_⟩⟩
    obtain ⟨s₁, hs₁, hcleanOk, hcleanError⟩ := hrest s' hs'
    obtain ⟨e₁, hy⟩ := (hmore s₁ hs₁).2 e w' hrun
    have hstate : state (z s₁) = s' := by
      cases hclean : cleanup w' with
      | ok u w'' => rw [hcleanOk u w'' hclean, Outcome.state_ok]
      | error e₂ w'' =>
        obtain ⟨e₃, hz⟩ := hcleanError e₂ w'' hclean
        rw [hz, Outcome.state_error]
    exact ⟨e₁, hstate ▸ herror hy⟩

end Realizes

end Calls
