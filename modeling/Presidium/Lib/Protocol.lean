import Presidium.Lib.Calls

/-!
# Programs that keep to a call protocol

A protocol is an automaton over the calls of an engine and their answers:
`next` says where a call leads, or that it is not allowed.  `follow` runs it
along a log.

`Keeps P x Q E` is a triple.  From a place where `P` holds the program makes
only calls that the protocol allows; it ends where `Q` holds of its value, or
where `E` holds if it fails.  There is one rule for each way to build a program.
-/

namespace Calls

open Outcome (state)

variable {σ ε κ ρ α β : Type}

/-- The protocol along a log. -/
def follow (next : σ → κ → ρ → Option σ) : σ → List (κ × ρ) → Option σ
  | s, [] => some s
  | s, k :: log => (next s k.1 k.2).bind fun s' => follow next s' log

section Follow

variable {next : σ → κ → ρ → Option σ} {s s' : σ} {log more : List (κ × ρ)}

theorem follow_append (s : σ) (log more : List (κ × ρ)) :
    follow next s (log ++ more) = (follow next s log).bind fun s' => follow next s' more := by
  induction log generalizing s with
  | nil => rfl
  | cons k log ih =>
    show (next s k.1 k.2).bind _ = ((next s k.1 k.2).bind _).bind _
    rw [Option.bind_assoc]
    exact congrArg _ (funext ih)

theorem follow_append_of_some (h : follow next s log = some s') :
    follow next s (log ++ more) = follow next s' more := by
  rw [follow_append, h]
  rfl

/-- A log that the protocol allows can be cut anywhere. -/
theorem follow_append_eq_some {s'' : σ} (h : follow next s (log ++ more) = some s'') :
    ∃ s', follow next s log = some s' ∧ follow next s' more = some s'' := by
  rw [follow_append] at h
  exact Option.bind_eq_some_iff.mp h

theorem follow_cons_eq_some {k : κ × ρ} (h : follow next s (k :: log) = some s') :
    ∃ s₁, next s k.1 k.2 = some s₁ ∧ follow next s₁ log = some s' :=
  Option.bind_eq_some_iff.mp h

end Follow

/-- The program keeps to the protocol. -/
def Keeps (next : σ → κ → ρ → Option σ) (P : σ → Prop) (x : CallM ε κ ρ α) (Q : α → σ → Prop)
    (E : σ → Prop) : Prop :=
  ∀ w s, P s → ∃ more s', (state (x w)).calls = w.calls ++ more ∧ follow next s more = some s' ∧
    (∀ a w', x w = .ok a w' → Q a s') ∧ (∀ e w', x w = .error e w' → E s')

namespace Keeps

variable {next : σ → κ → ρ → Option σ} {P P' : σ → Prop} {E E' : σ → Prop}
  {x : CallM ε κ ρ α} {Q Q' : α → σ → Prop}

theorem mono (hx : Keeps next P x Q E) (hP : ∀ s, P' s → P s) (hQ : ∀ a s, Q a s → Q' a s)
    (hE : ∀ s, E s → E' s) : Keeps next P' x Q' E' := by
  intro w s hs
  obtain ⟨more, s', hcalls, hfollow, hok, herror⟩ := hx w s (hP s hs)
  exact ⟨more, s', hcalls, hfollow, fun a w' h => hQ a s' (hok a w' h),
    fun e w' h => hE s' (herror e w' h)⟩

theorem weaken (hx : Keeps next P x Q E) (hP : ∀ s, P' s → P s) : Keeps next P' x Q E :=
  hx.mono hP (fun _ _ h => h) fun _ h => h

theorem pure {a : α} (h : ∀ s, P s → Q a s) : Keeps next P (Pure.pure a : CallM ε κ ρ α) Q E := by
  intro w s hs
  refine ⟨[], s, (List.append_nil _).symm, rfl, ?_, nofun⟩
  intro a' w' hrun
  cases hrun
  exact h s hs

theorem throw {e : ε} (h : ∀ s, P s → E s) :
    Keeps next P (MonadExcept.throw e : CallM ε κ ρ α) Q E := by
  intro w s hs
  exact ⟨[], s, (List.append_nil _).symm, rfl, nofun, fun _ _ _ => h s hs⟩

theorem bind {f : α → CallM ε κ ρ β} {R : β → σ → Prop} (hx : Keeps next P x Q E)
    (hf : ∀ a, Keeps next (Q a) (f a) R E) : Keeps next P (x >>= f) R E := by
  intro w s hs
  obtain ⟨more, s', hcalls, hfollow, hok, herror⟩ := hx w s hs
  cases hrun : x w with
  | ok a w' =>
    obtain ⟨more', s'', hcalls', hfollow', hok', herror'⟩ := hf a w' s' (hok a w' hrun)
    rw [hrun] at hcalls
    rw [Outcome.bind_ok hrun]
    refine ⟨more ++ more', s'', ?_, ?_, hok', herror'⟩
    · rw [hcalls', show w'.calls = _ from hcalls, List.append_assoc]
    · rw [follow_append_of_some hfollow]
      exact hfollow'
  | error e w' =>
    rw [hrun] at hcalls
    rw [Outcome.bind_error hrun]
    refine ⟨more, s', hcalls, hfollow, nofun, ?_⟩
    intro _ _ _
    exact herror e w' hrun

/-- What follows a step without a call of its own. -/
theorem bind_pure {f : α → β} (hx : Keeps next P x Q E) {R : β → σ → Prop}
    (hR : ∀ a s, Q a s → R (f a) s) : Keeps next P (x >>= fun a => Pure.pure (f a)) R E :=
  hx.bind fun a => pure fun s hs => hR a s hs

theorem adaptExcept {ε' : Type} (f : ε → ε') (hx : Keeps next P x Q E) :
    Keeps next P (EStateM.adaptExcept f x) Q E := by
  intro w s hs
  obtain ⟨more, s', hcalls, hfollow, hok, herror⟩ := hx w s hs
  unfold EStateM.adaptExcept
  cases hrun : x w with
  | ok a w' =>
    rw [hrun] at hcalls
    refine ⟨more, s', hcalls, hfollow, ?_, nofun⟩
    intro a' w'' hsame
    cases hsame
    exact hok a w' hrun
  | error e w' =>
    rw [hrun] at hcalls
    exact ⟨more, s', hcalls, hfollow, nofun, fun _ _ _ => herror e w' hrun⟩

theorem onError {cleanup : CallM ε κ ρ Unit} (hx : Keeps next P x Q E)
    (hcleanup : Keeps next E cleanup (fun _ => E') E') :
    Keeps next P (Calls.onError cleanup x) Q E' := by
  intro w s hs
  obtain ⟨more, s', hcalls, hfollow, hok, herror⟩ := hx w s hs
  unfold Calls.onError
  cases hrun : x w with
  | ok a w' =>
    rw [hrun] at hcalls
    refine ⟨more, s', hcalls, hfollow, ?_, nofun⟩
    intro a' w'' hsame
    cases hsame
    exact hok a w' hrun
  | error e w' =>
    obtain ⟨more', s'', hcalls', hfollow', hok', herror'⟩ := hcleanup w' s' (herror e w' hrun)
    rw [hrun] at hcalls
    refine ⟨more ++ more', s'', ?_, ?_, nofun, fun _ _ _ => ?_⟩
    · show (state (cleanup w')).calls = _
      rw [hcalls', show w'.calls = _ from hcalls, List.append_assoc]
    · rw [follow_append_of_some hfollow]
      exact hfollow'
    · cases hclean : cleanup w' with
      | ok u w'' => exact hok' u w'' hclean
      | error e' w'' => exact herror' e' w'' hclean

section Programs

variable [Inhabited ρ]

theorem call {k : κ} {Q : ρ → σ → Prop} (h : ∀ s a, P s → ∃ s', next s k a = some s' ∧ Q a s') :
    Keeps next P (Calls.call k : CallM ε κ ρ ρ) Q E := by
  intro w s hs
  obtain ⟨s', hnext, hQ⟩ := h s w.answer hs
  refine ⟨[(k, w.answer)], s', rfl, ?_, ?_, nofun⟩
  · show (next s k w.answer).bind _ = _
    rw [hnext]
    rfl
  · intro a w' hrun
    cases hrun
    exact hQ

/-- The last call of a value that goes out of scope is allowed on both exits. -/
theorem dropping {k : κ} (hx : Keeps next P x Q E)
    (hok : ∀ a s ans, Q a s → ∃ s', next s k ans = some s' ∧ Q' a s')
    (herror : ∀ s ans, E s → ∃ s', next s k ans = some s' ∧ E' s') :
    Keeps next P (Calls.dropping k x) Q' E' := by
  intro w s hs
  obtain ⟨more, s', hcalls, hfollow, hok', herror'⟩ := hx w s hs
  have hlast : ∀ {w' : World κ ρ} {s'' : σ}, w'.calls = w.calls ++ more →
      next s' k w'.answer = some s'' →
      (w'.after k).calls = w.calls ++ (more ++ [(k, w'.answer)]) ∧
        follow next s (more ++ [(k, w'.answer)]) = some s'' := by
    intro w' s'' hw' hnext
    refine ⟨?_, ?_⟩
    · show w'.calls ++ _ = _
      rw [hw', List.append_assoc]
    · rw [follow_append_of_some hfollow]
      show (next s' k w'.answer).bind _ = _
      rw [hnext]
      rfl
  unfold Calls.dropping
  cases hrun : x w with
  | ok a w' =>
    rw [hrun] at hcalls
    obtain ⟨s'', hnext, hQ⟩ := hok a s' w'.answer (hok' a w' hrun)
    obtain ⟨hcalls'', hfollow''⟩ := hlast hcalls hnext
    refine ⟨_, s'', hcalls'', hfollow'', ?_, nofun⟩
    intro a' w'' hsame
    cases hsame
    exact hQ
  | error e w' =>
    rw [hrun] at hcalls
    obtain ⟨s'', hnext, hE⟩ := herror s' w'.answer (herror' e w' hrun)
    obtain ⟨hcalls'', hfollow''⟩ := hlast hcalls hnext
    exact ⟨_, s'', hcalls'', hfollow'', nofun, fun _ _ _ => hE⟩

end Programs

/-- A loop comes back to `P` with every item. -/
theorem collectAll {turn : CallM ε κ ρ (Option α)} {Q : σ → Prop} (hPQ : ∀ s, P s → Q s)
    (hturn : Keeps next P turn (fun item s => item.elim (Q s) fun _ => P s) E) :
    Keeps next P (Calls.collectAll turn) (fun _ => Q) E := by
  have hcollect : ∀ fuel, Keeps next P (collect turn fuel) (fun _ => Q) E := by
    intro fuel
    induction fuel with
    | zero => exact pure hPQ
    | succ fuel ih =>
      refine bind hturn fun item => ?_
      cases item with
      | none => exact pure fun _ hs => hs
      | some a => exact ih.bind_pure fun _ _ hs => hs
  intro w
  exact hcollect (w.answers.length + 1) w

end Keeps

end Calls
