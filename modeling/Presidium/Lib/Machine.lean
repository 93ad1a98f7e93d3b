import Mathlib.Tactic.Common

/-!
# Guarded machines and their runs

A `Machine` takes events.  `step` is total and computes; `Enabled` says which
events may occur in a state.  A run is a list of events, and `Valid` says that
every event was enabled when it came.

`invariant` is the induction over a run, stated once, and `run_append` cuts a
run in two.

`trace` collects what the events of a run put out, each from the state in which
it came.  `pairwise_trace` speaks of any two of them.
-/

/-- A deterministic machine with guarded events. -/
structure Machine (σ ε : Type) where
  step : σ → ε → σ
  Enabled : σ → ε → Prop

namespace Machine

variable {σ ε : Type} (M : Machine σ ε)

/-- The state after a list of events. -/
def run : σ → List ε → σ
  | s, [] => s
  | s, e :: es => run (M.step s e) es

/-- Every event of the list is enabled when its turn comes. -/
def Valid : σ → List ε → Prop
  | _, [] => True
  | s, e :: es => M.Enabled s e ∧ Valid (M.step s e) es

instance decidableValid [∀ s e, Decidable (M.Enabled s e)] : ∀ s es, Decidable (M.Valid s es)
  | _, [] => .isTrue trivial
  | s, e :: es =>
    have := decidableValid (M.step s e) es
    inferInstanceAs (Decidable (M.Enabled s e ∧ M.Valid (M.step s e) es))

variable {M}

@[simp] theorem run_nil (s : σ) : M.run s [] = s := rfl

@[simp] theorem run_cons (s : σ) (e : ε) (es : List ε) :
    M.run s (e :: es) = M.run (M.step s e) es := rfl

@[simp] theorem valid_nil (s : σ) : M.Valid s [] := trivial

@[simp] theorem valid_cons (s : σ) (e : ε) (es : List ε) :
    M.Valid s (e :: es) ↔ M.Enabled s e ∧ M.Valid (M.step s e) es := Iff.rfl

theorem run_append (s : σ) (es fs : List ε) :
    M.run s (es ++ fs) = M.run (M.run s es) fs := by
  induction es generalizing s with
  | nil => rfl
  | cons e es ih => exact ih (M.step s e)

/-- What one enabled step keeps, a run keeps. -/
theorem invariant {Inv : σ → Prop}
    (hstep : ∀ s e, Inv s → M.Enabled s e → Inv (M.step s e))
    {s : σ} (hs : Inv s) {es : List ε} (hvalid : M.Valid s es) :
    Inv (M.run s es) := by
  induction es generalizing s with
  | nil => exact hs
  | cons e es ih =>
    obtain ⟨henabled, hrest⟩ := hvalid
    exact ih (hstep s e hs henabled) hrest

theorem valid_append {s : σ} {es fs : List ε} :
    M.Valid s (es ++ fs) ↔ M.Valid s es ∧ M.Valid (M.run s es) fs := by
  induction es generalizing s with
  | nil => simp
  | cons e es ih => rw [List.cons_append, valid_cons, valid_cons, ih, and_assoc, run_cons]

variable (M) in
/-- The machine with one more guard. -/
def restrict (C : σ → ε → Prop) : Machine σ ε where
  step := M.step
  Enabled s e := M.Enabled s e ∧ C s e

instance [∀ s e, Decidable (M.Enabled s e)] {C : σ → ε → Prop} [∀ s e, Decidable (C s e)]
    (s : σ) (e : ε) : Decidable ((M.restrict C).Enabled s e) :=
  inferInstanceAs (Decidable (M.Enabled s e ∧ C s e))

theorem run_restrict (C : σ → ε → Prop) (s : σ) (es : List ε) :
    (M.restrict C).run s es = M.run s es := by
  induction es generalizing s with
  | nil => rfl
  | cons e es ih => exact ih (M.step s e)

variable (M) in
/-- The second state comes after the first in a run of allowed events. -/
def Reaches (allowed : ε → Prop) (s s' : σ) : Prop :=
  ∃ es, (∀ e ∈ es, allowed e) ∧ M.Valid s es ∧ M.run s es = s'

theorem Reaches.refl {allowed : ε → Prop} (s : σ) : M.Reaches allowed s s :=
  ⟨[], nofun, trivial, rfl⟩

theorem Reaches.step {allowed : ε → Prop} {s s' : σ} (e : ε) (hallowed : allowed e)
    (henabled : M.Enabled s e) (hstep : M.step s e = s') : M.Reaches allowed s s' :=
  ⟨[e], by simpa using hallowed, ⟨henabled, trivial⟩, hstep⟩

theorem Reaches.trans {allowed : ε → Prop} {s s' s'' : σ} (h : M.Reaches allowed s s')
    (h' : M.Reaches allowed s' s'') : M.Reaches allowed s s'' := by
  obtain ⟨es, hallowed, hvalid, rfl⟩ := h
  obtain ⟨fs, hallowed', hvalid', rfl⟩ := h'
  refine ⟨es ++ fs, fun e he => ?_, valid_append.mpr ⟨hvalid, hvalid'⟩, run_append s es fs⟩
  exact (List.mem_append.mp he).elim (hallowed e) (hallowed' e)

/-- A log to which every enabled step appends what its event says. -/
theorem log_run {α : Type} (log : σ → List α) (entries : ε → List α)
    (hstep : ∀ s e, M.Enabled s e → log (M.step s e) = log s ++ entries e)
    {s : σ} {es : List ε} (hvalid : M.Valid s es) :
    log (M.run s es) = log s ++ es.flatMap entries := by
  induction es generalizing s with
  | nil => simp
  | cons e es ih =>
    obtain ⟨henabled, hrest⟩ := hvalid
    rw [run_cons, ih hrest, hstep s e henabled, List.append_assoc, List.flatMap_cons]

/-! ## Every step of a run -/

theorem forall_steps_nil {Q : σ → ε → Prop} (s : σ) :
    ∀ before e after, ([] : List ε) = before ++ e :: after → Q (M.run s before) e := by
  intro before e after hsplit
  simp at hsplit

/-- What holds at the first step and at every later one holds at every step. -/
theorem forall_steps_cons {Q : σ → ε → Prop} {s : σ} {e : ε} {es : List ε} (hfirst : Q s e)
    (hrest : ∀ before f after, es = before ++ f :: after →
      Q (M.run (M.step s e) before) f) :
    ∀ before f after, e :: es = before ++ f :: after → Q (M.run s before) f := by
  intro before f after hsplit
  cases before with
  | nil =>
    obtain ⟨rfl, -⟩ := List.cons.inj hsplit
    exact hfirst
  | cons x before =>
    obtain ⟨rfl, htail⟩ := List.cons.inj hsplit
    exact hrest before f after htail

/-! ## Traces -/

variable (M) in
/-- What the events of a run put out, in order. -/
def trace {α : Type} (out : σ → ε → List α) : σ → List ε → List α
  | _, [] => []
  | s, e :: es => out s e ++ trace out (M.step s e) es

section Trace

variable {α : Type} {out : σ → ε → List α}

theorem trace_append (s : σ) (es fs : List ε) :
    M.trace out s (es ++ fs) = M.trace out s es ++ M.trace out (M.run s es) fs := by
  induction es generalizing s with
  | nil => rfl
  | cons e es ih =>
    show out s e ++ M.trace out (M.step s e) (es ++ fs) = _
    rw [ih (M.step s e), ← List.append_assoc]
    rfl

/-- Some of the outputs are the outputs of a run that puts out only these. -/
theorem filterMap_trace {β : Type} (f : α → Option β) (s : σ) (es : List ε) :
    (M.trace out s es).filterMap f = M.trace (fun s e => (out s e).filterMap f) s es := by
  induction es generalizing s with
  | nil => rfl
  | cons e es ih =>
    show (out s e ++ M.trace out (M.step s e) es).filterMap f = _
    rw [List.filterMap_append, ih (M.step s e)]
    rfl

/-- Outputs that do not depend on the state. -/
theorem trace_eq_filterMap {entry : ε → Option α} (hout : ∀ s e, out s e = (entry e).toList)
    (s : σ) (es : List ε) : M.trace out s es = es.filterMap entry := by
  induction es generalizing s with
  | nil => rfl
  | cons e es ih =>
    show out s e ++ M.trace out (M.step s e) es = _
    rw [ih (M.step s e), hout, List.filterMap_cons]
    cases entry e with
    | none => rfl
    | some a => rfl

/-- An output belongs to one event of the run. -/
theorem mem_trace {s : σ} {es : List ε} {a : α} :
    a ∈ M.trace out s es ↔
      ∃ before e after, es = before ++ e :: after ∧ a ∈ out (M.run s before) e := by
  constructor
  · intro ha
    induction es generalizing s with
    | nil => exact absurd ha List.not_mem_nil
    | cons e es ih =>
      rcases List.mem_append.mp ha with hnow | hlater
      · exact ⟨[], e, es, rfl, hnow⟩
      · obtain ⟨before, f, after, rfl, hmem⟩ := ih hlater
        exact ⟨e :: before, f, after, rfl, hmem⟩
  · rintro ⟨before, e, after, rfl, hmem⟩
    rw [trace_append]
    exact List.mem_append_right _ (List.mem_append_left _ hmem)

/-- What one step keeps if its outputs are as they should be, a run keeps with
such outputs. -/
theorem invariant_of_trace {Inv : σ → Prop} {C : α → Prop}
    (hstep : ∀ s e, Inv s → M.Enabled s e → (∀ a ∈ out s e, C a) → Inv (M.step s e))
    {s : σ} (hs : Inv s) {es : List ε} (hvalid : M.Valid s es)
    (hout : ∀ a ∈ M.trace out s es, C a) : Inv (M.run s es) := by
  induction es generalizing s with
  | nil => exact hs
  | cons e es ih =>
    obtain ⟨henabled, hrest⟩ := hvalid
    refine ih (hstep s e hs henabled fun a ha => ?_) hrest fun a ha => ?_
    · exact hout a (List.mem_append_left _ ha)
    · exact hout a (List.mem_append_right _ ha)

/-- A relation between the outputs of any two events, the earlier one first. -/
theorem pairwise_trace {R : α → α → Prop} (hout : ∀ s e, (out s e).Pairwise R) {s : σ}
    {es : List ε} :
    (M.trace out s es).Pairwise R ↔
      ∀ before e between f after, es = before ++ e :: (between ++ f :: after) →
        ∀ a ∈ out (M.run s before) e, ∀ b ∈ out (M.run s (before ++ e :: between)) f, R a b := by
  induction es generalizing s with
  | nil =>
    refine ⟨fun _ before e between f after hsplit => ?_, fun _ => List.Pairwise.nil⟩
    simp at hsplit
  | cons x es ih =>
    show (out s x ++ M.trace out (M.step s x) es).Pairwise R ↔ _
    rw [List.pairwise_append, ih]
    constructor
    · rintro ⟨-, hrest, hcross⟩ before e between f after hsplit a ha b hb
      cases before with
      | nil =>
        -- the first event of the run is the earlier one
        obtain ⟨rfl, rfl⟩ := List.cons.inj hsplit
        exact hcross a ha b (mem_trace.mpr ⟨between, f, after, rfl, hb⟩)
      | cons y before =>
        obtain ⟨rfl, htail⟩ := List.cons.inj hsplit
        exact hrest before e between f after htail a ha b hb
    · intro h
      refine ⟨hout s x, ?_, ?_⟩
      · intro before e between f after hsplit
        exact h (x :: before) e between f after (by rw [hsplit]; rfl)
      · intro a ha b hb
        obtain ⟨between, f, after, rfl, hmem⟩ := mem_trace.mp hb
        exact h [] x between f after rfl a ha b hmem

end Trace

end Machine
