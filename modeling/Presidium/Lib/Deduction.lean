import Mathlib.Data.Set.Defs

/-!
# Deduction from known terms

`Derives Rule known` is the closure of a set of known terms under rules that
make a term from finitely many others.  It is how a symbolic attacker is
described: what it knows, and what it can compute from what it knows.

`not_of_closed` is how something is shown to be out of reach, and
`iff_known_or_rule` takes the last step of a deduction back.
-/

namespace Deduction

variable {α : Type} {Rule : List α → α → Prop} {known : Set α}

/-- What follows from the known terms by the rules. -/
inductive Derives (Rule : List α → α → Prop) (known : Set α) : α → Prop
  | known {x : α} (h : x ∈ known) : Derives Rule known x
  | rule {premises : List α} {x : α} (h : Rule premises x)
      (hpremises : ∀ y ∈ premises, Derives Rule known y) : Derives Rule known x

/-- What follows is known, or the conclusion of a rule whose premises follow. -/
theorem Derives.iff_known_or_rule {x : α} :
    Derives Rule known x ↔
      x ∈ known ∨ ∃ premises, Rule premises x ∧ ∀ y ∈ premises, Derives Rule known y := by
  constructor
  · intro h
    cases h with
    | known h => exact Or.inl h
    | rule h hpremises => exact Or.inr ⟨_, h, hpremises⟩
  · rintro (h | ⟨premises, h, hpremises⟩)
    · exact .known h
    · exact .rule h hpremises

/-- A set of terms that are not known, and of which every rule needs one to
make one, is out of reach. -/
theorem Derives.not_of_closed {S : Set α} (hknown : ∀ x ∈ S, x ∉ known)
    (hrule : ∀ x ∈ S, ∀ premises, Rule premises x → (∀ y ∈ premises, Derives Rule known y) →
      ∃ y ∈ premises, y ∈ S)
    {x : α} (h : Derives Rule known x) : x ∉ S := by
  induction h with
  | known h => exact fun hx => hknown _ hx h
  | rule h hpremises ih =>
    intro hx
    obtain ⟨y, hy, hmem⟩ := hrule _ hx _ h hpremises
    exact ih y hy hmem

/-- A rule with one premise. -/
theorem Derives.of_one {x y : α} (h : Rule [y] x) (hy : Derives Rule known y) :
    Derives Rule known x := by
  refine .rule h ?_
  intro z hz
  rw [List.mem_singleton.mp hz]
  exact hy

/-- A rule with two premises. -/
theorem Derives.of_two {x y z : α} (h : Rule [y, z] x) (hy : Derives Rule known y)
    (hz : Derives Rule known z) : Derives Rule known x := by
  refine .rule h ?_
  intro w hw
  rcases List.mem_cons.mp hw with rfl | hw
  · exact hy
  · rw [List.mem_singleton.mp hw]
    exact hz

end Deduction
