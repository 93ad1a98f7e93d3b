import Presidium.Lib.Outcome

/-!
# While loops with a body that may fail

A `WhileLoop` is a condition on the state and a body.  The loop ends when the
condition fails or when the body does.  `Takes` counts the turns of a loop
that ends, without a bound given in advance.  `exists_takes` is the variant
rule, and `Takes.run_eq` says that `run`, which computes with fuel, needs no
more fuel than the loop takes turns.
-/

structure WhileLoop (ε σ : Type) where
  cond : σ → Bool
  body : σ → Outcome ε σ Unit

namespace WhileLoop

variable {ε σ : Type} (L : WhileLoop ε σ)

/-- The loop ends with an outcome after it has entered its body a number of
times. -/
inductive Takes : Nat → σ → Outcome ε σ Unit → Prop
  | stop {s : σ} (hcond : L.cond s = false) : Takes 0 s (.ok () s)
  | fail {s s' : σ} {e : ε} (hcond : L.cond s = true) (hbody : L.body s = .error e s') :
      Takes 1 s (.error e s')
  | turn {n : Nat} {s s' : σ} {out : Outcome ε σ Unit} (hcond : L.cond s = true)
      (hbody : L.body s = .ok () s') (hrest : Takes n s' out) : Takes (n + 1) s out

/-- At most `fuel` turns of the loop. -/
def run : Nat → σ → Outcome ε σ Unit
  | 0, s => .ok () s
  | fuel + 1, s =>
    if L.cond s then
      match L.body s with
      | .ok _ s' => run fuel s'
      | .error e s' => .error e s'
    else .ok () s

variable {L}

theorem Takes.run_eq {n : Nat} {s : σ} {out : Outcome ε σ Unit} (h : L.Takes n s out)
    {fuel : Nat} (hfuel : n ≤ fuel) : L.run fuel s = out := by
  induction h generalizing fuel with
  | stop hcond =>
    cases fuel with
    | zero => rfl
    | succ fuel => simp [run, hcond]
  | fail hcond hbody =>
    obtain ⟨fuel, rfl⟩ : ∃ f, fuel = f + 1 := ⟨fuel - 1, by omega⟩
    simp [run, hcond, hbody]
  | turn hcond hbody hrest ih =>
    obtain ⟨fuel, rfl⟩ : ∃ f, fuel = f + 1 := ⟨fuel - 1, by omega⟩
    simp only [run, hcond, hbody, if_true]
    exact ih (by omega)

/-- The variant rule: a rank that every turn lowers, and that is positive as
long as the loop goes on, bounds the number of turns. -/
theorem exists_takes (rank : σ → Nat)
    (hrank : ∀ s s', L.cond s = true → L.body s = .ok () s' → 0 < rank s' ∧ rank s' < rank s)
    (s : σ) : ∃ n out, n ≤ max 1 (rank s) ∧ L.Takes n s out := by
  induction hr : rank s using Nat.strongRecOn generalizing s with
  | _ r ih =>
    subst hr
    cases hcond : L.cond s with
    | false => exact ⟨0, _, by omega, .stop hcond⟩
    | true =>
      cases hbody : L.body s with
      | error e s' => exact ⟨1, _, by omega, .fail hcond hbody⟩
      | ok _ s' =>
        obtain ⟨hpos, hlt⟩ := hrank s s' hcond hbody
        obtain ⟨n, out, hn, htakes⟩ := ih (rank s') hlt s' rfl
        exact ⟨n + 1, out, by omega, .turn hcond hbody htakes⟩

end WhileLoop
