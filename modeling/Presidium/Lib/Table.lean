import Mathlib.Data.List.Nodup
import Mathlib.Order.Lattice
import Mathlib.Logic.Function.Basic

/-!
# Rows with a key

A table is a list of rows, and `key` is its primary key.  `Keyed` says that no
two rows have the same key, and `view` is the table as a partial map from keys
to rows.  The lemmas say what the statements of a database do to the two of
them: add a row with a new key, rewrite rows in place, and delete the rows with
one key.

`Holds` says that a table has the entries of a given map, and `Lists` that the
answer of a query has those of them that it selects, each once.  The order of
the answer is up to the query.
-/

namespace Table

variable {ρ κ : Type} [DecidableEq κ] {key : ρ → κ}

/-- Every key occurs once at most. -/
def Keyed (key : ρ → κ) (rows : List ρ) : Prop := (rows.map key).Nodup

/-- The row with a key. -/
def view (key : ρ → κ) (rows : List ρ) (k : κ) : Option ρ := rows.find? fun r => decide (key r = k)

omit [DecidableEq κ] in
theorem keyed_nil : Keyed key [] := List.nodup_nil

@[simp] theorem view_nil (k : κ) : view key [] k = none := rfl

theorem view_cons (r : ρ) (rows : List ρ) (k : κ) :
    view key (r :: rows) k = if key r = k then some r else view key rows k := by
  unfold view
  rw [List.find?_cons]
  by_cases hk : key r = k <;> simp [hk]

theorem key_of_view {rows : List ρ} {k : κ} {r : ρ} (h : view key rows k = some r) : key r = k := by
  unfold view at h
  simpa using List.find?_some h

theorem mem_of_view {rows : List ρ} {k : κ} {r : ρ} (h : view key rows k = some r) : r ∈ rows :=
  List.mem_of_find?_eq_some h

theorem view_eq_none_iff {rows : List ρ} {k : κ} :
    view key rows k = none ↔ ∀ r ∈ rows, key r ≠ k := by
  unfold view
  rw [List.find?_eq_none]
  simp

/-- The test of a statement for a row with a key. -/
theorem any_eq_isSome_view (rows : List ρ) (k : κ) :
    (rows.any fun r => decide (key r = k)) = (view key rows k).isSome := by
  unfold view
  rw [Bool.eq_iff_iff, List.find?_isSome, List.any_eq_true]

/-- The map has every row of the table. -/
theorem Keyed.view_key {rows : List ρ} (h : Keyed key rows) {r : ρ} (hr : r ∈ rows) :
    view key rows (key r) = some r := by
  cases hview : view key rows (key r) with
  | none => exact absurd rfl (view_eq_none_iff.mp hview r hr)
  | some r' =>
    have hsame : key r' = key r := key_of_view hview
    rw [List.inj_on_of_nodup_map h (mem_of_view hview) hr hsame]

theorem Keyed.mem_iff {rows : List ρ} (h : Keyed key rows) {r : ρ} :
    r ∈ rows ↔ view key rows (key r) = some r :=
  ⟨h.view_key, mem_of_view⟩

omit [DecidableEq κ] in
theorem Keyed.filter {rows : List ρ} (h : Keyed key rows) (p : ρ → Bool) :
    Keyed key (rows.filter p) :=
  h.sublist (List.filter_sublist.map key)

/-- The table has the entries of the map. -/
structure Holds (key : ρ → κ) (rows : List ρ) (f : κ → Option ρ) : Prop where
  keyed : Keyed key rows
  view_eq : view key rows = f

/-- The list has the entries of the map that are selected, each once. -/
structure Lists (key : ρ → κ) (f : κ → Option ρ) (selected : ρ → Prop) (l : List ρ) : Prop where
  once : Keyed key l
  mem_iff : ∀ r, r ∈ l ↔ f (key r) = some r ∧ selected r

theorem holds_nil : Holds key [] fun _ => none := ⟨keyed_nil, rfl⟩

theorem Holds.find? {rows : List ρ} {f : κ → Option ρ} (h : Holds key rows f) (k : κ) :
    (rows.find? fun r => decide (key r = k)) = f k := congrFun h.view_eq k

theorem Holds.any {rows : List ρ} {f : κ → Option ρ} (h : Holds key rows f) (k : κ) :
    (rows.any fun r => decide (key r = k)) = (f k).isSome := by
  rw [any_eq_isSome_view, h.view_eq]

theorem Holds.key_eq {rows : List ρ} {f : κ → Option ρ} (h : Holds key rows f) {k : κ} {r : ρ}
    (hr : f k = some r) : key r = k :=
  key_of_view ((congrFun h.view_eq k).trans hr)

theorem Holds.mem_iff {rows : List ρ} {f : κ → Option ρ} (h : Holds key rows f) {r : ρ} :
    r ∈ rows ↔ f (key r) = some r := by
  rw [h.keyed.mem_iff, h.view_eq]

/-- A query selects rows and brings them into some order. -/
theorem Holds.lists {rows l : List ρ} {f : κ → Option ρ} (h : Holds key rows f)
    {selected : ρ → Prop} {p : ρ → Bool} (hselected : ∀ r, p r = true ↔ selected r)
    (hperm : l.Perm (rows.filter p)) : Lists key f selected l where
  once := (hperm.map key).nodup_iff.mpr (h.keyed.filter p)
  mem_iff := by
    intro r
    rw [hperm.mem_iff, List.mem_filter, h.mem_iff, hselected]

/-- A query without a condition. -/
theorem Holds.lists_all {rows l : List ρ} {f : κ → Option ρ} (h : Holds key rows f)
    (hperm : l.Perm rows) : Lists key f (fun _ => True) l :=
  h.lists (p := fun _ => true) (by simp) (by simpa using hperm)

/-- `ORDER BY` a column, whichever comparison the sort is given for its order. -/
theorem pairwise_mergeSort_key {τ : Type} [LinearOrder τ] {le : ρ → ρ → Bool} (column : ρ → τ)
    (hle : ∀ r r', le r r' = true ↔ column r ≤ column r') (rows : List ρ) :
    (rows.mergeSort le).Pairwise fun r r' => column r ≤ column r' := by
  have hsorted : (rows.mergeSort le).Pairwise fun r r' => le r r' = true := by
    refine List.pairwise_mergeSort ?_ ?_ rows
    · intro a b c hab hbc
      exact (hle a c).mpr (le_trans ((hle a b).mp hab) ((hle b c).mp hbc))
    · intro a b
      rw [Bool.or_eq_true]
      exact (le_total (column a) (column b)).imp (hle a b).mpr (hle b a).mpr
  exact hsorted.imp fun h => (hle _ _).mp h

/-! ## A new row -/

theorem view_concat {rows : List ρ} {row : ρ} (hnew : view key rows (key row) = none) :
    view key (rows ++ [row]) = Function.update (view key rows) (key row) (some row) := by
  funext k
  unfold view at hnew ⊢
  rw [List.find?_append]
  by_cases hk : k = key row
  · subst hk
    rw [hnew, Function.update_self]
    simp
  · rw [Function.update_of_ne hk]
    have hother : ([row].find? fun r => decide (key r = k)) = none := by simp [Ne.symm hk]
    rw [hother, Option.or_none]

omit [DecidableEq κ] in
theorem Keyed.concat {rows : List ρ} {row : ρ} (h : Keyed key rows)
    (hnew : ∀ r ∈ rows, key r ≠ key row) : Keyed key (rows ++ [row]) := by
  show ((rows ++ [row]).map key).Nodup
  rw [List.map_append, List.nodup_append]
  refine ⟨h, List.nodup_singleton _, ?_⟩
  intro k hk k' hk' hsame
  obtain ⟨r, hr, rfl⟩ := List.mem_map.mp hk
  exact hnew r hr (hsame.trans (List.mem_singleton.mp hk'))

theorem Holds.concat {rows : List ρ} {row : ρ} {f : κ → Option ρ} (h : Holds key rows f)
    (hnew : f (key row) = none) :
    Holds key (rows ++ [row]) (Function.update f (key row) (some row)) := by
  rw [← h.view_eq] at hnew
  refine ⟨h.keyed.concat (view_eq_none_iff.mp hnew), ?_⟩
  rw [view_concat hnew, h.view_eq]

/-! ## Rows rewritten in place -/

theorem view_map {f : ρ → ρ} (hkey : ∀ r, key (f r) = key r) (rows : List ρ) (k : κ) :
    view key (rows.map f) k = (view key rows k).map f := by
  induction rows with
  | nil => rfl
  | cons r rows ih =>
    rw [List.map_cons, view_cons, view_cons, hkey, ih]
    by_cases hk : key r = k <;> simp [hk]

omit [DecidableEq κ] in
theorem Keyed.map {f : ρ → ρ} (hkey : ∀ r, key (f r) = key r) {rows : List ρ}
    (h : Keyed key rows) : Keyed key (rows.map f) := by
  show ((rows.map f).map key).Nodup
  rw [List.map_map, show key ∘ f = key from funext hkey]
  exact h

theorem Holds.map {rewrite : ρ → ρ} (hkey : ∀ r, key (rewrite r) = key r) {rows : List ρ}
    {f : κ → Option ρ} (h : Holds key rows f) :
    Holds key (rows.map rewrite) fun k => (f k).map rewrite := by
  refine ⟨h.keyed.map hkey, ?_⟩
  funext k
  rw [view_map hkey, h.view_eq]

/-! ## Rows deleted -/

theorem view_filter_ne (rows : List ρ) (k : κ) :
    view key (rows.filter fun r => decide (key r ≠ k)) =
      Function.update (view key rows) k none := by
  funext k'
  by_cases hk : k' = k
  · subst hk
    rw [Function.update_self, view_eq_none_iff]
    intro r hr
    exact of_decide_eq_true (List.mem_filter.mp hr).2
  · rw [Function.update_of_ne hk]
    induction rows with
    | nil => rfl
    | cons r rows ih =>
      rw [List.filter_cons, view_cons]
      by_cases hr : key r = k
      · have hother : key r ≠ k' := fun h => hk (h.symm.trans hr)
        rw [if_neg (by simpa using hr), if_neg hother, ih]
      · rw [if_pos (by simpa using hr), view_cons, ih]

theorem Holds.filter_ne {rows : List ρ} {f : κ → Option ρ} (h : Holds key rows f) (k : κ) :
    Holds key (rows.filter fun r => decide (key r ≠ k)) (Function.update f k none) := by
  refine ⟨h.keyed.filter _, ?_⟩
  rw [view_filter_ne, h.view_eq]

end Table
