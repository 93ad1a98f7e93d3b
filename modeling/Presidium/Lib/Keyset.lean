import Mathlib.Data.List.Sort

/-!
# Keyset pagination

Rows with a key from a linear order, listed with the largest key first.  A page
is a piece off the front of the listing.  The next page asks for the rows with a
smaller key than the last row of this one, and `page_append_below` says that the
page and the listing of these rows make up the whole listing.  Nothing is lost
or repeated at the boundary, as long as keys are distinct.

`map_newestFirst` is the stability of a listing: it depends on a part of the
rows only, if that part has the key.
-/

namespace Keyset

variable {ρ ρ' κ : Type} [LinearOrder κ] (key : ρ → κ)

/-- The rows, largest key first. -/
def newestFirst (rows : List ρ) : List ρ :=
  rows.mergeSort fun r r' => decide (key r' ≤ key r)

/-- The first `limit` rows of the listing. -/
def page (limit : Nat) (rows : List ρ) : List ρ := (newestFirst key rows).take limit

/-- The first rows, as many as the limit says.  A negative limit is none. -/
def limited (limit : Int) (rows : List ρ) : List ρ :=
  if limit < 0 then rows else rows.take limit.toNat

theorem limited_natCast (limit : Nat) (rows : List ρ) : limited limit rows = rows.take limit := by
  rw [limited, if_neg (Int.not_lt.mpr (Int.natCast_nonneg limit)), Int.toNat_natCast]

/-- The rows below a cursor. -/
def below (cursor : κ) (rows : List ρ) : List ρ := rows.filter fun r => decide (key r < cursor)

@[simp] theorem newestFirst_nil : newestFirst key [] = [] := List.mergeSort_nil

theorem newestFirst_perm (rows : List ρ) : (newestFirst key rows).Perm rows :=
  List.mergeSort_perm _ _

theorem pairwise_newestFirst (rows : List ρ) :
    (newestFirst key rows).Pairwise fun r r' => key r' ≤ key r := by
  have hsorted : (newestFirst key rows).Pairwise fun r r' => decide (key r' ≤ key r) = true := by
    refine List.pairwise_mergeSort ?_ ?_ rows
    · intro a b c hab hbc
      exact decide_eq_true ((of_decide_eq_true hbc).trans (of_decide_eq_true hab))
    · intro a b
      rw [Bool.or_eq_true]
      exact (le_total (key b) (key a)).imp decide_eq_true decide_eq_true
  exact hsorted.imp of_decide_eq_true

theorem map_newestFirst (key' : ρ' → κ) {f : ρ → ρ'} (hkey : ∀ r, key' (f r) = key r)
    (rows : List ρ) : (newestFirst key rows).map f = newestFirst key' (rows.map f) := by
  unfold newestFirst
  apply List.map_mergeSort
  intro a _ b _
  rw [hkey, hkey]

variable {key}

/-- With distinct keys the listing goes down strictly. -/
theorem strict_newestFirst {rows : List ρ} (hdistinct : (rows.map key).Nodup) :
    (newestFirst key rows).Pairwise fun r r' => key r' < key r := by
  have hne : ((newestFirst key rows).map key).Nodup :=
    ((newestFirst_perm key rows).map key).nodup_iff.mpr hdistinct
  rw [List.Nodup, List.pairwise_map] at hne
  exact (hne.and (pairwise_newestFirst key rows)).imp fun h => lt_of_le_of_ne h.2 h.1.symm

/-- A strictly descending list is the listing of its rows. -/
theorem newestFirst_eq {l rows : List ρ} (hstrict : l.Pairwise fun r r' => key r' < key r)
    (hperm : l.Perm rows) : newestFirst key rows = l := by
  have hdistinct : (rows.map key).Nodup := by
    rw [← (hperm.map key).nodup_iff, List.Nodup, List.pairwise_map]
    exact hstrict.imp fun h => h.ne'
  refine List.Perm.eq_of_pairwise ?_ (strict_newestFirst hdistinct) hstrict
    ((newestFirst_perm key rows).trans hperm.symm)
  intro a b _ _ hab hba
  exact absurd (hab.trans hba) (lt_irrefl _)

theorem mem_of_mem_page {limit : Nat} {rows : List ρ} {r : ρ} (h : r ∈ page key limit rows) :
    r ∈ rows :=
  (newestFirst_perm key rows).mem_iff.mp (List.mem_of_mem_take h)

variable (key) in
/-- A page of some rows has a last one. -/
theorem exists_getLast?_page {limit : Nat} (hlimit : 1 ≤ limit) {rows : List ρ}
    (hrows : rows ≠ []) : ∃ last ∈ rows, (page key limit rows).getLast? = some last := by
  cases hlast : (page key limit rows).getLast? with
  | some last => exact ⟨last, mem_of_mem_page (List.mem_of_getLast? hlast), rfl⟩
  | none =>
    have hlist : newestFirst key rows ≠ [] := by
      intro hnil
      have hperm := newestFirst_perm key rows
      rw [hnil] at hperm
      exact hrows hperm.nil_eq.symm
    rcases List.take_eq_nil_iff.mp (List.getLast?_eq_none_iff.mp hlast) with hzero | hnil
    · omega
    · exact absurd hnil hlist

variable (key) in
/-- A page has its last row, so fewer rows are below that one. -/
theorem length_below_lt {rows : List ρ} {last : ρ} (hlast : last ∈ rows) :
    (below key (key last) rows).length < rows.length :=
  List.length_filter_lt_length_iff_exists.mpr ⟨last, hlast, by simp⟩

/-- A page and the listing of the rows below its last one are the whole
listing. -/
theorem page_append_below {rows : List ρ} (hdistinct : (rows.map key).Nodup) {limit : Nat}
    {last : ρ} (hlast : (page key limit rows).getLast? = some last) :
    page key limit rows ++ newestFirst key (below key (key last) rows) =
      newestFirst key rows := by
  have hstrict := strict_newestFirst hdistinct
  obtain ⟨front, hpage⟩ := List.getLast?_eq_some_iff.mp hlast
  have hsplit : newestFirst key rows = front ++ [last] ++ (newestFirst key rows).drop limit := by
    rw [← hpage, page, List.take_append_drop]
  generalize (newestFirst key rows).drop limit = rest at hsplit
  -- the page keeps nothing below its last row, and the rest is all below it
  have hfilter : (newestFirst key rows).filter (fun r => decide (key r < key last)) = rest := by
    rw [hsplit, List.pairwise_append, List.pairwise_append] at hstrict
    obtain ⟨⟨-, -, hfront⟩, -, hrest⟩ := hstrict
    have hnone : (front ++ [last]).filter (fun r => decide (key r < key last)) = [] := by
      rw [List.filter_eq_nil_iff]
      intro r hr hlt
      have hlt := of_decide_eq_true hlt
      rcases List.mem_append.mp hr with hr | hr
      · exact absurd (hlt.trans (hfront r hr last List.mem_cons_self)) (lt_irrefl _)
      · rw [List.mem_singleton.mp hr] at hlt
        exact absurd hlt (lt_irrefl _)
    have hall : rest.filter (fun r => decide (key r < key last)) = rest := by
      rw [List.filter_eq_self]
      intro r hr
      exact decide_eq_true (hrest last (by simp) r hr)
    rw [hsplit, List.filter_append, hnone, hall, List.nil_append]
  have hbelow : newestFirst key (below key (key last) rows) = rest := by
    rw [← hfilter]
    exact newestFirst_eq (hstrict.sublist List.filter_sublist)
      ((newestFirst_perm key rows).filter _)
  rw [hbelow, hpage, ← hsplit]

end Keyset
