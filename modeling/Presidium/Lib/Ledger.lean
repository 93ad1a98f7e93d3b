import Mathlib.Data.List.AList
import Mathlib.Data.List.Induction

/-!
# Outstanding entries

A journal opens and closes entries under ids.  `balance` keeps the open ones in
a finite map, one insertion or removal an entry.  A journal is `Orderly` if an
id is opened once, closed once, and not closed before it is opened; then the
balance holds exactly what is opened and not closed (`lookup_balance`), and a
closing finds what it closes (`lookup_of_closed`).
-/

namespace Ledger

/-- An entry of a journal. -/
inductive Entry (ι α : Type) where
  | opened (id : ι) (a : α)
  | closed (id : ι)

variable {ι α : Type}

namespace Entry

def opening : Entry ι α → Option (ι × α)
  | opened id a => some (id, a)
  | closed _ => none

def closing : Entry ι α → Option ι
  | opened _ _ => none
  | closed id => some id

end Entry

/-- What a journal has opened. -/
def opened (es : List (Entry ι α)) : List (ι × α) := es.filterMap Entry.opening

/-- The ids that a journal has closed. -/
def closed (es : List (Entry ι α)) : List ι := es.filterMap Entry.closing

@[simp] theorem opened_append (es fs : List (Entry ι α)) :
    opened (es ++ fs) = opened es ++ opened fs := List.filterMap_append

@[simp] theorem closed_append (es fs : List (Entry ι α)) :
    closed (es ++ fs) = closed es ++ closed fs := List.filterMap_append

@[simp] theorem opened_opened (id : ι) (a : α) : opened [.opened id a] = [(id, a)] := rfl

@[simp] theorem opened_closed (id : ι) : opened [(.closed id : Entry ι α)] = [] := rfl

@[simp] theorem closed_opened (id : ι) (a : α) : closed [.opened id a] = [] := rfl

@[simp] theorem closed_closed (id : ι) : closed [(.closed id : Entry ι α)] = [id] := rfl

/-- A place in a list with one more entry is the new one or an old one. -/
theorem split_concat {es before after : List (Entry ι α)} {e x : Entry ι α}
    (h : es ++ [e] = before ++ x :: after) :
    es = before ∧ e = x ∨ ∃ after', es = before ++ x :: after' := by
  rcases List.eq_nil_or_concat' after with rfl | ⟨after', e', rfl⟩
  · obtain ⟨hold, hlast⟩ := List.append_inj' h rfl
    exact .inl ⟨hold, (List.cons.inj hlast).1⟩
  · rw [← List.cons_append, ← List.append_assoc] at h
    exact .inr ⟨after', (List.append_inj' h rfl).1⟩

/-- Ids are opened once, closed once, and closed after they are opened. -/
structure Orderly (es : List (Entry ι α)) : Prop where
  fresh : ((opened es).map Prod.fst).Nodup
  once : (closed es).Nodup
  known : ∀ before id after, es = before ++ .closed id :: after →
    id ∈ (opened before).map Prod.fst

namespace Orderly

theorem of_append {es fs : List (Entry ι α)} (h : Orderly (es ++ fs)) : Orderly es where
  fresh := by
    have hfresh := h.fresh
    rw [opened_append, List.map_append] at hfresh
    exact hfresh.of_append_left
  once := by
    have honce := h.once
    rw [closed_append] at honce
    exact honce.of_append_left
  known := by
    intro before id after hsplit
    exact h.known before id (after ++ fs) (by rw [hsplit, List.append_assoc, List.cons_append])

theorem nil : Orderly ([] : List (Entry ι α)) where
  fresh := List.nodup_nil
  once := List.nodup_nil
  known := by
    intro before id after hsplit
    simp at hsplit

/-- A new id is opened. -/
theorem concat_opened {es : List (Entry ι α)} (h : Orderly es) (id : ι)
    (hid : id ∉ (opened es).map Prod.fst) (a : α) : Orderly (es ++ [.opened id a]) where
  fresh := by
    rw [opened_append, opened_opened, List.map_append, List.map_cons, List.map_nil]
    exact List.nodup_append.mpr ⟨h.fresh, List.nodup_singleton id, by
      intro id' hid' x hx hsame
      rw [hsame, List.mem_singleton.mp hx] at hid'
      exact hid hid'⟩
  once := by
    rw [closed_append, closed_opened, List.append_nil]
    exact h.once
  known := by
    intro before id' after hsplit
    rcases split_concat hsplit with ⟨-, hlast⟩ | ⟨after, hold⟩
    · cases hlast
    · exact h.known before id' after hold

/-- An open id is closed. -/
theorem concat_closed {es : List (Entry ι α)} (h : Orderly es) (id : ι)
    (hopened : id ∈ (opened es).map Prod.fst) (hclosed : id ∉ closed es) :
    Orderly (es ++ [.closed id]) where
  fresh := by
    rw [opened_append, opened_closed, List.append_nil]
    exact h.fresh
  once := by
    rw [closed_append, closed_closed]
    exact List.nodup_append.mpr ⟨h.once, List.nodup_singleton id, by
      intro id' hid' x hx hsame
      rw [hsame, List.mem_singleton.mp hx] at hid'
      exact hclosed hid'⟩
  known := by
    intro before id' after hsplit
    rcases split_concat hsplit with ⟨rfl, hlast⟩ | ⟨after, hold⟩
    · cases hlast
      exact hopened
    · exact h.known before id' after hold

/-- An id is closed only after it is opened. -/
theorem opened_of_closed {es : List (Entry ι α)} (h : Orderly es) {id : ι} (hid : id ∈ closed es) :
    id ∈ (opened es).map Prod.fst := by
  obtain ⟨e, he, hclosing⟩ := List.mem_filterMap.mp hid
  cases e with
  | opened id' a => cases hclosing
  | closed id' =>
    obtain rfl : id' = id := Option.some.inj hclosing
    obtain ⟨before, after, rfl⟩ := List.append_of_mem he
    rw [opened_append, List.map_append]
    exact List.mem_append_left _ (h.known before id' after rfl)

/-- The id of a new entry is new. -/
theorem not_opened {es : List (Entry ι α)} {id : ι} {a : α} (h : Orderly (es ++ [.opened id a])) :
    id ∉ (opened es).map Prod.fst := by
  have hfresh := h.fresh
  rw [opened_append, opened_opened, List.map_append, List.nodup_append] at hfresh
  intro hid
  exact hfresh.2.2 id hid id List.mem_cons_self rfl

theorem not_closed {es : List (Entry ι α)} {id : ι} (h : Orderly (es ++ [.closed id])) :
    id ∉ closed es := by
  have honce := h.once
  rw [closed_append, closed_closed, List.nodup_append] at honce
  intro hid
  exact honce.2.2 id hid id List.mem_cons_self rfl

end Orderly

section Balance

variable [DecidableEq ι]

/-- Post one entry. -/
def post (book : AList fun _ : ι => α) : Entry ι α → AList fun _ : ι => α
  | .opened id a => book.insert id a
  | .closed id => book.erase id

/-- The open entries of a journal. -/
def balance (es : List (Entry ι α)) : AList fun _ : ι => α := es.foldl post ∅

@[simp] theorem balance_nil : balance ([] : List (Entry ι α)) = ∅ := rfl

theorem balance_concat (es : List (Entry ι α)) (e : Entry ι α) :
    balance (es ++ [e]) = post (balance es) e := by
  unfold balance
  rw [List.foldl_append]
  rfl

/-- The balance is what is opened and not closed. -/
theorem lookup_balance {es : List (Entry ι α)} (h : Orderly es) (id : ι) (a : α) :
    (balance es).lookup id = some a ↔ (id, a) ∈ opened es ∧ id ∉ closed es := by
  induction es using List.reverseRecOn with
  | nil => simp [opened, closed]
  | append_singleton es e ih =>
    have ih := ih h.of_append
    rw [balance_concat, opened_append, closed_append]
    cases e with
    | opened id' a' =>
      rw [opened_opened, closed_opened, List.append_nil]
      show (AList.insert id' a' (balance es)).lookup id = some a ↔ _
      by_cases hid : id = id'
      · subst hid
        have hnew := h.not_opened
        have hold : (id, a) ∉ opened es := fun hmem => hnew (List.mem_map_of_mem hmem)
        have hopen : id ∉ closed es := fun hmem => hnew (h.of_append.opened_of_closed hmem)
        rw [AList.lookup_insert]
        simp [hold, hopen, eq_comm]
      · rw [AList.lookup_insert_ne hid, ih]
        simp [hid]
    | closed id' =>
      rw [opened_closed, closed_closed, List.append_nil]
      show (AList.erase id' (balance es)).lookup id = some a ↔ _
      by_cases hid : id = id'
      · subst hid
        rw [AList.lookup_erase]
        simp
      · rw [AList.lookup_erase_ne hid, ih]
        simp [hid]

/-- A closing finds what it closes. -/
theorem lookup_of_closed {es : List (Entry ι α)} {id : ι} (h : Orderly (es ++ [.closed id])) :
    ∃ a, (balance es).lookup id = some a ∧ (id, a) ∈ opened es := by
  obtain ⟨⟨id', a⟩, hmem, rfl⟩ := List.mem_map.mp (h.known es id [] rfl)
  exact ⟨a, (lookup_balance h.of_append id' a).mpr ⟨hmem, h.not_closed⟩, hmem⟩

end Balance

end Ledger
