import Mathlib.Data.Finset.Union
import Mathlib.Data.List.Nodup

/-!
# Replicas that pass on all they have

The edits of a replicated object are numbered as they are made.  An edit adds
items to what its writer has.  A `Log` records of each edit the items it wrote.
`Covers S I` says that `I` is what a replica has that has heard of the edits `S`:
the items of these edits and no others.

Items carry a name, which is a writer and a number.  A log is `Sound` if no name
is used twice.  `Sound.record` is the discipline that keeps it so: a writer
takes names that no item of the log has.

The edits are words if the items are letters in an order.  A `Shuffle` is a line
with the letters of all words, each word once and in its own order, and `letters`
is what a replica shows of it.
-/

namespace Replicas

structure Log (α : Type) where
  count : Nat
  wrote : Nat → Finset α

namespace Log

variable {α : Type} {l : Log α}

def empty : Log α :=
  { count := 0, wrote := fun _ => ∅ }

/-- One more edit, which wrote `new`. -/
def record (l : Log α) (new : Finset α) : Log α :=
  { count := l.count + 1
    wrote := Function.update l.wrote l.count new }

@[simp] theorem count_record (new : Finset α) : (l.record new).count = l.count + 1 := rfl

@[simp] theorem wrote_record_count (new : Finset α) :
    (l.record new).wrote l.count = new := Function.update_self ..

theorem wrote_record_of_lt {new : Finset α} {n : Nat} (h : n < l.count) :
    (l.record new).wrote n = l.wrote n := Function.update_of_ne (Nat.ne_of_lt h) ..

variable [DecidableEq α]

/-- The items of all edits. -/
def all (l : Log α) : Finset α := (Finset.range l.count).biUnion l.wrote

theorem mem_all {a : α} : a ∈ l.all ↔ ∃ n < l.count, a ∈ l.wrote n := by
  simp [all]

theorem mem_all_record {new : Finset α} {a : α} :
    a ∈ (l.record new).all ↔ a ∈ l.all ∨ a ∈ new := by
  rw [mem_all, mem_all]
  constructor
  · rintro ⟨n, hn, ha⟩
    rcases Nat.lt_succ_iff_lt_or_eq.mp hn with hlt | rfl
    · rw [wrote_record_of_lt hlt] at ha
      exact Or.inl ⟨n, hlt, ha⟩
    · rw [wrote_record_count] at ha
      exact Or.inr ha
  · rintro (⟨n, hn, ha⟩ | ha)
    · refine ⟨n, Nat.lt_succ_of_lt hn, ?_⟩
      rwa [wrote_record_of_lt hn]
    · refine ⟨l.count, Nat.lt_succ_self _, ?_⟩
      rwa [wrote_record_count]

theorem all_subset_record (new : Finset α) : l.all ⊆ (l.record new).all :=
  fun _ ha => mem_all_record.mpr (Or.inl ha)

/-! ## What a replica has -/

/-- `I` is what a replica has that has heard of the edits `S`. -/
structure Covers (l : Log α) (S : Finset Nat) (I : Finset α) : Prop where
  made : ∀ n ∈ S, n < l.count
  items : I = S.biUnion l.wrote

namespace Covers

variable {S S' : Finset Nat} {I I' : Finset α}

theorem empty (l : Log α) : l.Covers ∅ ∅ :=
  { made := by simp, items := by simp }

theorem union (h : l.Covers S I) (h' : l.Covers S' I') : l.Covers (S ∪ S') (I ∪ I') where
  made n hn := (Finset.mem_union.mp hn).elim (h.made n) (h'.made n)
  items := by
    rw [h.items, h'.items, Finset.union_biUnion]

/-- What others have is not changed by an edit. -/
theorem record (h : l.Covers S I) (new : Finset α) : (l.record new).Covers S I where
  made n hn := Nat.lt_succ_of_lt (h.made n hn)
  items := by
    rw [h.items]
    refine Finset.biUnion_congr rfl fun n hn => ?_
    exact (wrote_record_of_lt (h.made n hn)).symm

/-- The writer of an edit. -/
theorem edit (h : l.Covers S I) (new : Finset α) :
    (l.record new).Covers (insert l.count S) (I ∪ new) where
  made n hn := by
    rcases Finset.mem_insert.mp hn with rfl | hn
    · exact Nat.lt_succ_self _
    · exact Nat.lt_succ_of_lt (h.made n hn)
  items := by
    rw [Finset.biUnion_insert, wrote_record_count, ← (h.record new).items, Finset.union_comm]

theorem subset_all (h : l.Covers S I) : I ⊆ l.all := by
  intro a ha
  rw [h.items] at ha
  obtain ⟨n, hn, ha⟩ := Finset.mem_biUnion.mp ha
  exact mem_all.mpr ⟨n, h.made n hn, ha⟩

end Covers

end Log

/-! ## Items with a name -/

section Named

variable {κ ν : Type}

/-- No two items have the same name. -/
def NoClash (I : Finset (κ × ν)) : Prop :=
  ∀ name a b, (name, a) ∈ I → (name, b) ∈ I → a = b

theorem NoClash.subset {I J : Finset (κ × ν)} (h : NoClash J) (hsub : I ⊆ J) : NoClash I :=
  fun name a b ha hb => h name a b (hsub ha) (hsub hb)

variable [DecidableEq κ] [DecidableEq ν]

/-- No name is used twice, neither in two edits nor in one. -/
structure Log.Sound (l : Log (κ × ν)) : Prop where
  noClash : NoClash l.all
  apart : ∀ m n, m < l.count → n < l.count → m ≠ n → Disjoint (l.wrote m) (l.wrote n)

namespace Log.Sound

variable {l : Log (κ × ν)} {new : Finset (κ × ν)}

theorem empty : (Log.empty : Log (κ × ν)).Sound where
  noClash name a b ha _ := by
    obtain ⟨n, hn, -⟩ := mem_all.mp ha
    exact absurd hn (Nat.not_lt_zero n)
  apart m n hm _ _ := absurd hm (Nat.not_lt_zero m)

/-- An edit under names of its own. -/
theorem record (h : l.Sound) (hnew : NoClash new)
    (hfresh : ∀ name a b, (name, a) ∈ new → (name, b) ∉ l.all) : (l.record new).Sound := by
  have hdisjoint : ∀ n < l.count, Disjoint (l.wrote n) new := by
    intro n hn
    rw [Finset.disjoint_left]
    rintro ⟨name, a⟩ hold hnow
    exact hfresh name a a hnow (mem_all.mpr ⟨n, hn, hold⟩)
  constructor
  · intro name a b ha hb
    rcases mem_all_record.mp ha with ha | ha
    · rcases mem_all_record.mp hb with hb | hb
      · exact h.noClash name a b ha hb
      · exact absurd ha (hfresh name b a hb)
    · rcases mem_all_record.mp hb with hb | hb
      · exact absurd hb (hfresh name a b ha)
      · exact hnew name a b ha hb
  · intro m n hm hn hne
    rcases Nat.lt_succ_iff_lt_or_eq.mp hm with hm | rfl
    · rcases Nat.lt_succ_iff_lt_or_eq.mp hn with hn | rfl
      · rw [wrote_record_of_lt hm, wrote_record_of_lt hn]
        exact h.apart m n hm hn hne
      · rw [wrote_record_of_lt hm, wrote_record_count]
        exact hdisjoint m hm
    · rcases Nat.lt_succ_iff_lt_or_eq.mp hn with hn | rfl
      · rw [wrote_record_of_lt hn, wrote_record_count]
        exact (hdisjoint n hn).symm
      · exact absurd rfl hne

/-- Two replicas may merge: together they use no name twice. -/
theorem noClash_union (h : l.Sound) {S S' : Finset Nat} {I I' : Finset (κ × ν)}
    (hI : l.Covers S I) (hI' : l.Covers S' I') : NoClash (I ∪ I') :=
  h.noClash.subset (Finset.union_subset hI.subset_all hI'.subset_all)

end Log.Sound

end Named

/-! ## Words in one line -/

section Words

variable {β : Type}

/-- The letters of several words in one line, each word once and in its own
order.  A letter stands with the number of its word. -/
structure Shuffle (words : List (List β)) (line : List (Nat × β)) : Prop where
  made : ∀ a ∈ line, a.1 < words.length
  word : ∀ n w, words[n]? = some w → (line.filter fun a => a.1 == n).map Prod.snd = w

/-- The letters of the words `S`. -/
def letters (S : Finset Nat) (line : List (Nat × β)) : List β :=
  (line.filter fun a => a.1 ∈ S).map Prod.snd

theorem letters_sublist {S S' : Finset Nat} (h : S ⊆ S') (line : List (Nat × β)) :
    (letters S line).Sublist (letters S' line) := by
  refine (List.monotone_filter_right line fun a ha => ?_).map _
  exact decide_eq_true (h (of_decide_eq_true ha))

/-- Who shows a word shows it in its order. -/
theorem Shuffle.word_sublist {words : List (List β)} {line : List (Nat × β)}
    (h : Shuffle words line) {S : Finset Nat} {n : Nat} {w : List β} (hn : n ∈ S)
    (hw : words[n]? = some w) : w.Sublist (letters S line) := by
  rw [← h.word n w hw]
  refine (List.monotone_filter_right line fun a ha => ?_).map _
  exact decide_eq_true (beq_iff_eq.mp ha ▸ hn)

variable {α : Type} [DecidableEq α]

/-- A part of a line, in the line and in a part of it that has it. -/
theorem filter_of_sublist {xs ys : List α} (h : xs.Sublist ys) (hys : ys.Nodup) {I : Finset α}
    (hI : ∀ a ∈ I, a ∈ xs) : ys.filter (· ∈ I) = xs.filter (· ∈ I) := by
  refine ((h.filter _).eq_of_length_le ?_).symm
  refine ((hys.filter _).subperm fun a ha => ?_).length_le
  obtain ⟨-, ha⟩ := List.mem_filter.mp ha
  exact List.mem_filter.mpr ⟨hI a (of_decide_eq_true ha), ha⟩

end Words

namespace Log

/-- The edit that wrote an item. -/
def editOf {α : Type} [DecidableEq α] (l : Log α) (a : α) : Nat :=
  ((List.range l.count).find? fun n => a ∈ l.wrote n).getD 0

/-- The letters of the items in a line, each with its edit. -/
def tagged {α β : Type} [DecidableEq α] (l : Log α) (letter : α → β) (line : List α) :
    List (Nat × β) :=
  line.map fun a => (l.editOf a, letter a)

namespace Sound

variable {κ ν β : Type} [DecidableEq κ] [DecidableEq ν] {l : Log (κ × ν)}

theorem editOf_eq (h : l.Sound) {n : Nat} {a : κ × ν} (hn : n < l.count) (ha : a ∈ l.wrote n) :
    l.editOf a = n := by
  obtain ⟨m, hm⟩ : ∃ m, (List.range l.count).find? (fun n => a ∈ l.wrote n) = some m := by
    refine Option.isSome_iff_exists.mp (List.find?_isSome.mpr ⟨n, List.mem_range.mpr hn, ?_⟩)
    exact decide_eq_true ha
  have hmem : a ∈ l.wrote m := of_decide_eq_true (List.find?_some hm :)
  have hlt : m < l.count := List.mem_range.mp (List.mem_of_find?_eq_some hm)
  rw [editOf, hm, Option.getD_some]
  by_contra hne
  exact Finset.disjoint_left.mp (h.apart m n hlt hn hne) hmem ha

variable {letter : κ × ν → β} {line : List (κ × ν)}

theorem letters_tagged (h : l.Sound) (hline : ∀ a ∈ line, a ∈ l.all) {S : Finset Nat}
    {I : Finset (κ × ν)} (hI : l.Covers S I) :
    letters S (l.tagged letter line) = (line.filter (· ∈ I)).map letter := by
  have hmem : ∀ a ∈ line, decide (l.editOf a ∈ S) = decide (a ∈ I) := by
    intro a ha
    obtain ⟨n, hn, hwrote⟩ := mem_all.mp (hline a ha)
    rw [h.editOf_eq hn hwrote, decide_eq_decide, hI.items, Finset.mem_biUnion]
    refine ⟨fun hS => ⟨n, hS, hwrote⟩, ?_⟩
    rintro ⟨m, hm, hwrote'⟩
    rwa [← h.editOf_eq hn hwrote, h.editOf_eq (hI.made m hm) hwrote']
  rw [letters, tagged, List.filter_map, List.map_map]
  exact congrArg _ (List.filter_congr hmem)

/-- A line of all items is a shuffle of the edits. -/
theorem shuffle_tagged (h : l.Sound) (hline : ∀ a ∈ line, a ∈ l.all) {words : List (List β)}
    (hcount : l.count = words.length)
    (hwords : ∀ n w, words[n]? = some w → (line.filter (· ∈ l.wrote n)).map letter = w) :
    Shuffle words (l.tagged letter line) where
  made a ha := by
    obtain ⟨b, hb, rfl⟩ := List.mem_map.mp ha
    obtain ⟨n, hn, hwrote⟩ := mem_all.mp (hline b hb)
    show l.editOf b < _
    rwa [h.editOf_eq hn hwrote, ← hcount]
  word n w hw := by
    have hn : n < l.count := hcount ▸ (List.getElem?_eq_some_iff.mp hw).1
    have hone : l.Covers {n} (l.wrote n) :=
      { made := fun m hm => Finset.mem_singleton.mp hm ▸ hn
        items := (Finset.singleton_biUnion).symm }
    rw [← hwords n w hw, ← h.letters_tagged hline hone, letters]
    refine congrArg _ (List.filter_congr fun a _ => ?_)
    rw [Bool.beq_eq_decide_eq, decide_eq_decide, Finset.mem_singleton]

end Sound

end Log

end Replicas
