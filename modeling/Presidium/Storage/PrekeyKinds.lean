import Presidium.Storage.Prekeys

/-!
# Signed and one-time prekeys share one table

The protocol numbers signed and one-time prekeys on their own, and a bundle may
use one id for both.  The `prekeys` table has `key_id` alone as its primary
key, `save_prekey` writes with `INSERT OR REPLACE` and `delete_prekey` deletes
by `key_id`.  So a write on behalf of one kind reaches the row of the other
kind that has the same id.

`prekey_kinds_apart_iff` says when the kinds leave each other alone: exactly
when no row of the other kind has the id.
-/

namespace Presidium

open Outcome (state result)

namespace DatabaseFile

variable (file : DatabaseFile) (keyId : Int) (kind : PreKeyKind)

/-- No row of the kind has the id. -/
def Unclaimed : Prop := ∀ row ∈ file.prekeysOf kind, row.keyId ≠ keyId

/-- The rows of a kind without the one of an id. -/
theorem filter_prekeysOf :
    (file.prekeys.filter fun r => r.keyId ≠ keyId).filter (fun r => r.kind = kind.toInt) =
      (file.prekeysOf kind).filter fun r => r.keyId ≠ keyId := by
  unfold prekeysOf
  rw [List.filter_filter, List.filter_filter]
  apply List.filter_congr
  intro r _
  exact Bool.and_comm _ _

variable {file keyId kind}

theorem filter_eq_self_iff :
    ((file.prekeysOf kind).filter fun r => r.keyId ≠ keyId) = file.prekeysOf kind ↔
      file.Unclaimed keyId kind := by
  rw [List.filter_eq_self]
  simp only [decide_eq_true_eq]
  rfl

/-- The table after `INSERT OR REPLACE`, for the other kind. -/
theorem prekeysOf_replacePrekey {record : PreKeyRecord} {file' : DatabaseFile}
    (h : file.replacePrekey record.toRow = some file') (hkind : kind ≠ record.kind) :
    file'.prekeysOf kind = (file.prekeysOf kind).filter fun r => r.keyId ≠ record.keyId := by
  obtain rfl := Option.some.inj h
  have hother : ¬ record.toRow.kind = kind.toInt := by
    intro hsame
    exact hkind (kind_toInt_inj.mp hsame).symm
  rw [← filter_prekeysOf]
  show (file.prekeys.filter (fun r => r.keyId ≠ record.keyId) ++ [record.toRow]).filter
    (fun r => r.kind = kind.toInt) = _
  rw [List.filter_append, List.filter_cons_of_neg (by simpa using hother), List.filter_nil,
    List.append_nil]

/-- The table after `DELETE`. -/
theorem prekeysOf_deleteKey (kind : PreKeyKind) {file' : DatabaseFile}
    (h : file.deleteKey keyId = some file') :
    file'.prekeysOf kind = (file.prekeysOf kind).filter fun r => r.keyId ≠ keyId := by
  obtain rfl := Option.some.inj h
  exact filter_prekeysOf file keyId kind

end DatabaseFile

section Calls

variable {c : Connection DatabaseFile}

/-- What `list_prekeys` returns depends on the rows of the kind only. -/
theorem result_listPrekeys {c' : Connection DatabaseFile} (hcalm : c.Calm) (hcalm' : c'.Calm)
    {kind : PreKeyKind} (hrows : c'.committed.prekeysOf kind = c.committed.prekeysOf kind)
    (limit : Int) : result (listPrekeys kind limit c') = result (listPrekeys kind limit c) := by
  unfold listPrekeys
  rw [hcalm.query, hcalm'.query]
  simp only [Outcome.result_ok, DatabaseFile.sortedPrekeysOf, hrows]

theorem result_countPrekeys (hcalm : c.Calm) (kind : PreKeyKind) :
    result (countPrekeys kind c) = .ok ((c.committed.prekeysOf kind).length : Int) := by
  unfold countPrekeys
  rw [hcalm.query]
  rfl

theorem exists_savePrekey (hcalm : c.Calm) (record : PreKeyRecord) :
    ∃ file, c.committed.replacePrekey record.toRow = some file ∧
      state (savePrekey record c) = { c with committed := file } :=
  ⟨_, rfl, congrArg state (hcalm.execute (DatabaseFile.replacePrekey record.toRow) rfl)⟩

theorem exists_deletePrekey (hcalm : c.Calm) (keyId : Int) :
    ∃ file, c.committed.deleteKey keyId = some file ∧
      state (deletePrekey keyId c) = { c with committed := file } :=
  ⟨_, rfl, congrArg state (hcalm.execute (DatabaseFile.deleteKey keyId) rfl)⟩

/-- `save_prekey` leaves the other kind alone: the listings and the count of the
kind are those of before. -/
structure SaveLeaves (c : Connection DatabaseFile) (record : PreKeyRecord) (kind : PreKeyKind) :
    Prop where
  list : ∀ limit, result (listPrekeys kind limit (state (savePrekey record c))) =
    result (listPrekeys kind limit c)
  count : result (countPrekeys kind (state (savePrekey record c))) = result (countPrekeys kind c)

/-- `delete_prekey` leaves every signed prekey in its place. -/
def DeleteLeaves (c : Connection DatabaseFile) (keyId : Int) : Prop :=
  ∀ row ∈ c.committed.prekeysOf .signed,
    row ∈ (state (deletePrekey keyId c)).committed.prekeysOf .signed

theorem saveLeaves_iff (hcalm : c.Calm) {record : PreKeyRecord} {kind : PreKeyKind}
    (hkind : kind ≠ record.kind) :
    SaveLeaves c record kind ↔ c.committed.Unclaimed record.keyId kind := by
  obtain ⟨file, hfile, hstate⟩ := exists_savePrekey hcalm record
  have hcalm' : Connection.Calm { c with committed := file } := ⟨hcalm.autocommit, hcalm.willing⟩
  have hrows := DatabaseFile.prekeysOf_replacePrekey hfile hkind
  constructor
  · intro hleaves
    have hcount := hleaves.count
    rw [hstate, result_countPrekeys hcalm, result_countPrekeys hcalm', hrows] at hcount
    have hlength : ((c.committed.prekeysOf kind).filter fun r => r.keyId ≠ record.keyId).length =
        (c.committed.prekeysOf kind).length := Int.ofNat.inj (Except.ok.inj hcount)
    rw [← DatabaseFile.filter_eq_self_iff]
    exact List.filter_sublist.eq_of_length hlength
  · intro hfree
    rw [DatabaseFile.filter_eq_self_iff.mpr hfree] at hrows
    refine ⟨?_, ?_⟩
    · intro limit
      rw [hstate]
      exact result_listPrekeys hcalm hcalm' hrows limit
    · rw [hstate, result_countPrekeys hcalm, result_countPrekeys hcalm', hrows]

theorem deleteLeaves_iff (hcalm : c.Calm) (keyId : Int) :
    DeleteLeaves c keyId ↔ c.committed.Unclaimed keyId .signed := by
  obtain ⟨file, hfile, hstate⟩ := exists_deletePrekey hcalm keyId
  have hrows := DatabaseFile.prekeysOf_deleteKey .signed hfile
  unfold DeleteLeaves DatabaseFile.Unclaimed
  rw [hstate]
  simp only [hrows, List.mem_filter, decide_eq_true_eq]
  constructor
  · intro hleaves row hrow
    exact (hleaves row hrow).2
  · intro hfree row hrow
    exact ⟨hrow, hfree row hrow⟩

end Calls

/-- On every table, saving a record leaves the other kind alone if and only if
no row of that kind has its id, and deleting an id leaves the signed prekeys in
place if and only if none of them has it. -/
theorem prekey_kinds_apart_iff {c : Connection DatabaseFile} (hcalm : c.Calm) :
    (∀ (record : PreKeyRecord) (kind : PreKeyKind), kind ≠ record.kind →
        (SaveLeaves c record kind ↔ c.committed.Unclaimed record.keyId kind)) ∧
      ∀ keyId, DeleteLeaves c keyId ↔ c.committed.Unclaimed keyId .signed :=
  ⟨fun _ _ hkind => saveLeaves_iff hcalm hkind, deleteLeaves_iff hcalm⟩

/-- A table with the signed prekey of an id. -/
def oneSigned (keyId : Int) : Connection DatabaseFile :=
  ⟨⟨1, [], [(samplePrekey keyId .signed).toRow]⟩, none, []⟩

/-- Under another id the two kinds stay apart. -/
theorem prekey_kinds_apart_disjoint :
    SaveLeaves (oneSigned 100) (samplePrekey 0 .oneTime) .signed ∧ DeleteLeaves (oneSigned 100) 0 := by
  have hapart := prekey_kinds_apart_iff (c := oneSigned 100) ⟨rfl, rfl⟩
  have hfree : (oneSigned 100).committed.Unclaimed 0 .signed := by
    unfold DatabaseFile.Unclaimed
    decide
  exact ⟨(hapart.1 _ _ (by decide)).mpr hfree, (hapart.2 0).mpr hfree⟩

/-- A one-time prekey with the id of the signed one replaces it, and deleting
the one-time id deletes the signed prekey. -/
theorem one_time_prekey_replaces_signed :
    result (countPrekeys .signed (oneSigned 1)) = .ok 1 ∧
      result (countPrekeys .signed
        (state (savePrekey (samplePrekey 1 .oneTime) (oneSigned 1)))) = .ok 0 ∧
      ¬ SaveLeaves (oneSigned 1) (samplePrekey 1 .oneTime) .signed ∧
      ¬ DeleteLeaves (oneSigned 1) 1 := by
  have hclaimed : ¬ (oneSigned 1).committed.Unclaimed 1 .signed := by
    unfold DatabaseFile.Unclaimed
    decide
  refine ⟨rfl, rfl, ?_, ?_⟩
  · rwa [saveLeaves_iff ⟨rfl, rfl⟩ (by decide)]
  · rwa [deleteLeaves_iff ⟨rfl, rfl⟩]

end Presidium
