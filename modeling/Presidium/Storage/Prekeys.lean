import Presidium.Lib.Machine
import Presidium.Storage.File

/-!
# One-time prekeys are handed out once

Calls on the `prekeys` table over a connection whose engine does what it is
told.  `PrekeyLedger` keeps, next to the connection, the records that were saved, those
that `take_one_time_prekey` has returned and those that `delete_prekey` has
removed.  `PrekeyLedger.Balanced` is what every run keeps: the saved records are the
stored, the taken and the deleted ones, and their ids are distinct.
-/

namespace Presidium

open Outcome (state)

/-! ## Rows and records -/

theorem prekeyFromRow_toRow (record : PreKeyRecord) : prekeyFromRow record.toRow = record := by
  obtain ⟨keyId, kind, classical, pq, publicClassical, publicPq, signature, createdAt⟩ := record
  cases kind with
  | signed => rfl
  | oneTime => rfl

theorem kind_toInt_inj {kind kind' : PreKeyKind} : kind.toInt = kind'.toInt ↔ kind = kind' := by
  cases kind <;> cases kind' <;> decide

namespace DatabaseFile

/-- The stored records. -/
def records (file : DatabaseFile) : List PreKeyRecord := file.prekeys.map prekeyFromRow

/-- Every row of the table was written from a record. -/
def Written (file : DatabaseFile) : Prop := file.prekeys = file.records.map PreKeyRecord.toRow

variable {file : DatabaseFile}

theorem written_of_map {records : List PreKeyRecord}
    (h : file.prekeys = records.map PreKeyRecord.toRow) :
    file.Written ∧ file.records = records := by
  have hrecords : file.records = records := by
    unfold DatabaseFile.records
    rw [h, List.map_map]
    conv_rhs => rw [← List.map_id records]
    exact List.map_congr_left fun r _ => prekeyFromRow_toRow r
  refine ⟨?_, hrecords⟩
  unfold Written
  rw [hrecords, h]

theorem Written.filter_ne (h : file.Written) (keyId : Int) :
    file.prekeys.filter (fun r => r.keyId ≠ keyId) =
      (file.records.filter fun r => r.keyId ≠ keyId).map PreKeyRecord.toRow := by
  conv_lhs => rw [h]
  rw [List.filter_map]
  rfl

theorem Written.prekeysOf (h : file.Written) (kind : PreKeyKind) :
    file.prekeysOf kind =
      (file.records.filter fun r => r.kind = kind).map PreKeyRecord.toRow := by
  unfold DatabaseFile.prekeysOf
  conv_lhs => rw [h]
  rw [List.filter_map]
  congr 1
  apply List.filter_congr
  intro r _
  simp only [Function.comp_apply, PreKeyRecord.toRow, kind_toInt_inj]

end DatabaseFile

/-! ## The smallest row -/

instance : IsTrans PrekeyRow fun a b => a.keyId ≤ b.keyId := ⟨fun _ _ _ => le_trans⟩

instance : Std.Total fun a b : PrekeyRow => a.keyId ≤ b.keyId :=
  ⟨fun a b => le_total a.keyId b.keyId⟩

namespace DatabaseFile

variable {file : DatabaseFile}

theorem head?_sortedPrekeysOf_eq_none {kind : PreKeyKind} :
    (file.sortedPrekeysOf kind).head? = none ↔ file.prekeysOf kind = [] := by
  rw [List.head?_eq_none_iff, ← List.length_eq_zero_iff, sortedPrekeysOf,
    List.length_insertionSort, List.length_eq_zero_iff]

/-- The first row in the order is a row with the smallest id. -/
theorem head?_sortedPrekeysOf_eq_some {kind : PreKeyKind} {row : PrekeyRow}
    (h : (file.sortedPrekeysOf kind).head? = some row) :
    row ∈ file.prekeysOf kind ∧ ∀ row' ∈ file.prekeysOf kind, row.keyId ≤ row'.keyId := by
  have hsorted := List.pairwise_insertionSort (fun a b : PrekeyRow => a.keyId ≤ b.keyId)
    (file.prekeysOf kind)
  obtain ⟨rest, hrest⟩ := List.head?_eq_some_iff.mp h
  unfold sortedPrekeysOf at hrest
  rw [hrest] at hsorted
  have hmem : ∀ row', row' ∈ file.prekeysOf kind ↔ row' = row ∨ row' ∈ rest := by
    intro row'
    rw [← List.mem_insertionSort (fun a b : PrekeyRow => a.keyId ≤ b.keyId), hrest,
      List.mem_cons]
  refine ⟨(hmem row).mpr (Or.inl rfl), fun row' hrow' => ?_⟩
  rcases (hmem row').mp hrow' with rfl | hlater
  · exact le_refl _
  · exact List.rel_of_pairwise_cons hsorted hlater

/-- The record that `take_one_time_prekey` selects. -/
def oldestOneTime (file : DatabaseFile) : Option PreKeyRecord :=
  (file.sortedPrekeysOf .oneTime).head?.map prekeyFromRow

theorem Written.oldestOneTime_eq_none (h : file.Written) :
    file.oldestOneTime = none ↔ ∀ r ∈ file.records, r.kind ≠ .oneTime := by
  unfold oldestOneTime
  rw [Option.map_eq_none_iff, head?_sortedPrekeysOf_eq_none, h.prekeysOf, List.map_eq_nil_iff,
    List.filter_eq_nil_iff]
  simp

theorem Written.oldestOneTime_eq_some (h : file.Written) {r : PreKeyRecord}
    (hr : file.oldestOneTime = some r) :
    r ∈ file.records ∧ r.kind = .oneTime ∧
      ∀ r' ∈ file.records, r'.kind = .oneTime → r.keyId ≤ r'.keyId := by
  obtain ⟨row, hrow, rfl⟩ := Option.map_eq_some_iff.mp hr
  obtain ⟨hmem, hleast⟩ := head?_sortedPrekeysOf_eq_some hrow
  rw [h.prekeysOf] at hmem hleast
  obtain ⟨record, hrecord, rfl⟩ := List.mem_map.mp hmem
  rw [prekeyFromRow_toRow]
  rw [List.mem_filter, decide_eq_true_eq] at hrecord
  refine ⟨hrecord.1, hrecord.2, fun r' hr' hkind => ?_⟩
  refine hleast r'.toRow (List.mem_map.mpr ⟨r', ?_, rfl⟩)
  rw [List.mem_filter, decide_eq_true_eq]
  exact ⟨hr', hkind⟩

end DatabaseFile

/-! ## Calls on a calm connection -/

/-- The file behind a take. -/
def DatabaseFile.taken (file : DatabaseFile) : DatabaseFile :=
  match file.oldestOneTime with
  | none => file
  | some r => { file with prekeys := file.prekeys.filter fun row => row.keyId ≠ r.keyId }

theorem takeOneTimePrekey_of_calm {c : Connection DatabaseFile} (h : c.Calm) :
    takeOneTimePrekey c =
      .ok c.committed.oldestOneTime { c with committed := c.committed.taken } := by
  obtain ⟨file, work, replies⟩ := c
  obtain ⟨rfl, rfl⟩ := h
  have hopen : transaction (⟨file, none, []⟩ : Connection DatabaseFile) =
      .ok { done := false } ⟨file, some file, []⟩ := rfl
  have hbody : takeBody ⟨file, some file, []⟩ =
      .ok file.oldestOneTime ⟨file, some file.taken, []⟩ := by
    have hselect : Connection.query DatabaseFile.oldestOneTime ⟨file, some file, []⟩ =
        .ok file.oldestOneTime ⟨file, some file, []⟩ := rfl
    refine Eq.trans (Outcome.bind_ok hselect) ?_
    unfold DatabaseFile.taken
    cases file.oldestOneTime with
    | none => rfl
    | some r => rfl
  rw [takeOneTimePrekey, withTransaction_eq hopen, hbody]
  rfl

/-! ## Runs -/

/-- A call on the prekeys. -/
inductive PrekeyOp where
  | save (record : PreKeyRecord)
  | take
  | delete (keyId : Int)
  | list (kind : PreKeyKind) (limit : Int)
  | count (kind : PreKeyKind)

/-- A connection with the history of its prekeys. -/
structure PrekeyLedger where
  conn : Connection DatabaseFile
  saved : List PreKeyRecord
  taken : List PreKeyRecord
  deleted : List PreKeyRecord

namespace PrekeyLedger

def stored (l : PrekeyLedger) : List PreKeyRecord := l.conn.committed.records

/-- A call, with what it adds to the history: a take the record that it returns,
a deletion the stored records of that id. -/
def apply (l : PrekeyLedger) : PrekeyOp → PrekeyLedger
  | .save record =>
    { l with conn := state (savePrekey record l.conn), saved := l.saved ++ [record] }
  | .take =>
    match takeOneTimePrekey l.conn with
    | .ok answer c => { l with conn := c, taken := l.taken ++ answer.toList }
    | .error _ c => { l with conn := c }
  | .delete keyId =>
    { l with
      conn := state (deletePrekey keyId l.conn)
      deleted := l.deleted ++ l.stored.filter fun r => r.keyId = keyId }
  | .list kind limit => { l with conn := state (listPrekeys kind limit l.conn) }
  | .count kind => { l with conn := state (countPrekeys kind l.conn) }

/-- Every call may occur, but an id is saved once. -/
def machine : Machine PrekeyLedger PrekeyOp where
  step := apply
  Enabled l op :=
    match op with
    | .save record => record.keyId ∉ l.saved.map PreKeyRecord.keyId
    | _ => True

/-- What every run keeps. -/
structure Balanced (l : PrekeyLedger) : Prop where
  calm : l.conn.Calm
  written : l.conn.committed.Written
  distinct : (l.saved.map PreKeyRecord.keyId).Nodup
  accounts : l.saved.Perm (l.stored ++ l.taken ++ l.deleted)
  oneTime : ∀ r ∈ l.taken, r.kind = .oneTime

variable {l : PrekeyLedger}

theorem Balanced.mem_saved (h : l.Balanced) {r : PreKeyRecord} (hr : r ∈ l.stored) :
    r ∈ l.saved := by
  apply h.accounts.mem_iff.mpr
  exact List.mem_append_left _ (List.mem_append_left _ hr)

/-- An id belongs to one entry of the three lists. -/
theorem Balanced.nodup (h : l.Balanced) :
    ((l.stored ++ l.taken ++ l.deleted).map PreKeyRecord.keyId).Nodup :=
  (h.accounts.map PreKeyRecord.keyId).nodup_iff.mp h.distinct

theorem Balanced.nodup_stored (h : l.Balanced) : (l.stored.map PreKeyRecord.keyId).Nodup := by
  have hall := h.nodup
  rw [List.append_assoc, List.map_append] at hall
  exact (List.nodup_append.mp hall).1

/-- Among the stored records an id stands for one record. -/
theorem filter_keyId_eq {records : List PreKeyRecord}
    (hnodup : (records.map PreKeyRecord.keyId).Nodup) {r : PreKeyRecord} (hr : r ∈ records) :
    records.filter (fun r' => r'.keyId = r.keyId) = [r] := by
  induction records with
  | nil => exact absurd hr List.not_mem_nil
  | cons x rest ih =>
    rw [List.map_cons, List.nodup_cons] at hnodup
    by_cases hx : x.keyId = r.keyId
    · have hnone : rest.filter (fun r' => r'.keyId = r.keyId) = [] := by
        rw [List.filter_eq_nil_iff]
        intro y hy hkey
        rw [decide_eq_true_eq] at hkey
        exact hnodup.1 (List.mem_map.mpr ⟨y, hy, hkey.trans hx.symm⟩)
      have hsame : r = x := by
        rcases List.mem_cons.mp hr with heq | hlater
        · exact heq
        · exact absurd (List.mem_map.mpr ⟨r, hlater, hx.symm⟩) hnodup.1
      rw [List.filter_cons_of_pos (by simp [hx]), hnone, hsame]
    · have hlater : r ∈ rest := by
        rcases List.mem_cons.mp hr with heq | hlater
        · exact absurd (by rw [heq]) hx
        · exact hlater
      rw [List.filter_cons_of_neg (by simp [hx])]
      exact ih hnodup.2 hlater

/-- Taking the records of an id out splits the list. -/
theorem perm_filter_keyId (records : List PreKeyRecord) (keyId : Int) :
    records.Perm
      (records.filter (fun r => r.keyId ≠ keyId) ++ records.filter fun r => r.keyId = keyId) := by
  have hsplit := List.filter_append_perm (fun r : PreKeyRecord => decide (r.keyId ≠ keyId)) records
  refine hsplit.symm.trans (List.Perm.append_left _ ?_)
  refine List.Perm.of_eq (List.filter_congr fun r _ => ?_)
  simp

/-- The ledger with another table behind its connection and another history. -/
theorem Balanced.update (h : l.Balanced) {file : DatabaseFile}
    {records saved taken deleted : List PreKeyRecord}
    (hfile : file.prekeys = records.map PreKeyRecord.toRow)
    (hdistinct : (saved.map PreKeyRecord.keyId).Nodup)
    (haccounts : saved.Perm (records ++ taken ++ deleted))
    (honeTime : ∀ r ∈ taken, r.kind = .oneTime) :
    Balanced ⟨{ l.conn with committed := file }, saved, taken, deleted⟩ := by
  obtain ⟨hwritten, hrecords⟩ := DatabaseFile.written_of_map hfile
  refine ⟨⟨h.calm.autocommit, h.calm.willing⟩, hwritten, hdistinct, ?_, honeTime⟩
  show saved.Perm (file.records ++ taken ++ deleted)
  rw [hrecords]
  exact haccounts

theorem Balanced.save (h : l.Balanced) {record : PreKeyRecord}
    (hfresh : record.keyId ∉ l.saved.map PreKeyRecord.keyId) :
    (l.apply (.save record)).Balanced := by
  have hrun : savePrekey record l.conn = .ok () _ := h.calm.execute _ rfl
  have hconn := congrArg state hrun
  -- the id is new, so nothing is replaced
  have hkept : l.conn.committed.records.filter (fun r => r.keyId ≠ record.keyId) =
      l.conn.committed.records := by
    rw [List.filter_eq_self]
    intro r hr
    rw [decide_eq_true_eq]
    intro hsame
    exact hfresh (List.mem_map.mpr ⟨r, h.mem_saved hr, hsame⟩)
  have hrows : l.conn.committed.prekeys.filter (fun r => r.keyId ≠ record.keyId) ++
      [record.toRow] = (l.stored ++ [record]).map PreKeyRecord.toRow := by
    rw [h.written.filter_ne, hkept, List.map_append]
    rfl
  show Balanced ⟨state (savePrekey record l.conn), l.saved ++ [record], l.taken, l.deleted⟩
  rw [hconn]
  refine h.update hrows ?_ ?_ h.oneTime
  · rw [List.map_append, List.nodup_append]
    refine ⟨h.distinct, List.nodup_singleton _, fun a ha b hb hab => hfresh ?_⟩
    rw [← List.mem_singleton.mp hb, ← hab]
    exact ha
  · have hmove : (l.stored ++ l.taken ++ l.deleted ++ [record]).Perm
        (l.stored ++ [record] ++ l.taken ++ l.deleted) := by
      simp only [List.append_assoc]
      refine List.Perm.append_left _ ?_
      rw [← List.append_assoc l.taken]
      exact List.perm_append_comm
    exact (h.accounts.append_right [record]).trans hmove

/-- A take returns the stored one-time record with the smallest id, and takes
this record out of the table. -/
theorem Balanced.take_ok (h : l.Balanced) :
    takeOneTimePrekey l.conn =
      .ok l.conn.committed.oldestOneTime { l.conn with committed := l.conn.committed.taken } :=
  takeOneTimePrekey_of_calm h.calm

theorem Balanced.taken_prekeys (h : l.Balanced) {r : PreKeyRecord}
    (hr : l.conn.committed.oldestOneTime = some r) :
    l.conn.committed.taken.prekeys =
      (l.stored.filter fun r' => r'.keyId ≠ r.keyId).map PreKeyRecord.toRow := by
  unfold DatabaseFile.taken
  rw [hr]
  exact h.written.filter_ne r.keyId

theorem Balanced.perm_taken (h : l.Balanced) {r : PreKeyRecord} (hr : r ∈ l.stored) :
    l.stored.Perm (l.stored.filter (fun r' => r'.keyId ≠ r.keyId) ++ [r]) := by
  have hsplit := perm_filter_keyId l.stored r.keyId
  rw [filter_keyId_eq h.nodup_stored hr] at hsplit
  exact hsplit

theorem Balanced.take (h : l.Balanced) : (l.apply .take).Balanced := by
  have happly : l.apply .take =
      ⟨{ l.conn with committed := l.conn.committed.taken }, l.saved,
        l.taken ++ l.conn.committed.oldestOneTime.toList, l.deleted⟩ := by
    simp only [apply, h.take_ok]
  rw [happly]
  cases holdest : l.conn.committed.oldestOneTime with
  | none =>
    have hsame : l.conn.committed.taken = l.conn.committed := by
      unfold DatabaseFile.taken
      rw [holdest]
    rw [hsame, Option.toList_none, List.append_nil]
    exact h
  | some r =>
    obtain ⟨hmem, hkind, -⟩ := h.written.oldestOneTime_eq_some holdest
    refine h.update (h.taken_prekeys holdest) h.distinct ?_ ?_
    · refine h.accounts.trans ?_
      have hout : (l.stored ++ l.taken).Perm
          (l.stored.filter (fun r' => r'.keyId ≠ r.keyId) ++ (l.taken ++ [r])) := by
        refine ((h.perm_taken hmem).append_right l.taken).trans ?_
        rw [List.append_assoc]
        exact List.Perm.append_left _ List.perm_append_comm
      exact hout.append_right l.deleted
    · intro r' hr'
      rcases List.mem_append.mp hr' with hbefore | hnow
      · exact h.oneTime r' hbefore
      · rw [Option.mem_toList] at hnow
        rw [← Option.some.inj hnow]
        exact hkind

theorem Balanced.delete (h : l.Balanced) (keyId : Int) : (l.apply (.delete keyId)).Balanced := by
  have hrun : deletePrekey keyId l.conn = .ok () _ := h.calm.execute _ rfl
  have hconn := congrArg state hrun
  show Balanced ⟨state (deletePrekey keyId l.conn), l.saved, l.taken,
    l.deleted ++ l.stored.filter fun r => r.keyId = keyId⟩
  rw [hconn]
  refine h.update (h.written.filter_ne keyId) h.distinct ?_ h.oneTime
  refine h.accounts.trans ?_
  have hsplit := perm_filter_keyId l.stored keyId
  have hout := (hsplit.append_right l.taken).append_right l.deleted
  refine hout.trans ?_
  simp only [List.append_assoc]
  refine List.Perm.append_left _ ?_
  rw [← List.append_assoc l.taken]
  exact List.perm_append_comm

theorem Balanced.apply (h : l.Balanced) {op : PrekeyOp} (henabled : machine.Enabled l op) :
    (l.apply op).Balanced := by
  cases op with
  | save record => exact h.save henabled
  | take => exact h.take
  | delete keyId => exact h.delete keyId
  | list kind limit =>
    have hconn := congrArg state (h.calm.query fun file =>
      let rows := file.sortedPrekeysOf kind
      (if limit < 0 then rows else rows.take limit.toNat).map prekeyFromRow)
    show Balanced { l with conn := state (listPrekeys kind limit l.conn) }
    rw [show state (listPrekeys kind limit l.conn) = l.conn from hconn]
    exact h
  | count kind =>
    have hconn := congrArg state (h.calm.query fun file => ((file.prekeysOf kind).length : Int))
    show Balanced { l with conn := state (countPrekeys kind l.conn) }
    rw [show state (countPrekeys kind l.conn) = l.conn from hconn]
    exact h

theorem Balanced.run (h : l.Balanced) {ops : List PrekeyOp} (hvalid : machine.Valid l ops) :
    (machine.run l ops).Balanced :=
  Machine.invariant (fun _ _ hl henabled => Balanced.apply hl henabled) h hvalid

/-- A connection with records in its table and nothing taken or deleted yet. -/
def start (c : Connection DatabaseFile) (initial : List PreKeyRecord) : PrekeyLedger :=
  { conn := c, saved := initial, taken := [], deleted := [] }

theorem balanced_start {c : Connection DatabaseFile} {initial : List PreKeyRecord}
    (hcalm : c.Calm) (hrows : c.committed.prekeys = initial.map PreKeyRecord.toRow)
    (hdistinct : (initial.map PreKeyRecord.keyId).Nodup) : (start c initial).Balanced := by
  obtain ⟨hwritten, hrecords⟩ := DatabaseFile.written_of_map hrows
  refine ⟨hcalm, hwritten, hdistinct, ?_, fun r hr => absurd hr List.not_mem_nil⟩
  show initial.Perm (c.committed.records ++ [] ++ [])
  rw [hrecords, List.append_nil, List.append_nil]

/-- What a take has to do: it returns the oldest stored one-time record, one
that was saved and not yet taken, and only this record leaves the table. -/
def TakesOldest (l : PrekeyLedger) : Prop :=
  ∃ answer c, takeOneTimePrekey l.conn = .ok answer c ∧
    (answer = none ↔ ∀ r ∈ l.stored, r.kind ≠ .oneTime) ∧
    (answer = none → c.committed.records = l.stored) ∧
    ∀ r, answer = some r →
      r ∈ l.stored ∧ r ∈ l.saved ∧ r ∉ l.taken ∧ r.kind = .oneTime ∧
        (∀ r' ∈ l.stored, r'.kind = .oneTime → r.keyId ≤ r'.keyId) ∧
        c.committed.records = (l.stored.filter fun r' => r'.keyId ≠ r.keyId) ∧
        ∀ r' ∈ l.stored, r'.kind = .signed → r' ∈ c.committed.records

theorem Balanced.takesOldest (h : l.Balanced) : l.TakesOldest := by
  refine ⟨_, _, h.take_ok, h.written.oldestOneTime_eq_none, ?_, ?_⟩
  · intro hnone
    show l.conn.committed.taken.records = _
    unfold DatabaseFile.taken
    rw [hnone]
    rfl
  · intro r hr
    obtain ⟨hmem, hkind, hleast⟩ := h.written.oldestOneTime_eq_some hr
    have hleft : l.conn.committed.taken.records = l.stored.filter fun r' => r'.keyId ≠ r.keyId :=
      (DatabaseFile.written_of_map (h.taken_prekeys hr)).2
    refine ⟨hmem, h.mem_saved hmem, ?_, hkind, hleast, hleft, ?_⟩
    · intro htaken
      have hall := h.nodup
      rw [List.append_assoc, List.map_append, List.nodup_append] at hall
      refine hall.2.2 r.keyId (List.mem_map_of_mem hmem) r.keyId ?_ rfl
      exact List.mem_map_of_mem (List.mem_append_left _ htaken)
    · intro r' hr' hsigned
      show r' ∈ l.conn.committed.taken.records
      rw [hleft, List.mem_filter, decide_eq_true_eq]
      refine ⟨hr', fun hsame => ?_⟩
      have hone : r' ∈ l.stored.filter fun r'' => r''.keyId = r.keyId := by
        rw [List.mem_filter, decide_eq_true_eq]
        exact ⟨hr', hsame⟩
      rw [filter_keyId_eq h.nodup_stored hmem, List.mem_singleton] at hone
      rw [hone, hkind] at hsigned
      cases hsigned

theorem Balanced.count_ok (h : l.Balanced) (kind : PreKeyKind) :
    countPrekeys kind l.conn =
      .ok ((l.stored.filter fun r => r.kind = kind).length : Int) l.conn := by
  unfold countPrekeys
  rw [h.calm.query, h.written.prekeysOf, List.length_map]
  rfl

theorem Balanced.nodup_taken (h : l.Balanced) : (l.taken.map PreKeyRecord.keyId).Nodup := by
  have hall := h.nodup
  rw [List.append_assoc, List.map_append, List.nodup_append, List.map_append,
    List.nodup_append] at hall
  exact hall.2.1.1

end PrekeyLedger

/-- After any calls in which no id is saved twice: the saved records are the
stored, the taken and the deleted ones, under distinct ids; a take returns the
oldest one-time record as it was saved, once; no signed record is taken; and a
count is the number of stored records. -/
theorem prekeys_accounted (c : Connection DatabaseFile) (initial : List PreKeyRecord)
    (hcalm : c.Calm) (hrows : c.committed.prekeys = initial.map PreKeyRecord.toRow)
    (hdistinct : (initial.map PreKeyRecord.keyId).Nodup) (ops : List PrekeyOp)
    (hvalid : PrekeyLedger.machine.Valid (PrekeyLedger.start c initial) ops) :
    ∃ l, l = PrekeyLedger.machine.run (PrekeyLedger.start c initial) ops ∧
      l.saved.Perm (l.stored ++ l.taken ++ l.deleted) ∧
      (l.saved.map PreKeyRecord.keyId).Nodup ∧
      l.TakesOldest ∧
      (l.taken.map PreKeyRecord.keyId).Nodup ∧
      (∀ r ∈ l.taken, r.kind = .oneTime) ∧
      ∀ kind, countPrekeys kind l.conn =
        .ok ((l.stored.filter fun r => r.kind = kind).length : Int) l.conn := by
  have hbalanced := (PrekeyLedger.balanced_start hcalm hrows hdistinct).run hvalid
  exact ⟨_, rfl, hbalanced.accounts, hbalanced.distinct, hbalanced.takesOldest,
    hbalanced.nodup_taken, hbalanced.oneTime, hbalanced.count_ok⟩

/-- A prekey with the given id. -/
def samplePrekey (keyId : Int) (kind : PreKeyKind) : PreKeyRecord :=
  { keyId, kind, classical := [1], pq := [2], publicClassical := [3], publicPq := [4],
    signature := [], createdAt := 0 }

/-- An empty table, two one-time prekeys and a signed one, two takes. -/
theorem prekeys_accounted_twoTakes :
    ∃ l, l = PrekeyLedger.machine.run (PrekeyLedger.start ⟨⟨1, [], []⟩, none, []⟩ [])
        [.save (samplePrekey 7 .oneTime), .save (samplePrekey 1 .signed),
          .save (samplePrekey 3 .oneTime), .take, .take] ∧
      l.taken = [samplePrekey 3 .oneTime, samplePrekey 7 .oneTime] ∧ l.TakesOldest := by
  obtain ⟨l, hl, -, -, htakes, -⟩ := prekeys_accounted ⟨⟨1, [], []⟩, none, []⟩ [] ⟨rfl, rfl⟩ rfl
    List.nodup_nil
    [.save (samplePrekey 7 .oneTime), .save (samplePrekey 1 .signed),
      .save (samplePrekey 3 .oneTime), .take, .take]
    (by
      refine ⟨?_, ?_, ?_, trivial, trivial, trivial⟩
      · show ¬ _
        decide
      · show ¬ _
        decide
      · show ¬ _
        decide)
  refine ⟨l, hl, ?_, htakes⟩
  rw [hl]
  rfl

end Presidium
