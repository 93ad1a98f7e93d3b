import Presidium.Lib.Keyset
import Presidium.Storage.Database

/-!
# Reading a conversation page by page

`list_messages` is meant to be called with `before_id` `None` first and then
with the last id of the page before, until a page is empty.  `readPages` is
that loop, with any `insert_message` and `update_message_status` calls between
two pages.

A message that comes in meanwhile gets an id above all earlier ones, so it is
not below the cursor, and a status update changes neither id nor conversation.
So what is left to read stays the same up to the status (`held_applyOps`), and the
pages put together are the conversation as it was at the first call
(`pagination_complete`).
-/

namespace Presidium

/-- A statement between two page calls. -/
inductive MessageOp where
  | insert (record : MessageRecord)
  | updateStatus (id : Int) (status : MessageStatus)

/-- A message but for its status. -/
def MessageRecord.unstamped (m : MessageRecord) : MessageRecord := { m with status := .pending }

namespace Database

/-- The tables after a statement.  One that fails changes nothing. -/
def applyOp (db : Database) : MessageOp → Database
  | .insert record =>
    match db.insertMessage record with
    | .ok (db', _) => db'
    | .error _ => db
  | .updateStatus id status => db.updateMessageStatus id status

def applyOps (db : Database) (ops : List MessageOp) : Database := ops.foldl applyOp db

/-- The rows that `list_messages` selects. -/
def held (db : Database) (conversationId : String) (beforeId : Option Int) : List MessageRecord :=
  db.messages.filter fun m =>
    m.conversationId == conversationId && beforeId.all (decide <| m.id < ·)

/-- Read the pages of a conversation from a cursor on, with the statements
`between turn` after each page, until a page is empty.  `none` is a reader that
has not come to the end. -/
def readPages (conversationId : String) (limit : Nat) (between : Nat → List MessageOp) :
    Nat → Nat → Database → Option Int → Except StorageError (Option (List (List MessageRecord)))
  | 0, _, _, _ => .ok none
  | fuel + 1, turn, db, beforeId => do
    let page ← db.listMessages conversationId beforeId limit
    match page.getLast? with
    | none => return some []
    | some last =>
      let rest ← readPages conversationId limit between fuel (turn + 1)
        (db.applyOps (between turn)) (some last.id)
      return rest.map (page :: ·)

/-! ## One page -/

theorem listMessages_eq {conversationId : String} (h : Bindable conversationId) (db : Database)
    (beforeId : Option Int) (limit : Int) :
    db.listMessages conversationId beforeId limit =
      .ok (Keyset.limited limit
        (Keyset.newestFirst MessageRecord.id (db.held conversationId beforeId))) := by
  unfold listMessages
  rw [bindText_ok h]
  rfl

theorem listMessages_natCast {conversationId : String} (h : Bindable conversationId)
    (db : Database) (beforeId : Option Int) (limit : Nat) :
    db.listMessages conversationId beforeId limit =
      .ok (Keyset.page MessageRecord.id limit (db.held conversationId beforeId)) := by
  rw [listMessages_eq h, Keyset.limited_natCast]
  rfl

theorem Sequenced.held {db : Database} (h : db.Sequenced) (conversationId : String)
    (beforeId : Option Int) :
    ((db.held conversationId beforeId).map MessageRecord.id).Nodup :=
  h.distinct.sublist (List.filter_sublist.map _)

/-- The cursor moves to a row that is still to be read. -/
theorem held_some {db : Database} {conversationId : String} {beforeId : Option Int}
    {last : MessageRecord} (hlast : last ∈ db.held conversationId beforeId) :
    db.held conversationId (some last.id) =
      Keyset.below MessageRecord.id last.id (db.held conversationId beforeId) := by
  have hbefore : beforeId.all (decide <| last.id < ·) = true := by
    have hboth := (List.mem_filter.mp hlast).2
    rw [Bool.and_eq_true] at hboth
    exact hboth.2
  unfold Database.held Keyset.below
  rw [List.filter_filter]
  apply List.filter_congr
  intro m _
  cases beforeId with
  | none => simp [Bool.and_comm]
  | some bound =>
    have hbound : last.id < bound := by simpa using hbefore
    by_cases hlt : m.id < last.id
    · have hlow : m.id < bound := by omega
      simp [hlt, hlow]
    · simp [hlt]

/-! ## Statements between two pages -/

theorem applyOp_insert (db : Database) (record : MessageRecord) :
    db.applyOp (.insert record) = db ∨ db.applyOp (.insert record) = db.withMessage record := by
  show (match db.insertMessage record with
    | .ok (db', _) => db'
    | .error _ => db) = db ∨ (match db.insertMessage record with
    | .ok (db', _) => db'
    | .error _ => db) = db.withMessage record
  cases hinsert : db.insertMessage record with
  | error e => exact .inl rfl
  | ok answer => exact .inr (insertMessage_eq_ok hinsert).2.1

theorem Sequenced.withMessage {db : Database} (h : db.Sequenced) (record : MessageRecord) :
    (db.withMessage record).Sequenced where
  bounded := by
    intro m hm
    show m.id ≤ db.lastRowId + 1
    rcases List.mem_append.mp hm with hm | hm
    · have hbound := h.bounded m hm
      omega
    · rw [List.mem_singleton.mp hm]
  distinct := by
    show ((db.messages ++ [{ record with id := db.lastRowId + 1 }]).map MessageRecord.id).Nodup
    rw [List.map_append, List.nodup_append]
    refine ⟨h.distinct, List.nodup_singleton _, ?_⟩
    intro id hid id' hid' hsame
    obtain ⟨m, hm, rfl⟩ := List.mem_map.mp hid
    have hbound := h.bounded m hm
    have hnew : id' = db.lastRowId + 1 := List.mem_singleton.mp hid'
    omega

/-- The row that an update writes for `m`. -/
theorem updated_row (id : Int) (status : MessageStatus) (m : MessageRecord) :
    (if m.id = id then { m with status } else m).id = m.id ∧
      (if m.id = id then { m with status } else m).conversationId = m.conversationId ∧
      (if m.id = id then { m with status } else m).unstamped = m.unstamped := by
  split
  · exact ⟨rfl, rfl, rfl⟩
  · exact ⟨rfl, rfl, rfl⟩

theorem Sequenced.updateMessageStatus {db : Database} (h : db.Sequenced) (id : Int)
    (status : MessageStatus) : (db.updateMessageStatus id status).Sequenced where
  bounded := by
    intro m hm
    obtain ⟨m', hm', rfl⟩ := List.mem_map.mp hm
    rw [(updated_row id status m').1]
    exact h.bounded m' hm'
  distinct := by
    have hsame : (db.updateMessageStatus id status).messages.map MessageRecord.id =
        db.messages.map MessageRecord.id := by
      show (db.messages.map _).map _ = _
      rw [List.map_map]
      exact List.map_congr_left fun m _ => (updated_row id status m).1
    rw [hsame]
    exact h.distinct

theorem Sequenced.applyOp {db : Database} (h : db.Sequenced) (op : MessageOp) :
    (db.applyOp op).Sequenced ∧ db.lastRowId ≤ (db.applyOp op).lastRowId := by
  cases op with
  | insert record =>
    rcases db.applyOp_insert record with hop | hop
    · rw [hop]
      exact ⟨h, le_refl _⟩
    · rw [hop]
      refine ⟨h.withMessage record, ?_⟩
      show db.lastRowId ≤ db.lastRowId + 1
      omega
  | updateStatus id status => exact ⟨h.updateMessageStatus id status, le_refl _⟩

/-- What is below the cursor stays, up to the status. -/
theorem held_applyOp {db : Database} (conversationId : String) {cursor : Int}
    (hcursor : cursor ≤ db.lastRowId) (op : MessageOp) :
    ((db.applyOp op).held conversationId (some cursor)).map MessageRecord.unstamped =
      (db.held conversationId (some cursor)).map MessageRecord.unstamped := by
  cases op with
  | insert record =>
    rcases db.applyOp_insert record with hop | hop
    · rw [hop]
    · -- the new row is above the cursor
      have hnew : ¬ db.lastRowId + 1 < cursor := by omega
      rw [hop]
      unfold Database.held withMessage
      rw [List.filter_append, List.filter_cons_of_neg (by simp [hnew]), List.filter_nil,
        List.append_nil]
  | updateStatus id status =>
    show ((db.messages.map _).filter _).map MessageRecord.unstamped = _
    rw [List.filter_map, List.map_map]
    unfold Database.held
    have hselect : ∀ m ∈ db.messages, ((fun m : MessageRecord =>
        m.conversationId == conversationId && (some cursor).all (decide <| m.id < ·)) ∘
          fun m => if m.id = id then { m with status } else m) m =
        (m.conversationId == conversationId && (some cursor).all (decide <| m.id < ·)) := by
      intro m _
      obtain ⟨hid, hconversation, -⟩ := updated_row id status m
      simp only [Function.comp_apply, hid, hconversation]
    rw [List.filter_congr hselect]
    exact List.map_congr_left fun m _ => (updated_row id status m).2.2

theorem Sequenced.applyOps {db : Database} (h : db.Sequenced) (ops : List MessageOp) :
    (db.applyOps ops).Sequenced ∧ db.lastRowId ≤ (db.applyOps ops).lastRowId := by
  induction ops generalizing db with
  | nil => exact ⟨h, le_refl _⟩
  | cons op ops ih =>
    obtain ⟨hseq, hlast⟩ := h.applyOp op
    obtain ⟨hseq', hlast'⟩ := ih hseq
    exact ⟨hseq', hlast.trans hlast'⟩

theorem held_applyOps {db : Database} (h : db.Sequenced) (conversationId : String) {cursor : Int}
    (hcursor : cursor ≤ db.lastRowId) (ops : List MessageOp) :
    ((db.applyOps ops).held conversationId (some cursor)).map MessageRecord.unstamped =
      (db.held conversationId (some cursor)).map MessageRecord.unstamped := by
  induction ops generalizing db with
  | nil => rfl
  | cons op ops ih =>
    obtain ⟨hseq, hlast⟩ := h.applyOp op
    exact (ih hseq (hcursor.trans hlast)).trans (held_applyOp conversationId hcursor op)

/-- What is left after a page that ends in `last` and the statements after it. -/
theorem held_below {db : Database} (h : db.Sequenced) {conversationId : String}
    {beforeId : Option Int} {last : MessageRecord}
    (hlast : last ∈ db.held conversationId beforeId) (ops : List MessageOp) :
    ((db.applyOps ops).held conversationId (some last.id)).map MessageRecord.unstamped =
      (Keyset.below MessageRecord.id last.id (db.held conversationId beforeId)).map
        MessageRecord.unstamped := by
  have hcursor : last.id ≤ db.lastRowId := h.bounded last (List.mem_filter.mp hlast).1
  rw [held_applyOps h conversationId hcursor, held_some hlast]

/-! ## The whole reading -/

section Reader

variable {conversationId : String} (hbind : Bindable conversationId) (limit : Nat)
  (between : Nat → List MessageOp)

include hbind

/-- Nothing is left to read. -/
theorem readPages_end (fuel turn : Nat) {db : Database} {beforeId : Option Int}
    (hheld : db.held conversationId beforeId = []) :
    readPages conversationId limit between (fuel + 1) turn db beforeId = .ok (some []) := by
  unfold readPages
  rw [listMessages_natCast hbind, hheld, Keyset.page, Keyset.newestFirst_nil, List.take_nil]
  rfl

/-- A page, and then the pages below its last row. -/
theorem readPages_page (fuel turn : Nat) {db : Database} {beforeId : Option Int}
    {last : MessageRecord} {rest : List (List MessageRecord)}
    (hlast : (Keyset.page MessageRecord.id limit (db.held conversationId beforeId)).getLast? =
      some last)
    (hrest : readPages conversationId limit between fuel (turn + 1) (db.applyOps (between turn))
      (some last.id) = .ok (some rest)) :
    readPages conversationId limit between (fuel + 1) turn db beforeId =
      .ok (some
        (Keyset.page MessageRecord.id limit (db.held conversationId beforeId) :: rest)) := by
  conv_lhs => unfold readPages
  rw [listMessages_natCast hbind]
  simp only [bind, Except.bind]
  rw [hlast]
  simp only [hrest]
  rfl

omit hbind in
variable (conversationId) in
/-- The pages from a cursor on, which the reader has after more than `count`
page calls: the listing of the rows, cut into pages. -/
structure Reads (count turn : Nat) (db : Database) (beforeId : Option Int)
    (pages : List (List MessageRecord)) : Prop where
  read : ∀ fuel, count < fuel →
    readPages conversationId limit between fuel turn db beforeId = .ok (some pages)
  listing : pages.flatten.map MessageRecord.unstamped = Keyset.newestFirst MessageRecord.id
    ((db.held conversationId beforeId).map MessageRecord.unstamped)
  short : ∀ page ∈ pages, page.length ≤ limit

theorem reads_nil (count turn : Nat) {db : Database} {beforeId : Option Int}
    (hheld : db.held conversationId beforeId = []) :
    Reads conversationId limit between count turn db beforeId [] where
  read := by
    intro fuel hfuel
    obtain ⟨fuel, rfl⟩ : ∃ n, fuel = n + 1 := ⟨fuel - 1, by omega⟩
    exact readPages_end hbind limit between fuel turn hheld
  listing := by simp [hheld]
  short := by simp

/-- One page more. -/
theorem Reads.cons {count turn : Nat} {db : Database} {beforeId : Option Int}
    {last : MessageRecord} {rest : List (List MessageRecord)} (hdb : db.Sequenced)
    (hmem : last ∈ db.held conversationId beforeId)
    (hlast : (Keyset.page MessageRecord.id limit (db.held conversationId beforeId)).getLast? =
      some last)
    (hrest : Reads conversationId limit between count (turn + 1) (db.applyOps (between turn))
      (some last.id) rest) :
    Reads conversationId limit between (count + 1) turn db beforeId
      (Keyset.page MessageRecord.id limit (db.held conversationId beforeId) :: rest) where
  read := by
    intro fuel hfuel
    obtain ⟨fuel, rfl⟩ : ∃ n, fuel = n + 1 := ⟨fuel - 1, by omega⟩
    exact readPages_page hbind limit between fuel turn hlast (hrest.read fuel (by omega))
  listing := by
    have hunstamped := Keyset.map_newestFirst MessageRecord.id MessageRecord.id
      (f := MessageRecord.unstamped) fun _ => rfl
    rw [List.flatten_cons, List.map_append, hrest.listing, held_below hdb hmem, ← hunstamped,
      ← hunstamped, ← List.map_append,
      Keyset.page_append_below (hdb.held conversationId beforeId) hlast]
  short := by
    intro page hpage
    rcases List.mem_cons.mp hpage with rfl | hpage
    · exact List.length_take_le _ _
    · exact hrest.short page hpage

/-- From a cursor on, the reader ends after at most one page call for each row
and one for the empty page. -/
theorem exists_reads (hlimit : 1 ≤ limit) (count : Nat) :
    ∀ (turn : Nat) (db : Database) (beforeId : Option Int), db.Sequenced →
      (db.held conversationId beforeId).length ≤ count →
      ∃ pages, Reads conversationId limit between count turn db beforeId pages := by
  induction count with
  | zero =>
    intro turn db beforeId _ hcount
    have hnone : db.held conversationId beforeId = [] :=
      List.length_eq_zero_iff.mp (Nat.le_zero.mp hcount)
    exact ⟨[], reads_nil hbind limit between 0 turn hnone⟩
  | succ count ih =>
    intro turn db beforeId hdb hcount
    by_cases hnone : db.held conversationId beforeId = []
    · exact ⟨[], reads_nil hbind limit between (count + 1) turn hnone⟩
    obtain ⟨last, hmem, hlast⟩ := Keyset.exists_getLast?_page MessageRecord.id hlimit hnone
    have hlength : ((db.applyOps (between turn)).held conversationId (some last.id)).length ≤
        count := by
      have hfewer := Keyset.length_below_lt MessageRecord.id hmem
      have hsame := congrArg List.length (held_below hdb hmem (between turn))
      rw [List.length_map, List.length_map] at hsame
      omega
    obtain ⟨rest, hrest⟩ :=
      ih (turn + 1) _ (some last.id) (hdb.applyOps (between turn)).1 hlength
    exact ⟨_, hrest.cons hbind limit between hdb hmem hlast⟩

end Reader

end Database

open Database

/-- Reading a conversation page by page, from no cursor on and then from the
last id of the page before, comes to an empty page and has then given every
message that the conversation held at the first call exactly once, newest first,
whatever is inserted and updated meanwhile.  Only the status of a message may be
a later one.  A conversation id with a NUL byte names no conversation. -/
theorem pagination_complete {db : Database} (hdb : db.Sequenced) {conversationId : String}
    (hbind : Bindable conversationId) {limit : Nat} (hlimit : 1 ≤ limit)
    (between : Nat → List MessageOp) :
    ∃ pages,
      (∀ fuel, db.messages.length < fuel →
        readPages conversationId limit between fuel 0 db none = .ok (some pages)) ∧
      (pages.flatten.map MessageRecord.unstamped).Perm
        ((db.messages.filter fun m => m.conversationId == conversationId).map
          MessageRecord.unstamped) ∧
      (pages.flatten.Pairwise fun m m' => m'.id < m.id) ∧
      ∀ page ∈ pages, page.length ≤ limit := by
  have hheld : db.held conversationId none =
      db.messages.filter fun m => m.conversationId == conversationId := by
    unfold Database.held
    apply List.filter_congr
    intro m _
    simp
  have hlength : (db.held conversationId none).length ≤ db.messages.length :=
    List.length_filter_le _ _
  obtain ⟨pages, hread, hlisting, hshort⟩ :=
    exists_reads hbind limit between hlimit db.messages.length 0 db none hdb hlength
  refine ⟨pages, hread, ?_, ?_, hshort⟩
  · rw [hlisting, hheld]
    exact Keyset.newestFirst_perm _ _
  · have hdistinct : (((db.held conversationId none).map MessageRecord.unstamped).map
        MessageRecord.id).Nodup := by
      rw [List.map_map]
      exact hdb.held conversationId none
    have hstrict := Keyset.strict_newestFirst hdistinct
    rw [← hlisting, List.pairwise_map] at hstrict
    exact hstrict

/-- A row of a conversation. -/
def plainRow (id : Int) (conversationId : String) : MessageRecord :=
  { id
    conversationId
    messageId := [id.toNat.toUInt8]
    senderClassical := []
    ciphertext := []
    header := ""
    contentType := 0
    direction := .incoming
    status := .sent
    createdAt := 0 }

/-- Two conversations, one with three messages. -/
def threeMessages : Database :=
  { Database.empty with
    conversations := [
      { id := "a", peerClassical := [], peerPq := [], isGroup := false, createdAt := 0 },
      { id := "b", peerClassical := [], peerPq := [], isGroup := false, createdAt := 0 }]
    messages := [plainRow 1 "a", plainRow 2 "b", plainRow 3 "a", plainRow 4 "a"]
    lastRowId := 4 }

/-- A message comes in and the oldest one is delivered after the first page. -/
def meanwhile : Nat → List MessageOp
  | 0 => [.insert (plainRow 9 "a"), .updateStatus 1 .delivered]
  | _ + 1 => []

theorem pagination_complete_meanwhile :
    (threeMessages.applyOps (meanwhile 0)).messages.length = 5 ∧
    ∃ pages,
      (∀ fuel, threeMessages.messages.length < fuel →
        readPages "a" 2 meanwhile fuel 0 threeMessages none = .ok (some pages)) ∧
      (pages.flatten.map MessageRecord.unstamped).Perm
        ((threeMessages.messages.filter fun m => m.conversationId == "a").map
          MessageRecord.unstamped) ∧
      (pages.flatten.Pairwise fun m m' => m'.id < m.id) ∧
      ∀ page ∈ pages, page.length ≤ 2 :=
  ⟨by decide +kernel,
    pagination_complete ⟨by decide, by decide⟩ (by decide +kernel) (by decide) meanwhile⟩

end Presidium
