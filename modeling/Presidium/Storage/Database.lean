import Presidium.Lib.Keyset
import Presidium.Storage.SessionState

/-!
# The tables of `presidium-storage`

The part of the schema that the demo node uses: `identity`, `conversations`,
`sessions` and `messages`, with the statements of `store.rs` over them.  A
statement is a function of the database that either fails or returns the new
tables.  The failures are those of the schema and of the binding layer: a
foreign key into `conversations`, the unique index on message ids, and a text
parameter that contains a NUL byte.  Failures of the engine itself (disk full,
database locked) are left to the caller of these functions.

`sessions` holds JSON text in two of its columns, as the source does, so
reading a row back goes through `Serde`.
-/

namespace Presidium

variable {B : Nat → Type}

/-- Single-row identity of the local installation. -/
structure IdentityRecord where
  deviceId : String
  classicalSeed : Bytes
  pqSeed : Bytes
  createdAt : Int
  deriving DecidableEq

structure ConversationRecord where
  id : String
  peerClassical : Bytes
  peerPq : Bytes
  isGroup : Bool
  createdAt : Int
  deriving DecidableEq

/-- A row of `sessions`; the two key columns hold JSON. -/
structure SessionRow where
  conversationId : String
  isInitiator : Bool
  sessionKeys : Bytes
  ratchetState : Option Bytes
  lastUsed : Int
  deriving DecidableEq

inductive MessageDirection where
  | incoming
  | outgoing
  deriving DecidableEq, Repr

inductive MessageStatus where
  | pending
  | sent
  | delivered
  | read
  | failed
  deriving DecidableEq, Repr

structure MessageRecord where
  id : Int
  conversationId : String
  messageId : Bytes
  senderClassical : Bytes
  ciphertext : Bytes
  header : String
  contentType : Int
  direction : MessageDirection
  status : MessageStatus
  createdAt : Int
  deriving DecidableEq

structure Database where
  identity : Option IdentityRecord
  conversations : List ConversationRecord
  sessions : List SessionRow
  messages : List MessageRecord
  /-- The `AUTOINCREMENT` sequence of `messages`. -/
  lastRowId : Int
  deriving DecidableEq

/-- `INSERT … ON CONFLICT DO UPDATE`: `update` the rows with the same key, or
add `row` at the end. -/
def upsertBy {α : Type} (same : α → Bool) (update : α → α) (row : α) (rows : List α) : List α :=
  if rows.any same then rows.map fun r => if same r then update r else r else rows ++ [row]

/-- The row with the key after an upsert. -/
theorem find?_upsertBy {α : Type} {same : α → Bool} {update : α → α} {row : α}
    (hupdate : ∀ r, same r = true → same (update r) = true) (hrow : same row = true)
    (rows : List α) :
    (upsertBy same update row rows).find? same = some ((rows.find? same).elim row update) := by
  unfold upsertBy
  by_cases hany : rows.any same = true
  · rw [if_pos hany]
    clear hrow
    induction rows with
    | nil => simp at hany
    | cons r rows ih =>
      cases hr : same r with
      | true => simp [hr, hupdate r hr]
      | false =>
        have hrest : rows.any same = true := by simpa [hr] using hany
        simpa [hr] using ih hrest
  · have hnone : rows.find? same = none := by simpa using hany
    rw [if_neg hany, List.find?_append, hnone]
    simp [hrow]

/-- Which keys there are after an upsert. -/
theorem any_upsertBy {α : Type} {same : α → Bool} {update : α → α} {row : α} (key : α → Bool)
    (hupdate : ∀ r, same r = true → key (update r) = key row)
    (hrow : ∀ r, same r = true → key r = key row) (rows : List α) :
    (upsertBy same update row rows).any key = (rows.any key || key row) := by
  unfold upsertBy
  by_cases hany : rows.any same = true
  · rw [if_pos hany, List.any_map]
    have hkey : (key ∘ fun r => if same r = true then update r else r) = key := by
      funext r
      by_cases hr : same r = true
      · simp [hr, hupdate r hr, hrow r hr]
      · simp [hr]
    obtain ⟨r, hmem, hr⟩ := List.any_eq_true.mp hany
    rw [hkey]
    cases hkeyRow : key row with
    | false => rw [Bool.or_false]
    | true =>
      rw [Bool.or_true]
      exact List.any_eq_true.mpr ⟨r, hmem, (hrow r hr).trans hkeyRow⟩
  · rw [if_neg hany, List.any_append]
    simp

/-- An upsert that finds its row as it would write it. -/
theorem upsertBy_eq_self_iff {α : Type} {same : α → Bool} {update : α → α} {row : α}
    {rows : List α} :
    upsertBy same update row rows = rows ↔
      rows.any same = true ∧ ∀ r ∈ rows, same r = true → update r = r := by
  unfold upsertBy
  by_cases hany : rows.any same = true
  · have hfixed : (rows.map fun r => if same r = true then update r else r) = rows ↔
        ∀ r ∈ rows, (if same r = true then update r else r) = r := by
      simpa using
        List.map_inj_left (l := rows) (f := fun r => if same r = true then update r else r) (g := id)
    rw [if_pos hany, hfixed]
    simp [hany]
  · rw [if_neg hany]
    simp [hany]

namespace Database

/-- The tables after the migrations ran on a new file. -/
def empty : Database :=
  { identity := none, conversations := [], sessions := [], messages := [], lastRowId := 0 }

/-- Binding a text parameter goes through `CString::new`. -/
def bindText (text : String) : Except StorageError Unit :=
  if 0 ∈ asBytes text then .error (.database "text param contains a NUL byte") else .ok ()

/-- The binding layer takes the text. -/
def Bindable (text : String) : Prop := 0 ∉ asBytes text

instance : DecidablePred Bindable := fun text => inferInstanceAs (Decidable (0 ∉ asBytes text))

theorem bindText_ok {text : String} (h : Bindable text) : bindText text = .ok () := if_neg h

theorem bindText_error {text : String} (h : ¬ Bindable text) :
    bindText text = .error (.database "text param contains a NUL byte") :=
  if_pos (not_not.mp h)

theorem bindText_eq_ok {text : String} {u : Unit} (h : bindText text = .ok u) : Bindable text := by
  by_contra hnot
  rw [bindText_error hnot] at h
  cases h

def hasConversation (db : Database) (id : String) : Bool :=
  db.conversations.any fun c => c.id == id

/-- `REFERENCES conversations(id)`, with `foreign_keys = ON`. -/
def checkForeignKey (db : Database) (id : String) : Except StorageError Unit :=
  if db.hasConversation id then .ok () else .error (.database "FOREIGN KEY constraint failed")

/-! ## Identity -/

/-- Store (or replace) the single identity row; `created_at` stays. -/
def saveIdentity (db : Database) (record : IdentityRecord) : Except StorageError Database := do
  bindText record.deviceId
  let createdAt := (db.identity.map IdentityRecord.createdAt).getD record.createdAt
  return { db with identity := some { record with createdAt } }

def loadIdentity (db : Database) : Option IdentityRecord := db.identity

/-! ## Conversations -/

/-- The tables with a conversation.  Of a row with the same id all but the
creation time is replaced. -/
def withConversation (db : Database) (record : ConversationRecord) : Database :=
  { db with
    conversations := upsertBy (fun c => c.id == record.id)
      (fun c => { record with createdAt := c.createdAt }) record db.conversations }

/-- Insert or update a conversation. -/
def upsertConversation (db : Database) (record : ConversationRecord) :
    Except StorageError Database := do
  bindText record.id
  return db.withConversation record

theorem upsertConversation_ok {record : ConversationRecord} (h : Bindable record.id)
    (db : Database) : db.upsertConversation record = .ok (db.withConversation record) := by
  unfold upsertConversation
  rw [bindText_ok h]
  rfl

theorem upsertConversation_error {record : ConversationRecord} (h : ¬ Bindable record.id)
    (db : Database) :
    db.upsertConversation record = .error (.database "text param contains a NUL byte") := by
  unfold upsertConversation
  rw [bindText_error h]
  rfl

theorem hasConversation_withConversation (db : Database) (record : ConversationRecord)
    (id : String) :
    (db.withConversation record).hasConversation id =
      (db.hasConversation id || record.id == id) := by
  unfold hasConversation withConversation
  refine any_upsertBy (fun c => c.id == id) ?_ ?_ db.conversations
  · exact fun _ _ => rfl
  · intro r hr
    rw [beq_iff_eq.mp hr]

theorem sessions_upsertConversation {db db' : Database} {record : ConversationRecord}
    (h : db.upsertConversation record = .ok db') : db'.sessions = db.sessions := by
  obtain ⟨_, -, h⟩ := Except.bind_eq_ok.mp h
  rw [← Except.ok.inj h, withConversation]

/-! ## Sessions -/

variable [Serde (SessionKeys B)] [Serde (RatchetSnapshot B)]

/-- The row of a session state. -/
def sessionRow (conversationId : String) (state : SessionState B) : SessionRow :=
  { conversationId
    isInitiator := state.isInitiator
    sessionKeys := Serde.toVec state.sessionKeys
    ratchetState := state.ratchet.map Serde.toVec
    lastUsed := state.lastUsed }

/-- The tables with a row of `sessions`. -/
def withSession (db : Database) (row : SessionRow) : Database :=
  { db with
    sessions := upsertBy (fun r => r.conversationId == row.conversationId) (fun _ => row) row
      db.sessions }

/-- Persist the session state of a conversation (upsert). -/
def saveSession (db : Database) (conversationId : String) (state : SessionState B) :
    Except StorageError Database := do
  bindText conversationId
  db.checkForeignKey conversationId
  return db.withSession (sessionRow conversationId state)

theorem saveSession_ok {db : Database} {conversationId : String} (hid : Bindable conversationId)
    (hconversation : db.hasConversation conversationId = true) (state : SessionState B) :
    db.saveSession conversationId state =
      .ok (db.withSession (sessionRow conversationId state)) := by
  unfold saveSession checkForeignKey
  rw [bindText_ok hid, if_pos hconversation]
  rfl

theorem saveSession_error {db : Database} {conversationId : String}
    (h : ¬ (Bindable conversationId ∧ db.hasConversation conversationId = true))
    (state : SessionState B) : ∃ e, db.saveSession conversationId state = .error e := by
  unfold saveSession checkForeignKey
  by_cases hid : Bindable conversationId
  · rw [bindText_ok hid, if_neg fun hconversation => h ⟨hid, hconversation⟩]
    exact ⟨_, rfl⟩
  · rw [bindText_error hid]
    exact ⟨_, rfl⟩

/-- Read a row of `sessions` back. -/
def readSession (row : SessionRow) : Except StorageError (SessionState B) :=
  match (Serde.fromSlice row.sessionKeys : Option (SessionKeys B)) with
  | none => .error .serialization
  | some sessionKeys =>
    match row.ratchetState with
    | none =>
      .ok { isInitiator := row.isInitiator, sessionKeys, ratchet := none, lastUsed := row.lastUsed }
    | some text =>
      match (Serde.fromSlice text : Option (RatchetSnapshot B)) with
      | none => .error .serialization
      | some ratchet =>
        .ok { isInitiator := row.isInitiator, sessionKeys, ratchet := some ratchet,
              lastUsed := row.lastUsed }

/-- Load the persisted session of a conversation. -/
def loadSession (db : Database) (conversationId : String) :
    Except StorageError (Option (SessionState B)) := do
  bindText conversationId
  match db.sessions.find? fun row => row.conversationId == conversationId with
  | none => return none
  | some row => return some (← readSession row)

/-! ## Messages -/

/-- The tables with one more message. -/
def withMessage (db : Database) (record : MessageRecord) : Database :=
  { db with
    messages := db.messages ++ [{ record with id := db.lastRowId + 1 }]
    lastRowId := db.lastRowId + 1 }

/-- Insert a message, returning the row id. -/
def insertMessage (db : Database) (record : MessageRecord) :
    Except StorageError (Database × Int) := do
  bindText record.conversationId
  bindText record.header
  if db.messages.any fun m =>
      m.conversationId == record.conversationId && m.messageId == record.messageId then
    throw (.database "UNIQUE constraint failed: messages.conversation_id, messages.message_id")
  db.checkForeignKey record.conversationId
  return (db.withMessage record, db.lastRowId + 1)

omit [Serde (SessionKeys B)] [Serde (RatchetSnapshot B)] in
theorem sessions_insertMessage {db db' : Database} {record : MessageRecord} {row : Int}
    (h : db.insertMessage record = .ok (db', row)) : db'.sessions = db.sessions := by
  unfold insertMessage at h
  obtain ⟨_, -, h⟩ := Except.bind_eq_ok.mp h
  obtain ⟨_, -, h⟩ := Except.bind_eq_ok.mp h
  split at h
  next => cases h
  next =>
    obtain ⟨_, -, h⟩ := Except.bind_eq_ok.mp h
    obtain ⟨rfl, -⟩ := Prod.mk.inj (Except.ok.inj h)
    rfl

/-- The schema takes the row. -/
structure Accepts (db : Database) (record : MessageRecord) : Prop where
  conversationId : Bindable record.conversationId
  header : Bindable record.header
  unique : ∀ m ∈ db.messages,
    ¬ (m.conversationId = record.conversationId ∧ m.messageId = record.messageId)
  conversation : db.hasConversation record.conversationId = true

omit [Serde (SessionKeys B)] [Serde (RatchetSnapshot B)] in
theorem insertMessage_ok {db : Database} {record : MessageRecord} (h : db.Accepts record) :
    db.insertMessage record = .ok (db.withMessage record, db.lastRowId + 1) := by
  have hunique : (db.messages.any fun m =>
      m.conversationId == record.conversationId && m.messageId == record.messageId) = false := by
    simpa using h.unique
  unfold insertMessage checkForeignKey
  rw [bindText_ok h.conversationId, bindText_ok h.header, hunique, if_pos h.conversation]
  rfl

omit [Serde (SessionKeys B)] [Serde (RatchetSnapshot B)] in
theorem insertMessage_eq_ok {db db' : Database} {record : MessageRecord} {row : Int}
    (h : db.insertMessage record = .ok (db', row)) :
    db.Accepts record ∧ db' = db.withMessage record ∧ row = db.lastRowId + 1 := by
  unfold insertMessage at h
  obtain ⟨_, hid, h⟩ := Except.bind_eq_ok.mp h
  obtain ⟨_, hheader, h⟩ := Except.bind_eq_ok.mp h
  split at h
  next => cases h
  next hunique =>
    obtain ⟨_, hconversation, h⟩ := Except.bind_eq_ok.mp h
    obtain ⟨rfl, rfl⟩ := Prod.mk.inj (Except.ok.inj h)
    refine ⟨⟨bindText_eq_ok hid, bindText_eq_ok hheader, by simpa using hunique, ?_⟩, rfl, rfl⟩
    unfold checkForeignKey at hconversation
    split at hconversation
    next hhas => exact hhas
    next => cases hconversation

/-- Update the delivery status of a message. -/
def updateMessageStatus (db : Database) (id : Int) (status : MessageStatus) : Database :=
  { db with messages := db.messages.map fun m => if m.id = id then { m with status } else m }

/-- Ids are distinct, and the sequence is at or above all of them. -/
structure Sequenced (db : Database) : Prop where
  bounded : ∀ m ∈ db.messages, m.id ≤ db.lastRowId
  distinct : (db.messages.map MessageRecord.id).Nodup

/-- List messages of a conversation, newest first. -/
def listMessages (db : Database) (conversationId : String) (beforeId : Option Int)
    (limit : Int) : Except StorageError (List MessageRecord) := do
  bindText conversationId
  let rows := db.messages.filter fun m =>
    m.conversationId == conversationId && beforeId.all (decide <| m.id < ·)
  return Keyset.limited limit (rows.mergeSort fun m m' => decide (m'.id ≤ m.id))

/-! ## Reading back -/

variable [LawfulSerde (SessionKeys B)] [LawfulSerde (RatchetSnapshot B)]

theorem readSession_sessionRow (conversationId : String) (state : SessionState B) :
    readSession (sessionRow conversationId state) = .ok state := by
  obtain ⟨isInitiator, sessionKeys, ratchet, lastUsed⟩ := state
  unfold readSession sessionRow
  cases ratchet with
  | none => simp only [fromSlice_toVec, Option.map_none]
  | some ratchet => simp only [fromSlice_toVec, Option.map_some]

/-- What was saved last is what is loaded. -/
theorem loadSession_saveSession {db db' : Database} {conversationId : String}
    {state : SessionState B} (h : db.saveSession conversationId state = .ok db') :
    db'.loadSession conversationId = .ok (some state) := by
  unfold saveSession at h
  obtain ⟨_, hbind, h⟩ := Except.bind_eq_ok.mp h
  obtain ⟨_, -, h⟩ := Except.bind_eq_ok.mp h
  obtain rfl := Except.ok.inj h
  have hfind : (db.withSession (sessionRow conversationId state)).sessions.find?
      (fun r => r.conversationId == conversationId) = some (sessionRow conversationId state) := by
    show (upsertBy (fun r => r.conversationId == conversationId) _ _ db.sessions).find? _ = _
    rw [find?_upsertBy]
    · cases db.sessions.find? _ <;> rfl
    · exact fun _ _ => beq_self_eq_true conversationId
    · exact beq_self_eq_true conversationId
  unfold loadSession
  simp only [hbind, hfind, readSession_sessionRow]
  rfl

end Database
end Presidium
