import Presidium.Lib.Table
import Presidium.Lib.Machine
import Presidium.Storage.Pagination

/-!
# The whole store

`Database` has the tables that the demo node uses.  `Tables` adds the others of
the schema, `sender_keys`, `media`, `docs` and `devices`, with the rest of the
statements of `store.rs`.  The table `prekeys` has a model of its own.

A call of the store is a `StoreCall`, and `call` runs it.  A call that fails
leaves the tables as they are: each is one statement, and a statement that
breaks a constraint has no effect.
-/

namespace Presidium

variable {B : Nat → Type}

/-- SenderKey chain state for a group member. -/
structure SenderKeyRecord where
  groupId : String
  senderClassical : Bytes
  chainKey : Bytes
  messageIndex : Int
  keyId : Int
  updatedAt : Int
  deriving DecidableEq

inductive MediaKind where
  | image
  | audio
  | video
  | file
  deriving DecidableEq, Repr

/-- The number in the column `kind`. -/
def MediaKind.toInt : MediaKind → Int
  | .image => 0
  | .audio => 1
  | .video => 2
  | .file => 3

def mediaKindFromI64 (kind : Int) : MediaKind :=
  if kind = 0 then .image else if kind = 1 then .audio else if kind = 2 then .video else .file

theorem mediaKindFromI64_toInt (kind : MediaKind) : mediaKindFromI64 kind.toInt = kind := by
  cases kind <;> rfl

/-- Stored media attachment metadata. -/
structure MediaRecord where
  id : String
  messageId : Option Int
  kind : MediaKind
  encryptionKey : Bytes
  size : Int
  relativePath : String
  createdAt : Int
  deriving DecidableEq

/-- A row of `media`. -/
structure MediaRow where
  id : String
  messageId : Option Int
  kind : Int
  encryptionKey : Bytes
  size : Int
  relativePath : String
  createdAt : Int
  deriving DecidableEq

/-- The row that `insert_media` binds. -/
def MediaRecord.toRow (record : MediaRecord) : MediaRow :=
  { id := record.id
    messageId := record.messageId
    kind := record.kind.toInt
    encryptionKey := record.encryptionKey
    size := record.size
    relativePath := record.relativePath
    createdAt := record.createdAt }

/-- The closure that reads a row of `media`. -/
def mediaFromRow (row : MediaRow) : MediaRecord :=
  { id := row.id
    messageId := row.messageId
    kind := mediaKindFromI64 row.kind
    encryptionKey := row.encryptionKey
    size := row.size
    relativePath := row.relativePath
    createdAt := row.createdAt }

theorem mediaFromRow_toRow (record : MediaRecord) : mediaFromRow record.toRow = record := by
  show { record with kind := mediaKindFromI64 record.kind.toInt } = record
  rw [mediaKindFromI64_toInt]

/-- A row of `docs`. -/
structure DocRow where
  id : String
  ydoc : Bytes
  updatedAt : Int
  deriving DecidableEq

/-- A known device of a linked identity. -/
structure DeviceRecord where
  deviceId : String
  classical : Bytes
  pq : Bytes
  lastSeen : Option Int
  deriving DecidableEq

structure Tables where
  db : Database
  senderKeys : List SenderKeyRecord
  media : List MediaRow
  docs : List DocRow
  devices : List DeviceRecord
  deriving DecidableEq

namespace Database

/-- Load a conversation by id. -/
def loadConversation (db : Database) (id : String) :
    Except StorageError (Option ConversationRecord) := do
  bindText id
  return db.conversations.find? fun c => c.id == id

/-- List all conversations, newest first. -/
def listConversations (db : Database) : List ConversationRecord :=
  db.conversations.mergeSort fun c c' => decide (c'.createdAt ≤ c.createdAt)

/-- Delete a session (e.g. after a session reset). -/
def deleteSession (db : Database) (conversationId : String) : Except StorageError Database := do
  bindText conversationId
  return { db with sessions := db.sessions.filter fun r => r.conversationId ≠ conversationId }

/-- Look up a message by its sender-assigned id. -/
def loadMessageByUid (db : Database) (conversationId : String) (messageId : Bytes) :
    Except StorageError (Option MessageRecord) := do
  bindText conversationId
  return db.messages.find? fun m => m.conversationId == conversationId && m.messageId == messageId

end Database

namespace Tables

/-- The tables after the migrations ran on a new file. -/
def empty : Tables :=
  { db := .empty, senderKeys := [], media := [], docs := [], devices := [] }

/-! ## Sender keys -/

/-- Upsert a group sender key chain. -/
def upsertSenderKey (t : Tables) (record : SenderKeyRecord) : Except StorageError Tables := do
  Database.bindText record.groupId
  return { t with
    senderKeys := upsertBy
      (fun r => r.groupId == record.groupId && r.senderClassical == record.senderClassical)
      (fun _ => record) record t.senderKeys }

/-- Load the sender key chain for a group member. -/
def loadSenderKey (t : Tables) (groupId : String) (senderClassical : Bytes) :
    Except StorageError (Option SenderKeyRecord) := do
  Database.bindText groupId
  return t.senderKeys.find? fun r => r.groupId == groupId && r.senderClassical == senderClassical

/-! ## Media -/

/-- `REFERENCES messages(id)`; the column may be null. -/
def checkMessageKey (t : Tables) (messageId : Option Int) : Except StorageError Unit :=
  if messageId.all fun id => t.db.messages.any fun m => m.id == id then .ok ()
  else .error (.database "FOREIGN KEY constraint failed")

/-- Insert a media record. -/
def insertMedia (t : Tables) (record : MediaRecord) : Except StorageError Tables := do
  Database.bindText record.id
  Database.bindText record.relativePath
  if t.media.any fun r => r.id == record.id then
    throw (.database "UNIQUE constraint failed: media.id")
  t.checkMessageKey record.messageId
  return { t with media := t.media ++ [record.toRow] }

/-- Load a media record by id. -/
def loadMedia (t : Tables) (id : String) : Except StorageError (Option MediaRecord) := do
  Database.bindText id
  return (t.media.find? fun r => r.id == id).map mediaFromRow

/-- List media attached to a message, oldest first. -/
def listMediaForMessage (t : Tables) (messageId : Int) : List MediaRecord :=
  ((t.media.filter fun r => r.messageId == some messageId).mergeSort
    fun r r' => decide (r.createdAt ≤ r'.createdAt)).map mediaFromRow

/-! ## CRDT documents -/

/-- Persist a CRDT document update blob; `now` is the time of the call. -/
def saveDoc (t : Tables) (id : String) (ydocBytes : Bytes) (now : Int) :
    Except StorageError Tables := do
  Database.bindText id
  let row : DocRow := { id, ydoc := ydocBytes, updatedAt := now }
  return { t with docs := upsertBy (fun r => r.id == id) (fun _ => row) row t.docs }

/-- Load a persisted CRDT document blob. -/
def loadDoc (t : Tables) (id : String) : Except StorageError (Option Bytes) := do
  Database.bindText id
  return (t.docs.find? fun r => r.id == id).map DocRow.ydoc

/-- Delete a CRDT document. -/
def deleteDoc (t : Tables) (id : String) : Except StorageError Tables := do
  Database.bindText id
  return { t with docs := t.docs.filter fun r => r.id ≠ id }

/-! ## Devices -/

/-- Upsert a known device of a linked identity. -/
def upsertDevice (t : Tables) (record : DeviceRecord) : Except StorageError Tables := do
  Database.bindText record.deviceId
  return { t with
    devices := upsertBy (fun r => r.deviceId == record.deviceId) (fun _ => record) record
      t.devices }

/-- List all known devices, in the order of their ids. -/
def listDevices (t : Tables) : List DeviceRecord :=
  t.devices.mergeSort fun r r' => decide (r.deviceId ≤ r'.deviceId)

end Tables

/-! ## Calls -/

/-- A call of the store, with its arguments. -/
inductive StoreCall (B : Nat → Type) where
  | saveIdentity (record : IdentityRecord)
  | loadIdentity
  | upsertConversation (record : ConversationRecord)
  | loadConversation (id : String)
  | listConversations
  | saveSession (conversationId : String) (state : SessionState B)
  | loadSession (conversationId : String)
  | deleteSession (conversationId : String)
  | insertMessage (record : MessageRecord)
  | listMessages (conversationId : String) (beforeId : Option Int) (limit : Int)
  | loadMessageByUid (conversationId : String) (messageId : Bytes)
  | updateMessageStatus (id : Int) (status : MessageStatus)
  | upsertSenderKey (record : SenderKeyRecord)
  | loadSenderKey (groupId : String) (senderClassical : Bytes)
  | insertMedia (record : MediaRecord)
  | loadMedia (id : String)
  | listMediaForMessage (messageId : Int)
  | saveDoc (id : String) (ydocBytes : Bytes) (now : Int)
  | loadDoc (id : String)
  | deleteDoc (id : String)
  | upsertDevice (record : DeviceRecord)
  | listDevices

/-- What a call returns when it succeeds. -/
inductive StoreAnswer (B : Nat → Type) where
  | done
  | rowId (id : Int)
  | identity (record : Option IdentityRecord)
  | conversation (record : Option ConversationRecord)
  | conversations (records : List ConversationRecord)
  | session (state : Option (SessionState B))
  | message (record : Option MessageRecord)
  | messages (records : List MessageRecord)
  | senderKey (record : Option SenderKeyRecord)
  | media (record : Option MediaRecord)
  | mediaList (records : List MediaRecord)
  | doc (ydocBytes : Option Bytes)
  | devices (records : List DeviceRecord)

namespace Tables

variable [Serde (SessionKeys B)] [Serde (RatchetSnapshot B)]

/-- Run a call on the tables. -/
def call (t : Tables) : StoreCall B → Except StorageError (Tables × StoreAnswer B)
  | .saveIdentity record => do return ({ t with db := ← t.db.saveIdentity record }, .done)
  | .loadIdentity => return (t, .identity t.db.loadIdentity)
  | .upsertConversation record => do
    return ({ t with db := ← t.db.upsertConversation record }, .done)
  | .loadConversation id => do return (t, .conversation (← t.db.loadConversation id))
  | .listConversations => return (t, .conversations t.db.listConversations)
  | .saveSession conversationId state => do
    return ({ t with db := ← t.db.saveSession conversationId state }, .done)
  | .loadSession conversationId => do return (t, .session (← t.db.loadSession conversationId))
  | .deleteSession conversationId => do
    return ({ t with db := ← t.db.deleteSession conversationId }, .done)
  | .insertMessage record => do
    let (db, id) ← t.db.insertMessage record
    return ({ t with db }, .rowId id)
  | .listMessages conversationId beforeId limit => do
    return (t, .messages (← t.db.listMessages conversationId beforeId limit))
  | .loadMessageByUid conversationId messageId => do
    return (t, .message (← t.db.loadMessageByUid conversationId messageId))
  | .updateMessageStatus id status =>
    return ({ t with db := t.db.updateMessageStatus id status }, .done)
  | .upsertSenderKey record => do return (← t.upsertSenderKey record, .done)
  | .loadSenderKey groupId senderClassical => do
    return (t, .senderKey (← t.loadSenderKey groupId senderClassical))
  | .insertMedia record => do return (← t.insertMedia record, .done)
  | .loadMedia id => do return (t, .media (← t.loadMedia id))
  | .listMediaForMessage messageId => return (t, .mediaList (t.listMediaForMessage messageId))
  | .saveDoc id ydocBytes now => do return (← t.saveDoc id ydocBytes now, .done)
  | .loadDoc id => do return (t, .doc (← t.loadDoc id))
  | .deleteDoc id => do return (← t.deleteDoc id, .done)
  | .upsertDevice record => do return (← t.upsertDevice record, .done)
  | .listDevices => return (t, .devices t.listDevices)

/-- The tables after a call. -/
def after (t : Tables) (c : StoreCall B) : Tables :=
  match t.call c with
  | .ok (t', _) => t'
  | .error _ => t

/-- What the caller sees of a call. -/
def answer (t : Tables) (c : StoreCall B) : Except StorageError (StoreAnswer B) :=
  (t.call c).map Prod.snd

theorem call_of_answer {t : Tables} {c : StoreCall B} {e : StorageError}
    (h : t.answer c = .error e) : t.call c = .error e := by
  unfold answer at h
  cases hcall : t.call c with
  | ok r =>
    rw [hcall] at h
    cases h
  | error e' =>
    rw [hcall] at h
    rw [Except.error.inj h]

/-- The store as a machine that takes any call at any time. -/
def machine (B : Nat → Type) [Serde (SessionKeys B)] [Serde (RatchetSnapshot B)] :
    Machine Tables (StoreCall B) where
  step := after
  Enabled := fun _ _ => True

end Tables
end Presidium
