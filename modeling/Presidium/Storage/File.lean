import Mathlib.Data.List.Sort
import Presidium.Crypto.Primitives
import Presidium.Lib.Keyset
import Presidium.Storage.Transaction

/-!
# Migrations and prekeys of `presidium-storage`

The two places that use the transaction guard: `run_migrations` and
`take_one_time_prekey`, with the other statements on the `prekeys` table.  Of
the database file the model has the schema version, the names of the tables and
indexes, and the rows of `prekeys`.
-/

namespace Presidium

/-- A row of the `prekeys` table. -/
structure PrekeyRow where
  keyId : Int
  kind : Int
  classical : Bytes
  pq : Bytes
  publicClassical : Bytes
  publicPq : Bytes
  signature : Bytes
  createdAt : Int
  deriving DecidableEq

structure DatabaseFile where
  userVersion : Int
  /-- Tables and indexes. -/
  objects : List String
  prekeys : List PrekeyRow
  deriving DecidableEq

/-! ## Migrations -/

/-- `CREATE TABLE` and `CREATE INDEX`: a name can be used once. -/
def createObject (name : String) (file : DatabaseFile) : Option DatabaseFile :=
  if name ∈ file.objects then none else some { file with objects := file.objects ++ [name] }

def setUserVersion (version : Int) (file : DatabaseFile) : Option DatabaseFile :=
  some { file with userVersion := version }

/-- Schema migrations, applied in order. -/
def MIGRATIONS : List (String × List (DatabaseFile → Option DatabaseFile)) :=
  [("0001_init.sql",
    [createObject "identity",
      createObject "prekeys",
      createObject "idx_prekeys_kind",
      createObject "conversations",
      createObject "sessions",
      createObject "messages",
      createObject "idx_messages_conversation",
      createObject "idx_messages_uid",
      createObject "sender_keys",
      createObject "media",
      createObject "docs",
      createObject "devices"])]

/-- The statements of one migration. -/
def migrationBody (target : Int) (sql : List (DatabaseFile → Option DatabaseFile)) :
    SqlM DatabaseFile Unit := do
  Connection.executeBatch sql
  Connection.executeBatch [setUserVersion target]

/-- The loop of `run_migrations`, from the migration with the given index on. -/
def migrateFrom (current : Int) :
    Nat → List (String × List (DatabaseFile → Option DatabaseFile)) → SqlM DatabaseFile Unit
  | _, [] => pure ()
  | index, (_, sql) :: rest => do
    let target : Int := index + 1
    if target ≤ current then
      migrateFrom current (index + 1) rest
    else
      withTransaction (migrationBody target sql)
      migrateFrom current (index + 1) rest

/-- Apply pending schema migrations. -/
def runMigrations : SqlM DatabaseFile Unit := do
  let current ← Connection.query DatabaseFile.userVersion
  migrateFrom current 0 MIGRATIONS

/-! ## Prekeys -/

inductive PreKeyKind where
  /-- Signed prekey, rotated infrequently. -/
  | signed
  /-- One-time prekey, consumed by a single handshake. -/
  | oneTime
  deriving DecidableEq, Repr

def PreKeyKind.toInt : PreKeyKind → Int
  | .signed => 0
  | .oneTime => 1

/-- A stored prekey with its public parts. -/
structure PreKeyRecord where
  keyId : Int
  kind : PreKeyKind
  classical : Bytes
  pq : Bytes
  publicClassical : Bytes
  publicPq : Bytes
  signature : Bytes
  createdAt : Int
  deriving DecidableEq

/-- The row that `save_prekey` binds. -/
def PreKeyRecord.toRow (record : PreKeyRecord) : PrekeyRow :=
  { keyId := record.keyId
    kind := record.kind.toInt
    classical := record.classical
    pq := record.pq
    publicClassical := record.publicClassical
    publicPq := record.publicPq
    signature := record.signature
    createdAt := record.createdAt }

def prekeyFromRow (row : PrekeyRow) : PreKeyRecord :=
  { keyId := row.keyId
    kind := if row.kind = 0 then .signed else .oneTime
    classical := row.classical
    pq := row.pq
    publicClassical := row.publicClassical
    publicPq := row.publicPq
    signature := row.signature
    createdAt := row.createdAt }

namespace DatabaseFile

/-- `INSERT OR REPLACE INTO prekeys`. -/
def replacePrekey (row : PrekeyRow) (file : DatabaseFile) : Option DatabaseFile :=
  some { file with prekeys := file.prekeys.filter (fun r => r.keyId ≠ row.keyId) ++ [row] }

/-- `DELETE FROM prekeys WHERE key_id = ?1`. -/
def deleteKey (keyId : Int) (file : DatabaseFile) : Option DatabaseFile :=
  some { file with prekeys := file.prekeys.filter (fun r => r.keyId ≠ keyId) }

/-- `FROM prekeys WHERE kind = ?1`. -/
def prekeysOf (kind : PreKeyKind) (file : DatabaseFile) : List PrekeyRow :=
  file.prekeys.filter fun r => r.kind = kind.toInt

/-- `ORDER BY key_id`. -/
def sortedPrekeysOf (kind : PreKeyKind) (file : DatabaseFile) : List PrekeyRow :=
  (file.prekeysOf kind).insertionSort fun a b => a.keyId ≤ b.keyId

end DatabaseFile

/-- Insert a signed or one-time prekey. -/
def savePrekey (record : PreKeyRecord) : SqlM DatabaseFile Unit :=
  Connection.execute (DatabaseFile.replacePrekey record.toRow)

/-- List stored prekeys of a kind, oldest first. -/
def listPrekeys (kind : PreKeyKind) (limit : Int) : SqlM DatabaseFile (List PreKeyRecord) :=
  Connection.query fun file =>
    (Keyset.limited limit (file.sortedPrekeysOf kind)).map prekeyFromRow

/-- Count stored prekeys of a kind. -/
def countPrekeys (kind : PreKeyKind) : SqlM DatabaseFile Int :=
  Connection.query fun file => (file.prekeysOf kind).length

/-- The statements of `take_one_time_prekey` inside its transaction. -/
def takeBody : SqlM DatabaseFile (Option PreKeyRecord) := do
  let record ← Connection.query fun file =>
    (file.sortedPrekeysOf .oneTime).head?.map prekeyFromRow
  match record with
  | some r => do
    Connection.execute (DatabaseFile.deleteKey r.keyId)
    return some r
  | none => return none

/-- Atomically take (consume) the oldest one-time prekey. -/
def takeOneTimePrekey : SqlM DatabaseFile (Option PreKeyRecord) := withTransaction takeBody

/-- Delete a prekey by id. -/
def deletePrekey (keyId : Int) : SqlM DatabaseFile Unit :=
  Connection.execute (DatabaseFile.deleteKey keyId)

end Presidium
