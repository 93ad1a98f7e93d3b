import Presidium.Lib.Calls
import Presidium.Storage.Database

/-!
# The sqleet wrapper: `presidium-sqleet` and the opening of the database

`Connection` and `Statement` are thin wrappers over the C interface of the
engine, and `Database` of the storage crate sets a connection up.  A method is
the program of the engine calls that it makes, with what it does on the answers.

Values are dropped where the source drops them: a statement at the end of the
method that prepared it, a connection at the end of `close`, of a `finish` that
fails, and of its owner's scope.  A call on a statement is logged with the handle
of the statement.

The lossy decoding of text columns is left out: a text is its bytes.
-/

namespace Presidium.Sqleet

open Calls (CallM World call dropping onError collectAll)

abbrev Handle := Nat

abbrev StmtPtr := Nat

def SQLITE_OK : Int := 0
def SQLITE_ROW : Int := 100
def SQLITE_DONE : Int := 101
def SQLITE_NULL : Int := 5

/-- A bound parameter value. -/
inductive Param where
  | null
  | i64 (v : Int)
  | text (s : String)
  | blob (b : Bytes)
  deriving DecidableEq

/-- The C functions of the engine.  The constants of `sqlite3_open_v2` and of
`sqlite3_prepare_v2` are left out. -/
inductive EngineCall where
  | openV2 (filename : String)
  | closeV2 (db : Handle)
  | key (db : Handle) (key : Bytes)
  | errcode (db : Handle)
  | errmsg (db : Handle)
  | exec (db : Handle) (sql : String)
  | prepareV2 (db : Handle) (sql : String)
  | finalize (db : Handle) (stmt : StmtPtr)
  | bind (db : Handle) (stmt : StmtPtr) (index : Nat) (value : Param)
  | step (db : Handle) (stmt : StmtPtr)
  | columnType (db : Handle) (stmt : StmtPtr) (col : Nat)
  | columnInt64 (db : Handle) (stmt : StmtPtr) (col : Nat)
  | columnBlob (db : Handle) (stmt : StmtPtr) (col : Nat)
  | columnBytes (db : Handle) (stmt : StmtPtr) (col : Nat)
  | lastInsertRowid (db : Handle)
  | busyTimeout (db : Handle) (ms : Int)
  | changes (db : Handle)
  deriving DecidableEq

/-- What the engine may give back: a result code or number, a pointer to a
handle or a statement, the bytes of a column, a message. -/
structure Answer where
  code : Int
  pointer : Option Nat := none
  bytes : Option Bytes := none
  message : Option String := none
  deriving DecidableEq

/-- Without a script the engine fails. -/
instance : Inhabited Answer := ⟨{ code := 1 }⟩

structure SqlError where
  code : Int
  message : String
  deriving DecidableEq

abbrev EngineM (ε : Type) := CallM ε EngineCall Answer

/-- Convert a result code into `Ok`/`Err`. -/
def check (db : Handle) (code : Int) : EngineM SqlError Unit :=
  if code = SQLITE_OK then pure ()
  else do
    let msg ← call (.errmsg db)
    throw ⟨code, msg.message.getD "unknown error"⟩

/-- A C string has no NUL byte. -/
def cString (message : String) (text : String) : EngineM SqlError Unit :=
  if Presidium.Database.Bindable text then pure () else throw ⟨SQLITE_OK, message⟩

/-! ## Statements and rows -/

/-- A prepared statement.  A row is read through the statement. -/
structure Statement where
  stmt : StmtPtr
  db : Handle

/-- The types that a column is read as. -/
inductive ColumnKind where
  | i64
  | bool
  | string
  | bytes
  | optI64
  | optString
  | optBytes

inductive SqlValue where
  | null
  | i64 (v : Int)
  | bool (b : Bool)
  | text (raw : Bytes)
  | bytes (b : Bytes)
  deriving DecidableEq

namespace Statement

def prepare (db : Handle) (sql : String) : EngineM SqlError Statement := do
  cString "SQL contains a NUL byte" sql
  let a ← call (.prepareV2 db sql)
  match a.pointer with
  | some stmt => pure { stmt, db }
  | none =>
    if a.code = SQLITE_OK then throw ⟨a.code, "no rows returned"⟩
    else do
      let msg ← call (.errmsg db)
      throw ⟨a.code, msg.message.getD "unknown error"⟩

variable (s : Statement)

/-- A text is bound as a C string. -/
def ownText : Param → EngineM SqlError Unit
  | .text t => cString "text param contains a NUL byte" t
  | _ => pure ()

/-- Bind the parameters from `index` on. -/
def bindFrom (index : Nat) : List Param → EngineM SqlError Unit
  | [] => pure ()
  | param :: params => do
    ownText param
    let a ← call (.bind s.db s.stmt index param)
    check s.db a.code
    bindFrom (index + 1) params

def bindAll (params : List Param) : EngineM SqlError Unit := s.bindFrom 1 params

def error {α : Type} : EngineM SqlError α := do
  let msg ← call (.errmsg s.db)
  let code ← call (.errcode s.db)
  throw ⟨code.code, msg.message.getD "unknown error"⟩

/-- Step once: whether there is a row. -/
def step : EngineM SqlError (Option Unit) := do
  let a ← call (.step s.db s.stmt)
  if a.code = SQLITE_ROW then pure (some ())
  else if a.code = SQLITE_DONE then pure none
  else s.error

def consume : EngineM SqlError Unit := do
  let _ ← collectAll s.step
  pure ()

def isNull (col : Nat) : EngineM SqlError Bool := do
  let a ← call (.columnType s.db s.stmt col)
  pure (a.code = SQLITE_NULL)

def columnI64 (col : Nat) : EngineM SqlError Int := do
  let a ← call (.columnInt64 s.db s.stmt col)
  pure a.code

def columnBytesOwned (col : Nat) : EngineM SqlError Bytes := do
  if ← s.isNull col then
    throw ⟨SQLITE_OK, "attempted to read a NULL column as a value"⟩
  let len ← call (.columnBytes s.db s.stmt col)
  let ptr ← call (.columnBlob s.db s.stmt col)
  match ptr.bytes with
  | none => pure []
  | some data => pure (data.take len.code.toNat)

/-- Read a column. -/
def get (col : Nat) : ColumnKind → EngineM SqlError SqlValue
  | .i64 => return .i64 (← s.columnI64 col)
  | .bool => return .bool ((← s.columnI64 col) ≠ 0)
  | .string => return .text (← s.columnBytesOwned col)
  | .bytes => return .bytes (← s.columnBytesOwned col)
  | .optI64 => do
    if ← s.isNull col then return .null
    return .i64 (← s.columnI64 col)
  | .optString => do
    if ← s.isNull col then return .null
    return .text (← s.columnBytesOwned col)
  | .optBytes => do
    if ← s.isNull col then return .null
    return .bytes (← s.columnBytesOwned col)

end Statement

/-- The closure that maps a row: it reads columns, and then accepts the values
or not. -/
structure RowMap (α : Type) where
  columns : List (Nat × ColumnKind)
  accept : List SqlValue → Except SqlError α

namespace RowMap

def readAll (s : Statement) : List (Nat × ColumnKind) → EngineM SqlError (List SqlValue)
  | [] => pure []
  | (col, kind) :: columns => do
    let v ← s.get col kind
    let vs ← readAll s columns
    pure (v :: vs)

def apply {α : Type} (map : RowMap α) (s : Statement) : EngineM SqlError α := do
  let values ← readAll s map.columns
  match map.accept values with
  | .ok a => pure a
  | .error e => throw e

end RowMap

/-- Step, and map the row if there is one. -/
def Statement.nextRow {α : Type} (s : Statement) (map : RowMap α) :
    EngineM SqlError (Option α) := do
  match ← s.step with
  | none => pure none
  | some () => return some (← map.apply s)

/-! ## Connections -/

/-- An open connection. -/
structure Connection where
  db : Handle
  deriving DecidableEq

namespace Connection

/-- What both constructors do with the handle of `sqlite3_open_v2`.  There is no
connection before the last line. -/
def openV2 (filename : String) : EngineM SqlError Connection := do
  let a ← call (.openV2 filename)
  match a.pointer with
  | none => throw ⟨a.code, "failed to allocate connection"⟩
  | some db =>
    check db a.code
    pure { db }

/-- Open a database file.  A path that is not valid UTF-8 is `none`. -/
def «open» (path : Option String) : EngineM SqlError Connection := do
  match path with
  | none => throw ⟨SQLITE_OK, "database path is not valid UTF-8"⟩
  | some pathC =>
    cString "database path contains a NUL byte" pathC
    openV2 pathC

def openInMemory : EngineM SqlError Connection := openV2 ":memory:"

variable (c : Connection)

def key (key : Bytes) : EngineM SqlError Unit := do
  let a ← call (.key c.db key)
  check c.db a.code

/-- Prepare a statement for a body, at whose end it is dropped. -/
def withStatement {α : Type} (sql : String) (body : Statement → EngineM SqlError α) :
    EngineM SqlError α := do
  let stmt ← Statement.prepare c.db sql
  dropping (.finalize stmt.db stmt.stmt) (body stmt)

def execute (sql : String) (params : List Param) : EngineM SqlError Int :=
  c.withStatement sql fun stmt => do
    stmt.bindAll params
    stmt.consume
    let a ← call (.changes c.db)
    pure a.code

def executeBatch (sql : String) : EngineM SqlError Unit := do
  cString "SQL contains a NUL byte" sql
  let a ← call (.exec c.db sql)
  check c.db a.code

def queryRow {α : Type} (sql : String) (params : List Param) (map : RowMap α) :
    EngineM SqlError (Option α) :=
  c.withStatement sql fun stmt => do
    stmt.bindAll params
    stmt.nextRow map

def queryRows {α : Type} (sql : String) (params : List Param) (map : RowMap α) :
    EngineM SqlError (List α) :=
  c.withStatement sql fun stmt => do
    stmt.bindAll params
    collectAll (stmt.nextRow map)

def lastInsertRowid : EngineM SqlError Int := do
  let a ← call (.lastInsertRowid c.db)
  pure a.code

def busyTimeout (millis : Nat) : EngineM SqlError Unit := do
  let a ← call (.busyTimeout c.db (min millis (2 ^ 31 - 1) : Nat))
  check c.db a.code

/-- The first column as an integer. -/
def scalar : RowMap Int where
  columns := [(0, .i64)]
  accept
    | [.i64 v] => .ok v
    | _ => .ok 0

def pragmaI64 (name : String) : EngineM SqlError Int := do
  let value ← c.queryRow ("PRAGMA " ++ name) [] scalar
  pure (value.getD 0)

def pragmaSetString (name value : String) : EngineM SqlError Unit :=
  c.executeBatch ("PRAGMA " ++ name ++ " = '" ++ value.replace "'" "''" ++ "'")

/-- Begin a transaction. -/
def transaction : EngineM SqlError Unit := c.executeBatch "BEGIN"

/-- Commit a transaction, whose guard is done with it then. -/
def commit : EngineM SqlError Unit := c.executeBatch "COMMIT"

/-- Drop the guard of a transaction that is not committed. -/
def rollback : EngineM SqlError Unit := c.executeBatch "ROLLBACK"

/-- The destructor. -/
def drop {ε : Type} : EngineM ε Unit := do
  let _ ← call (.closeV2 c.db)
  pure ()

/-- Close the connection.  The connection is an argument by value, so it is
dropped at the end of the call. -/
def close : EngineM SqlError Unit :=
  dropping (.closeV2 c.db) do
    let a ← call (.closeV2 c.db)
    check c.db a.code

end Connection

/-! ## The database of the storage crate -/

inductive OpenError where
  | keyDerivation (message : String)
  | database (e : SqlError)
  deriving DecidableEq

/-- One pending migration in its transaction. -/
def migrate (c : Connection) (sql : String) (target : Int) : EngineM SqlError Unit := do
  c.transaction
  onError c.rollback do
    c.executeBatch sql
    c.executeBatch ("PRAGMA user_version = " ++ toString target)
  c.commit

/-- The migrations from `index` on. -/
def migrateFrom (c : Connection) (current : Int) : Nat → List String → EngineM SqlError Unit
  | _, [] => pure ()
  | index, sql :: rest => do
    let target : Int := index + 1
    if target ≤ current then
      migrateFrom c current (index + 1) rest
    else
      migrate c sql target
      migrateFrom c current (index + 1) rest

/-- Apply the pending ones of the migrations, given by their SQL. -/
def runMigrations (migrations : List String) (c : Connection) : EngineM SqlError Unit := do
  let current ← c.pragmaI64 "user_version"
  migrateFrom c current 0 migrations

namespace Database

/-- The steps of `finish`. -/
def setUp (migrations : List String) (c : Connection) (key : Bytes) : EngineM OpenError Unit := do
  EStateM.adaptExcept
    (fun e => .keyDerivation
      ("sqleet key: sqleet error " ++ toString e.code ++ ": " ++ e.message))
    (c.key key)
  EStateM.adaptExcept .database do
    c.pragmaSetString "journal_mode" "WAL"
    c.executeBatch "PRAGMA foreign_keys = ON"
    c.busyTimeout 5000
    runMigrations migrations c

/-- Set the connection up.  It is dropped with an error, and owned by the
database otherwise. -/
def finish (migrations : List String) (c : Connection) (key : Bytes) : EngineM OpenError Unit :=
  onError c.drop (setUp migrations c key)

/-- Close the database, which hands its connection on. -/
def close (c : Connection) : EngineM OpenError Unit := EStateM.adaptExcept .database c.close

end Database

end Presidium.Sqleet
