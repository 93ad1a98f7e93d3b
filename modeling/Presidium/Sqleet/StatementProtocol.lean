import Presidium.Lib.Protocol
import Presidium.Sqleet.HandleLife

/-!
# The protocol of prepared statements

The engine trusts its caller with statements.  A statement is bound before its
first step, one parameter after the other; a column is read only while there is
a row; after the last row or an error nothing is left to do but to finalize;
and a statement that was finalized, or is not finalized when the connection is
closed, is not to be touched.  `Phase` is this protocol as an automaton.

Every method keeps to it, whatever the engine answers and on every exit: that is
`keeps_…`, method by method, with the rules of `Keeps`.
-/

namespace Presidium.Sqleet

open Calls (World Keeps call collectAll follow)
open Outcome (state)

/-! ## The protocol -/

/-- The statement that a call is about. -/
def EngineCall.statement : EngineCall → Option (Handle × StmtPtr)
  | finalize db stmt | bind db stmt _ _ | step db stmt | columnType db stmt _
  | columnInt64 db stmt _ | columnBlob db stmt _ | columnBytes db stmt _ => some (db, stmt)
  | openV2 _ | closeV2 _ | key _ _ | errcode _ | errmsg _ | exec _ _ | prepareV2 _ _
  | lastInsertRowid _ | busyTimeout _ _ | changes _ => none

inductive Phase where
  /-- There is no statement. -/
  | idle
  /-- The parameter to bind next. -/
  | bound (db : Handle) (stmt : StmtPtr) (next : Nat)
  /-- The last step has given a row. -/
  | row (db : Handle) (stmt : StmtPtr)
  /-- The last row is read, or the engine has failed. -/
  | spent (db : Handle) (stmt : StmtPtr)
  deriving DecidableEq

namespace Phase

/-- The statement that is to be finalized. -/
def live : Phase → Option (Handle × StmtPtr)
  | idle => none
  | bound db stmt _ => some (db, stmt)
  | row db stmt => some (db, stmt)
  | spent db stmt => some (db, stmt)

/-- What a step leads to. -/
def stepped (db : Handle) (stmt : StmtPtr) (a : Answer) : Phase :=
  if a.code = SQLITE_ROW then .row db stmt else .spent db stmt

/-- The protocol of a connection.  No two statements live at the same time. -/
def next : Phase → EngineCall → Answer → Option Phase
  | idle, .prepareV2 db _, a => some (a.pointer.elim .idle fun stmt => .bound db stmt 1)
  | idle, k, _ => if k.statement = none then some .idle else none
  | bound db stmt n, .bind db' stmt' i _, a =>
    if (db', stmt') = (db, stmt) ∧ i = n then
      some (if a.code = SQLITE_OK then .bound db stmt (n + 1) else .spent db stmt)
    else none
  | bound db stmt _, .step db' stmt', a | row db stmt, .step db' stmt', a =>
    if (db', stmt') = (db, stmt) then some (stepped db stmt a) else none
  | row db stmt, .columnType db' stmt' _, _ | row db stmt, .columnInt64 db' stmt' _, _
  | row db stmt, .columnBlob db' stmt' _, _ | row db stmt, .columnBytes db' stmt' _, _ =>
    if (db', stmt') = (db, stmt) then some (.row db stmt) else none
  | p, .finalize db stmt, _ => if p.live = some (db, stmt) then some .idle else none
  | p, .errmsg db, _ | p, .errcode db, _ | p, .changes db, _ =>
    if p.live.map Prod.fst = some db then some p else none
  | _, _, _ => none

end Phase

open Phase (next)

/-- The statement of the wrapper is the one to be finalized. -/
def Statement.Live (s : Statement) (p : Phase) : Prop := p.live = some (s.db, s.stmt)

/-- The statement may take a step. -/
def Statement.Ready (s : Statement) (p : Phase) : Prop :=
  (∃ n, p = .bound s.db s.stmt n) ∨ p = .row s.db s.stmt

/-- The engine may be asked about its last error. -/
def Phase.MayAsk (db : Handle) (p : Phase) : Prop := ∀ h, p.live = some h → h.1 = db

theorem Statement.Ready.live {s : Statement} {p : Phase} (h : s.Ready p) : s.Live p := by
  rcases h with ⟨n, rfl⟩ | rfl
  · rfl
  · rfl

theorem Statement.Live.mayAsk {s : Statement} {p : Phase} (h : s.Live p) : p.MayAsk s.db := by
  intro k hk
  rw [h] at hk
  cases hk
  rfl

theorem Phase.mayAsk_idle (db : Handle) : Phase.idle.MayAsk db := nofun

/-! ## Calls on no statement, and about errors -/

/-- The calls that may come with a statement but are not about it. -/
def EngineCall.Asks (db : Handle) (k : EngineCall) : Prop :=
  k = .errmsg db ∨ k = .errcode db ∨ k = .changes db

theorem next_ask {db : Handle} {k : EngineCall} (hk : k.Asks db) {p : Phase} (h : p.MayAsk db)
    (a : Answer) : next p k a = some p := by
  cases p with
  | idle => rcases hk with rfl | rfl | rfl <;> rfl
  | bound db' stmt n =>
    rcases hk with rfl | rfl | rfl <;> exact if_pos (congrArg some (h _ rfl))
  | row db' stmt => rcases hk with rfl | rfl | rfl <;> exact if_pos (congrArg some (h _ rfl))
  | spent db' stmt => rcases hk with rfl | rfl | rfl <;> exact if_pos (congrArg some (h _ rfl))

theorem next_finalize {s : Statement} {p : Phase} (h : s.Live p) (a : Answer) :
    next p (.finalize s.db s.stmt) a = some .idle := by
  cases p with
  | idle => cases h
  | bound db stmt n => exact if_pos h
  | row db stmt => exact if_pos h
  | spent db stmt => exact if_pos h

section Methods

variable {P : Phase → Prop}

theorem keeps_check {db : Handle} (hP : ∀ p, P p → p.MayAsk db) (code : Int) :
    Keeps next P (check db code) (fun _ p => P p ∧ code = SQLITE_OK) P := by
  unfold check
  split
  next hcode => exact Keeps.pure fun p hp => ⟨hp, hcode⟩
  next =>
    refine Keeps.bind (Keeps.call fun p a hp => ?_) fun _ => Keeps.throw fun _ hp => hp
    exact ⟨p, next_ask (.inl rfl) (hP p hp) a, hp⟩

theorem keeps_cString (message text : String) :
    Keeps next P (cString message text) (fun _ => P) P := by
  unfold cString
  split
  · exact Keeps.pure fun _ hp => hp
  · exact Keeps.throw fun _ hp => hp

/-- A call that needs no statement. -/
theorem keeps_plain {ε : Type} {E : Phase → Prop} {k : EngineCall}
    (hk : ∀ a, next .idle k a = some .idle) :
    Keeps next (· = .idle) (call k : EngineM ε Answer) (fun _ p => p = .idle) E := by
  refine Keeps.call fun p a hp => ?_
  subst hp
  exact ⟨.idle, hk a, rfl⟩

/-- And a look at its code. -/
theorem keeps_checked {db : Handle} {k : EngineCall} (hk : ∀ a, next .idle k a = some .idle) :
    Keeps next (· = .idle) (do let a ← call k; check db a.code) (fun _ p => p = .idle)
      (· = .idle) := by
  refine Keeps.bind (keeps_plain hk) fun a => ?_
  refine (keeps_check (fun p hp => ?_) a.code).mono (fun _ hp => hp) (fun _ _ hp => hp.1)
    fun _ hp => hp
  rw [hp]
  exact Phase.mayAsk_idle db

namespace Statement

theorem keeps_prepare (db : Handle) (sql : String) :
    Keeps next (· = .idle) (prepare db sql)
      (fun s p => s.db = db ∧ p = .bound s.db s.stmt 1) (· = .idle) := by
  refine Keeps.bind (keeps_cString _ _) fun _ => ?_
  refine Keeps.bind (Q := fun a p => p = a.pointer.elim .idle fun stmt => .bound db stmt 1)
    (Keeps.call fun p a hp => ?_) fun a => ?_
  · subst hp
    exact ⟨_, rfl, rfl⟩
  · cases a.pointer with
    | some stmt => exact Keeps.pure fun p hp => ⟨rfl, hp⟩
    | none =>
      simp only [Option.elim_none]
      split
      · exact Keeps.throw fun _ hp => hp
      · refine Keeps.bind (Keeps.call fun p a hp => ?_) fun _ => Keeps.throw fun _ hp => hp
        subst hp
        exact ⟨_, rfl, rfl⟩

variable (s : Statement)

theorem keeps_error {α : Type} {Q : α → Phase → Prop} :
    Keeps next s.Live (s.error : EngineM SqlError α) Q s.Live := by
  refine Keeps.bind (Keeps.call fun p a hp => ⟨p, next_ask (.inl rfl) hp.mayAsk a, hp⟩) fun _ => ?_
  refine Keeps.bind (Keeps.call fun p a hp => ⟨p, next_ask (.inr (.inl rfl)) hp.mayAsk a, hp⟩) fun _ => ?_
  exact Keeps.throw fun _ hp => hp

theorem keeps_bindFrom (params : List Param) (n : Nat) :
    Keeps next (· = .bound s.db s.stmt n) (s.bindFrom n params)
      (fun _ p => p = .bound s.db s.stmt (n + params.length)) s.Live := by
  induction params generalizing n with
  | nil => exact Keeps.pure fun _ hp => hp
  | cons param params ih =>
    have htext : Keeps next (· = .bound s.db s.stmt n) (ownText param)
        (fun _ p => p = .bound s.db s.stmt n) s.Live := by
      have hlive : ∀ p, p = Phase.bound s.db s.stmt n → s.Live p := by
        rintro p rfl
        rfl
      cases param with
      | text t => exact (keeps_cString _ _).mono (fun _ hp => hp) (fun _ _ hp => hp) hlive
      | _ => exact Keeps.pure fun _ hp => hp
    refine Keeps.bind htext fun _ => ?_
    -- a refused parameter ends the statement
    refine Keeps.bind
      (Q := fun a p => p =
        if a.code = SQLITE_OK then .bound s.db s.stmt (n + 1) else .spent s.db s.stmt)
      (Keeps.call fun p a hp => ?_) fun a => ?_
    · subst hp
      exact ⟨_, if_pos ⟨rfl, rfl⟩, rfl⟩
    · have hlive : ∀ p, (p = if a.code = SQLITE_OK then Phase.bound s.db s.stmt (n + 1)
          else .spent s.db s.stmt) → s.Live p := by
        rintro p rfl
        split
        · rfl
        · rfl
      refine Keeps.bind ((keeps_check (fun p hp => (hlive p hp).mayAsk) a.code).mono
        (fun _ hp => hp) (fun _ _ hp => hp) hlive) fun _ => ?_
      have hnext := ih (n + 1)
      rw [Nat.add_assoc, Nat.add_comm 1] at hnext
      refine hnext.weaken fun p hp => ?_
      rw [hp.1, if_pos hp.2]

theorem keeps_bindAll (params : List Param) :
    Keeps next (· = .bound s.db s.stmt 1) (s.bindAll params) (fun _ => s.Ready) s.Live :=
  (s.keeps_bindFrom params 1).mono (fun _ hp => hp) (fun _ _ hp => Or.inl ⟨_, hp⟩) fun _ hp => hp

theorem keeps_step :
    Keeps next s.Ready s.step (fun item p => item.elim (s.Live p) fun _ => p = .row s.db s.stmt)
      s.Live := by
  refine Keeps.bind (Q := fun a p => p = Phase.stepped s.db s.stmt a)
    (Keeps.call fun p a hp => ?_) fun a => ?_
  · rcases hp with ⟨n, rfl⟩ | rfl
    · exact ⟨_, if_pos rfl, rfl⟩
    · exact ⟨_, if_pos rfl, rfl⟩
  · have hlive : ∀ p, p = Phase.stepped s.db s.stmt a → s.Live p := by
      rintro p rfl
      unfold Phase.stepped
      split
      · rfl
      · rfl
    split
    next hrow =>
      refine Keeps.pure fun p hp => ?_
      rw [hp]
      exact if_pos hrow
    next =>
      split
      · exact Keeps.pure hlive
      · exact s.keeps_error.weaken hlive

theorem keeps_consume : Keeps next s.Ready s.consume (fun _ => s.Live) s.Live := by
  have hstep : Keeps next s.Ready s.step (fun item p => item.elim (s.Live p) fun _ => s.Ready p)
      s.Live := by
    refine s.keeps_step.mono (fun _ hp => hp) (fun item p hp => ?_) fun _ hp => hp
    cases item with
    | none => exact hp
    | some u => exact Or.inr hp
  exact (Keeps.collectAll (fun _ hp => hp.live) hstep).bind_pure fun _ _ hp => hp

/-! Reading the columns of a row. -/

theorem keeps_column {k : EngineCall}
    (hk : ∀ a, next (.row s.db s.stmt) k a = some (.row s.db s.stmt)) :
    Keeps next (· = .row s.db s.stmt) (call k : EngineM SqlError Answer)
      (fun _ p => p = .row s.db s.stmt) s.Live := by
  refine Keeps.call fun p a hp => ?_
  subst hp
  exact ⟨_, hk a, rfl⟩

theorem live_of_row {p : Phase} (h : p = .row s.db s.stmt) : s.Live p := by
  rw [h]
  rfl

theorem keeps_isNull (col : Nat) :
    Keeps next (· = .row s.db s.stmt) (s.isNull col) (fun _ p => p = .row s.db s.stmt) s.Live :=
  (s.keeps_column (k := .columnType s.db s.stmt col) fun _ => if_pos rfl).bind_pure fun _ _ hp => hp

theorem keeps_columnI64 (col : Nat) :
    Keeps next (· = .row s.db s.stmt) (s.columnI64 col) (fun _ p => p = .row s.db s.stmt) s.Live :=
  (s.keeps_column (k := .columnInt64 s.db s.stmt col) fun _ => if_pos rfl).bind_pure fun _ _ hp => hp

theorem keeps_columnBytesOwned (col : Nat) :
    Keeps next (· = .row s.db s.stmt) (s.columnBytesOwned col)
      (fun _ p => p = .row s.db s.stmt) s.Live := by
  refine Keeps.bind (s.keeps_isNull col) fun null => ?_
  cases null with
  | true =>
    -- nothing follows the error
    refine Keeps.bind (Q := fun _ _ => False) (Keeps.throw fun _ hp => s.live_of_row hp) ?_
    exact fun _ _ _ hfalse => hfalse.elim
  | false =>
    refine Keeps.bind (s.keeps_column fun _ => if_pos rfl) fun len => ?_
    refine Keeps.bind (s.keeps_column fun _ => if_pos rfl) fun ptr => ?_
    cases ptr.bytes with
    | none => exact Keeps.pure fun _ hp => hp
    | some data => exact Keeps.pure fun _ hp => hp

/-- A column is read if it is not null. -/
theorem keeps_unlessNull {α : Type} {x : EngineM SqlError α} (col : Nat) (none : α)
    (hx : Keeps next (· = .row s.db s.stmt) x (fun _ p => p = .row s.db s.stmt) s.Live) :
    Keeps next (· = .row s.db s.stmt)
      (do
        if ← s.isNull col then return none
        x)
      (fun _ p => p = .row s.db s.stmt) s.Live := by
  refine Keeps.bind (s.keeps_isNull col) fun null => ?_
  cases null with
  | true => exact Keeps.pure fun _ hp => hp
  | false => exact hx

theorem keeps_get (col : Nat) (kind : ColumnKind) :
    Keeps next (· = .row s.db s.stmt) (s.get col kind) (fun _ p => p = .row s.db s.stmt)
      s.Live := by
  have hi64 := s.keeps_columnI64 col
  have hbytes := s.keeps_columnBytesOwned col
  cases kind with
  | i64 => exact hi64.bind_pure fun _ _ hp => hp
  | bool => exact hi64.bind_pure fun _ _ hp => hp
  | string => exact hbytes.bind_pure fun _ _ hp => hp
  | bytes => exact hbytes.bind_pure fun _ _ hp => hp
  | optI64 => exact s.keeps_unlessNull col SqlValue.null (hi64.bind_pure fun _ _ hp => hp)
  | optString => exact s.keeps_unlessNull col SqlValue.null (hbytes.bind_pure fun _ _ hp => hp)
  | optBytes => exact s.keeps_unlessNull col SqlValue.null (hbytes.bind_pure fun _ _ hp => hp)

/-- Whatever the closure reads. -/
theorem keeps_apply {α : Type} (map : RowMap α) :
    Keeps next (· = .row s.db s.stmt) (map.apply s) (fun _ p => p = .row s.db s.stmt)
      s.Live := by
  have hread : ∀ columns, Keeps next (· = .row s.db s.stmt) (RowMap.readAll s columns)
      (fun _ p => p = .row s.db s.stmt) s.Live := by
    intro columns
    induction columns with
    | nil => exact Keeps.pure fun _ hp => hp
    | cons column columns ih =>
      exact Keeps.bind (s.keeps_get _ _) fun _ => ih.bind_pure fun _ _ hp => hp
  refine Keeps.bind (hread map.columns) fun values => ?_
  cases map.accept values with
  | ok a => exact Keeps.pure fun _ hp => hp
  | error e => exact Keeps.throw fun _ hp => s.live_of_row hp

theorem keeps_nextRow {α : Type} (map : RowMap α) :
    Keeps next s.Ready (s.nextRow map) (fun item p => item.elim (s.Live p) fun _ => s.Ready p)
      s.Live := by
  refine Keeps.bind s.keeps_step fun item => ?_
  cases item with
  | none => exact Keeps.pure fun _ hp => hp
  | some u => exact (s.keeps_apply map).bind_pure fun _ _ hp => Or.inr hp

end Statement

namespace Connection

variable (c : Connection)

/-- The statement of a body is finalized on both exits. -/
theorem keeps_withStatement {α : Type} (sql : String) {body : Statement → EngineM SqlError α}
    (hbody : ∀ s : Statement, s.db = c.db →
      Keeps next (· = .bound s.db s.stmt 1) (body s) (fun _ => s.Live) s.Live) :
    Keeps next (· = .idle) (c.withStatement sql body) (fun _ p => p = .idle) (· = .idle) := by
  refine Keeps.bind (Statement.keeps_prepare c.db sql) fun s => ?_
  by_cases hdb : s.db = c.db
  · refine Keeps.dropping ((hbody s hdb).weaken fun p hp => hp.2) ?_ ?_
    · exact fun _ p a hp => ⟨_, next_finalize hp a, rfl⟩
    · exact fun p a hp => ⟨_, next_finalize hp a, rfl⟩
  · intro w p hp
    exact absurd hp.1 hdb

theorem keeps_execute (sql : String) (params : List Param) :
    Keeps next (· = .idle) (c.execute sql params) (fun _ p => p = .idle) (· = .idle) := by
  refine c.keeps_withStatement sql fun s hdb => ?_
  refine Keeps.bind (s.keeps_bindAll params) fun _ => ?_
  refine Keeps.bind s.keeps_consume fun _ => ?_
  refine Keeps.bind_pure (Keeps.call fun p a hp => ?_) fun _ _ hp => hp
  exact ⟨p, next_ask (.inr (.inr rfl)) (hdb ▸ hp.mayAsk) a, hp⟩

theorem keeps_executeBatch (sql : String) :
    Keeps next (· = .idle) (c.executeBatch sql) (fun _ p => p = .idle) (· = .idle) :=
  Keeps.bind (keeps_cString _ _) fun _ => keeps_checked fun _ => rfl

theorem keeps_queryRow {α : Type} (sql : String) (params : List Param) (map : RowMap α) :
    Keeps next (· = .idle) (c.queryRow sql params map) (fun _ p => p = .idle) (· = .idle) := by
  refine c.keeps_withStatement sql fun s _ => ?_
  refine Keeps.bind (s.keeps_bindAll params) fun _ => ?_
  refine (s.keeps_nextRow map).mono (fun _ hp => hp) (fun item p hp => ?_) fun _ hp => hp
  cases item with
  | none => exact hp
  | some a => exact Statement.Ready.live hp

theorem keeps_queryRows {α : Type} (sql : String) (params : List Param) (map : RowMap α) :
    Keeps next (· = .idle) (c.queryRows sql params map) (fun _ p => p = .idle) (· = .idle) :=
  c.keeps_withStatement sql fun s _ =>
    Keeps.bind (s.keeps_bindAll params) fun _ =>
      Keeps.collectAll (fun _ hp => hp.live) (s.keeps_nextRow map)

theorem keeps_pragmaI64 (name : String) :
    Keeps next (· = .idle) (c.pragmaI64 name) (fun _ p => p = .idle) (· = .idle) :=
  (c.keeps_queryRow _ _ _).bind_pure fun _ _ hp => hp

end Connection

theorem keeps_migrate (c : Connection) (sql : String) (target : Int) :
    Keeps next (· = .idle) (migrate c sql target) (fun _ p => p = .idle) (· = .idle) := by
  refine Keeps.bind (c.keeps_executeBatch _) fun _ => ?_
  refine Keeps.bind (Keeps.onError ?_ (c.keeps_executeBatch _)) fun _ => c.keeps_executeBatch _
  exact Keeps.bind (c.keeps_executeBatch _) fun _ => c.keeps_executeBatch _

theorem keeps_runMigrations (migrations : List String) (c : Connection) :
    Keeps next (· = .idle) (runMigrations migrations c) (fun _ p => p = .idle) (· = .idle) := by
  refine Keeps.bind (c.keeps_pragmaI64 _) fun current => ?_
  have hfrom : ∀ index, Keeps next (· = .idle) (migrateFrom c current index migrations)
      (fun _ p => p = .idle) (· = .idle) := by
    induction migrations with
    | nil => exact fun _ => Keeps.pure fun _ hp => hp
    | cons sql rest ih =>
      intro index
      unfold migrateFrom
      simp only
      split
      · exact ih (index + 1)
      · exact Keeps.bind (keeps_migrate c sql _) fun _ => ih (index + 1)
  exact hfrom 0

theorem keeps_use (c : Connection) (u : Use) :
    Keeps next (· = .idle) (u.program c) (fun _ p => p = .idle) (· = .idle) := by
  cases u with
  | key k => exact keeps_checked fun _ => rfl
  | execute sql params => exact (c.keeps_execute sql params).bind_pure fun _ _ hp => hp
  | executeBatch sql => exact c.keeps_executeBatch sql
  | queryRow sql params map => exact (c.keeps_queryRow sql params map).bind_pure fun _ _ hp => hp
  | queryRows sql params map =>
    exact (c.keeps_queryRows sql params map).bind_pure fun _ _ hp => hp
  | lastInsertRowid =>
    have hcall := keeps_plain (ε := SqlError) (E := (· = .idle))
      (k := .lastInsertRowid c.db) fun _ => rfl
    exact (hcall.bind_pure fun _ _ hp => hp).bind_pure fun _ _ hp => hp
  | busyTimeout millis => exact keeps_checked fun _ => rfl
  | pragmaI64 name => exact (c.keeps_pragmaI64 name).bind_pure fun _ _ hp => hp
  | pragmaSetString name value => exact c.keeps_executeBatch _
  | transaction => exact c.keeps_executeBatch _
  | commit => exact c.keeps_executeBatch _
  | rollback => exact c.keeps_executeBatch _
  | runMigrations migrations => exact keeps_runMigrations migrations c

theorem keeps_openV2 (filename : String) :
    Keeps next (· = .idle) (Connection.openV2 filename) (fun _ p => p = .idle) (· = .idle) := by
  refine Keeps.bind (keeps_plain fun _ => rfl) fun a => ?_
  cases a.pointer with
  | none => exact Keeps.throw fun _ hp => hp
  | some db =>
    have hask : ∀ p, p = Phase.idle → p.MayAsk db := by
      rintro p rfl
      exact Phase.mayAsk_idle db
    exact Keeps.bind_pure (keeps_check hask a.code) fun _ _ hp => hp.1

theorem keeps_open (path : Option String) :
    Keeps next (· = .idle) (Connection.open path) (fun _ p => p = .idle) (· = .idle) := by
  cases path with
  | none => exact Keeps.throw fun _ hp => hp
  | some pathC => exact Keeps.bind (keeps_cString _ _) fun _ => keeps_openV2 pathC

theorem keeps_drop {ε : Type} (c : Connection) :
    Keeps next (· = .idle) (c.drop : EngineM ε Unit) (fun _ p => p = .idle) (· = .idle) :=
  (keeps_plain (k := .closeV2 c.db) fun _ => rfl).bind_pure fun _ _ hp => hp

theorem keeps_close (c : Connection) :
    Keeps next (· = .idle) c.close (fun _ p => p = .idle) (· = .idle) := by
  refine Keeps.dropping (keeps_checked fun _ => rfl) ?_ ?_
  · rintro _ p _ rfl
    exact ⟨.idle, rfl, rfl⟩
  · rintro p _ rfl
    exact ⟨.idle, rfl, rfl⟩

theorem keeps_finish (migrations : List String) (c : Connection) (key : Bytes) :
    Keeps next (· = .idle) (Database.finish migrations c key) (fun _ p => p = .idle)
      (· = .idle) := by
  refine Keeps.onError ?_ (keeps_drop c)
  refine Keeps.bind (Keeps.adaptExcept _ (keeps_checked fun _ => rfl)) fun _ => ?_
  refine Keeps.adaptExcept _ (Keeps.bind (c.keeps_executeBatch _) fun _ => ?_)
  refine Keeps.bind (c.keeps_executeBatch _) fun _ => ?_
  exact Keeps.bind (keeps_checked fun _ => rfl) fun _ => keeps_runMigrations migrations c

end Methods

end Presidium.Sqleet
