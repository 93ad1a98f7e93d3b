import Mathlib.Data.List.Basic
import Presidium.Lib.Machine
import Presidium.Sqleet.Footprint

/-!
# The life of a database handle

A life starts with one of the two constructors.  What comes out is a connection,
which may be handed to `Database::finish`, used in any way, and ends by `close`
or by being dropped.  Ownership is the guard of the machine: an operation takes
place only while its receiver is owned.  The engine answers every operation as
it likes.

`perform_step` says once what an operation does to the stage and which calls it
makes.  A handle is closed once and left alone then if and only if the engine
did not give it out with an error code and the life does not end by `close`
(`handles_closed_once_iff`): the error return of the constructors leaks the
handle, and `close` is followed by the destructor.
-/

namespace Presidium.Sqleet

open Calls (World Makes call)
open EngineCall (Touches)
open Outcome (state)

/-! ## Lives -/

/-- The ways to use a connection.  A transaction is its statements, the last one
of which is that of `commit` or of the dropped guard. -/
inductive Use where
  | key (key : Bytes)
  | execute (sql : String) (params : List Param)
  | executeBatch (sql : String)
  | queryRow (sql : String) (params : List Param) (map : RowMap Unit)
  | queryRows (sql : String) (params : List Param) (map : RowMap Unit)
  | lastInsertRowid
  | busyTimeout (millis : Nat)
  | pragmaI64 (name : String)
  | pragmaSetString (name value : String)
  | transaction
  | commit
  | rollback
  | runMigrations (migrations : List String)

/-- The program of a use; its value goes to the caller. -/
def Use.program (c : Connection) : Use → EngineM SqlError Unit
  | key k => c.key k
  | execute sql params => do let _ ← c.execute sql params; pure ()
  | executeBatch sql => c.executeBatch sql
  | queryRow sql params map => do let _ ← c.queryRow sql params map; pure ()
  | queryRows sql params map => do let _ ← c.queryRows sql params map; pure ()
  | lastInsertRowid => do let _ ← c.lastInsertRowid; pure ()
  | busyTimeout millis => c.busyTimeout millis
  | pragmaI64 name => do let _ ← c.pragmaI64 name; pure ()
  | pragmaSetString name value => c.pragmaSetString name value
  | transaction => c.transaction
  | commit => c.commit
  | rollback => c.rollback
  | runMigrations migrations => Sqleet.runMigrations migrations c

/-- A use makes calls on the handle and does not close it. -/
theorem makes_use (c : Connection) (u : Use) : Makes (Touches c.db) (u.program c) := by
  cases u with
  | key k => exact makes_checked ⟨rfl, nofun⟩
  | execute sql params => exact Makes.bind (c.makes_execute sql params) fun _ => Makes.pure ()
  | executeBatch sql => exact c.makes_executeBatch sql
  | queryRow sql params map =>
    exact Makes.bind (c.makes_queryRow sql params map) fun _ => Makes.pure ()
  | queryRows sql params map =>
    exact Makes.bind (c.makes_queryRows sql params map) fun _ => Makes.pure ()
  | lastInsertRowid =>
    exact Makes.bind (Makes.bind (Makes.call ⟨rfl, nofun⟩) fun _ => Makes.pure _) fun _ =>
      Makes.pure ()
  | busyTimeout millis => exact makes_checked ⟨rfl, nofun⟩
  | pragmaI64 name => exact Makes.bind (c.makes_pragmaI64 name) fun _ => Makes.pure ()
  | pragmaSetString name value => exact c.makes_executeBatch _
  | transaction => exact c.makes_executeBatch _
  | commit => exact c.makes_executeBatch _
  | rollback => exact c.makes_executeBatch _
  | runMigrations migrations => exact makes_runMigrations migrations c

/-- Who owns the handle. -/
inductive Stage where
  | fresh
  | connection (c : Connection)
  | database (c : Connection)
  /-- The constructor has failed, or the value is gone. -/
  | ended
  deriving DecidableEq

def Stage.held : Stage → Option Connection
  | connection c => some c
  | database c => some c
  | fresh => none
  | ended => none

inductive Op where
  | openFile (path : Option String)
  | openInMemory
  | finish (key : Bytes)
  | use (u : Use)
  | close
  | drop

/-- An operation, and how the engine answers its calls. -/
structure Event where
  op : Op
  answers : List Answer

abbrev CallLog := List (EngineCall × Answer)

section Life

variable (migrations : List String)

/-- A constructor gives a connection or an error. -/
def enter (w : World EngineCall Answer) (x : EngineM SqlError Connection) : Stage × CallLog :=
  match x w with
  | .ok c w' => (.connection c, w'.calls)
  | .error _ w' => (.ended, w'.calls)

/-- An operation on the stage, and the calls that it makes. -/
def perform (s : Stage) (e : Event) : Stage × CallLog :=
  let w : World EngineCall Answer := { answers := e.answers, calls := [] }
  match s, e.op with
  | .fresh, .openFile path => enter w (Connection.open path)
  | .fresh, .openInMemory => enter w Connection.openInMemory
  | .connection c, .finish key =>
    match Database.finish migrations c key w with
    | .ok _ w' => (.database c, w'.calls)
    | .error _ w' => (.ended, w'.calls)
  | .connection c, .use u => (.connection c, (state (u.program c w)).calls)
  | .database c, .use u => (.database c, (state (u.program c w)).calls)
  | .connection c, .close => (.ended, (state (c.close w)).calls)
  | .database c, .close => (.ended, (state (Database.close c w)).calls)
  | .connection c, .drop => (.ended, (state ((c.drop : EngineM SqlError Unit) w)).calls)
  | .database c, .drop => (.ended, (state ((c.drop : EngineM SqlError Unit) w)).calls)
  | s, _ => (s, [])

/-- The receiver of the operation is owned. -/
def Op.allowed : Stage → Op → Bool
  | .fresh, .openFile _ => true
  | .fresh, .openInMemory => true
  | .connection _, .finish _ => true
  | .connection _, .use _ => true
  | .database _, .use _ => true
  | .connection _, .close => true
  | .database _, .close => true
  | .connection _, .drop => true
  | .database _, .drop => true
  | _, _ => false

/-- Lives of a handle. -/
def life : Machine Stage Event where
  step s e := (perform migrations s e).1
  Enabled s e := e.op.allowed s = true

instance (s : Stage) (e : Event) : Decidable ((life migrations).Enabled s e) :=
  inferInstanceAs (Decidable (e.op.allowed s = true))

/-- The engine calls of a life. -/
def callsOf (events : List Event) : CallLog :=
  (life migrations).trace (fun s e => (perform migrations s e).2) .fresh events

end Life

/-! ## What an operation does -/

/-- The answer to `sqlite3_open_v2` has no handle, or it has one and says so. -/
def Answer.Sound (a : Answer) : Prop := a.pointer = none ∨ a.code = SQLITE_OK

/-- The conditions on an operation: the engine gives out no handle with an error
code, and the life does not end by `close`. -/
def Event.Clean (e : Event) : Prop :=
  match e.op with
  | .openFile (some path) => Presidium.Database.Bindable path → (e.answers.headD default).Sound
  | .openInMemory => (e.answers.headD default).Sound
  | .close => False
  | _ => True

/-- What an operation does to the stage, which calls it makes, and whether it is
clean. -/
inductive LifeStep (e : Event) : Stage → Stage → CallLog → Prop where
  /-- The path is not one for the engine. -/
  | refused (hclean : e.Clean) : LifeStep e .fresh .ended []
  /-- The engine gives out no handle. -/
  | failed (filename : String) (a : Answer) (hnull : a.pointer = none) (hclean : e.Clean) :
    LifeStep e .fresh .ended [(.openV2 filename, a)]
  | opened (filename : String) (a : Answer) (db : Handle) (hhandle : a.pointer = some db)
    (hclean : e.Clean) : LifeStep e .fresh (.connection ⟨db⟩) [(.openV2 filename, a)]
  /-- The constructor returns the error of a handle that it forgets. -/
  | leaked (filename : String) (a m : Answer) (db : Handle) (hhandle : a.pointer = some db)
    (hclean : ¬ e.Clean) : LifeStep e .fresh .ended [(.openV2 filename, a), (.errmsg db, m)]
  | used {s s' : Stage} (c : Connection) (log : CallLog) (hbefore : s.held = some c)
    (hafter : s'.held = some c) (htouches : ∀ k ∈ log, Touches c.db k.1) (hclean : e.Clean) :
    LifeStep e s s' log
  | dropped {s : Stage} (c : Connection) (log : CallLog) (a : Answer) (hbefore : s.held = some c)
    (htouches : ∀ k ∈ log, Touches c.db k.1) (hclean : e.Clean) :
    LifeStep e s .ended (log ++ [(.closeV2 c.db, a)])
  /-- The destructor closes what `close` has closed. -/
  | closed {s : Stage} (c : Connection) (log : CallLog) (a a' : Answer)
    (hbefore : s.held = some c) (hclean : ¬ e.Clean) :
    LifeStep e s .ended ((.closeV2 c.db, a) :: log ++ [(.closeV2 c.db, a')])

section Steps

variable {w : World EngineCall Answer}

/-- The calls of a program that starts with an empty log. -/
theorem calls_of_makes {ε α : Type} {C : EngineCall → Prop} {x : EngineM ε α} (hx : Makes C x)
    (hw : w.calls = []) : ∀ k ∈ (state (x w)).calls, C k.1 := by
  obtain ⟨more, hmore, hkind⟩ := (hx w).calls
  rw [hmore, hw]
  exact hkind

theorem cString_ok (message : String) {text : String} (h : Presidium.Database.Bindable text) :
    cString message text w = .ok () w := by
  unfold cString
  rw [if_pos h]
  rfl

theorem cString_error (message : String) {text : String}
    (h : ¬ Presidium.Database.Bindable text) :
    cString message text w = .error ⟨SQLITE_OK, message⟩ w := by
  unfold cString
  rw [if_neg h]
  rfl

theorem check_error (db : Handle) {code : Int} (h : code ≠ SQLITE_OK) :
    ∃ err, check db code w = .error err (w.after (.errmsg db)) := by
  unfold check
  rw [if_neg h]
  exact ⟨_, rfl⟩

theorem openV2_eq (filename : String) :
    Connection.openV2 filename w =
      (match w.answer.pointer with
        | none => throw ⟨w.answer.code, "failed to allocate connection"⟩
        | some db => do
          check db w.answer.code
          pure { db } : EngineM SqlError Connection) (w.after (.openV2 filename)) := rfl

theorem openV2_of_none (filename : String) (h : w.answer.pointer = none) :
    ∃ err, Connection.openV2 filename w = .error err (w.after (.openV2 filename)) := by
  rw [openV2_eq, h]
  exact ⟨_, rfl⟩

theorem openV2_of_ok (filename : String) {db : Handle} (h : w.answer.pointer = some db)
    (hcode : w.answer.code = SQLITE_OK) :
    Connection.openV2 filename w = .ok ⟨db⟩ (w.after (.openV2 filename)) := by
  rw [openV2_eq, h, hcode]
  rfl

theorem openV2_of_error (filename : String) {db : Handle} (h : w.answer.pointer = some db)
    (hcode : w.answer.code ≠ SQLITE_OK) :
    ∃ err, Connection.openV2 filename w =
      .error err ((w.after (.openV2 filename)).after (.errmsg db)) := by
  obtain ⟨err, hcheck⟩ := check_error (w := w.after (.openV2 filename)) db hcode
  rw [openV2_eq, h]
  exact ⟨err, Outcome.bind_error hcheck⟩

theorem enter_openV2 {e : Event} (filename : String)
    (hclean : e.Clean ↔ (e.answers.headD default).Sound) :
    LifeStep e .fresh (enter ⟨e.answers, []⟩ (Connection.openV2 filename)).1
      (enter ⟨e.answers, []⟩ (Connection.openV2 filename)).2 := by
  unfold enter
  cases hpointer : (e.answers.headD default).pointer with
  | none =>
    obtain ⟨err, hrun⟩ := openV2_of_none (w := ⟨e.answers, []⟩) filename hpointer
    rw [hrun]
    exact .failed filename _ hpointer (hclean.mpr (.inl hpointer))
  | some db =>
    by_cases hcode : (e.answers.headD default).code = SQLITE_OK
    · rw [openV2_of_ok (w := ⟨e.answers, []⟩) filename hpointer hcode]
      exact .opened filename _ db hpointer (hclean.mpr (.inr hcode))
    · obtain ⟨err, hrun⟩ := openV2_of_error (w := ⟨e.answers, []⟩) filename hpointer hcode
      rw [hrun]
      refine .leaked filename _ _ db hpointer fun h => ?_
      rcases hclean.mp h with hnone | hok
      · rw [hpointer] at hnone
        cases hnone
      · exact hcode hok

/-- `close` closes, may ask for the message, and is followed by the
destructor. -/
theorem calls_close (c : Connection) (hw : w.calls = []) :
    ∃ log a a', (state (c.close w)).calls =
      (.closeV2 c.db, a) :: log ++ [(.closeV2 c.db, a')] := by
  obtain ⟨more, hmore, -⟩ :=
    (makes_check c.db w.answer.code (w.after (.closeV2 c.db))).calls
  have hfirst : (w.after (.closeV2 c.db)).calls = [(.closeV2 c.db, w.answer)] := by
    show w.calls ++ _ = _
    rw [hw]
    rfl
  unfold Connection.close Calls.dropping
  rw [Outcome.bind_ok (x := call (.closeV2 c.db)) (s := w) rfl]
  cases hcheck : check c.db w.answer.code (w.after (.closeV2 c.db)) with
  | ok u w' =>
    rw [hcheck] at hmore
    refine ⟨more, w.answer, w'.answer, ?_⟩
    show w'.calls ++ _ = _
    rw [show w'.calls = _ from hmore, hfirst]
    rfl
  | error err w' =>
    rw [hcheck] at hmore
    refine ⟨more, w.answer, w'.answer, ?_⟩
    show w'.calls ++ _ = _
    rw [show w'.calls = _ from hmore, hfirst]
    rfl

theorem state_databaseClose (c : Connection) :
    state (Database.close c w) = state (c.close w) := by
  unfold Database.close EStateM.adaptExcept
  cases c.close w <;> rfl

end Steps

section Operations

variable {answers : List Answer}

theorem enter_open (path : Option String) :
    LifeStep ⟨.openFile path, answers⟩ .fresh
      (enter ⟨answers, []⟩ (Connection.open path)).1
      (enter ⟨answers, []⟩ (Connection.open path)).2 := by
  cases path with
  | none => exact .refused trivial
  | some filename =>
    by_cases hpath : Presidium.Database.Bindable filename
    · have hopen : ∀ w, Connection.open (some filename) w = Connection.openV2 filename w :=
        fun w => Outcome.bind_ok (cString_ok _ hpath)
      have hclean : Event.Clean ⟨.openFile (some filename), answers⟩ ↔
          (answers.headD default).Sound := ⟨fun h => h hpath, fun h _ => h⟩
      unfold enter
      rw [hopen]
      exact enter_openV2 (e := ⟨.openFile (some filename), answers⟩) filename hclean
    · have hopen : ∀ w, Connection.open (some filename) w = .error _ w :=
        fun w => Outcome.bind_error (cString_error _ hpath)
      unfold enter
      rw [hopen]
      exact .refused fun h => absurd h hpath

/-- A `finish` that fails drops the connection. -/
theorem perform_finish (migrations : List String) (c : Connection) (key : Bytes) :
    LifeStep ⟨.finish key, answers⟩ (.connection c)
      (perform migrations (.connection c) ⟨.finish key, answers⟩).1
      (perform migrations (.connection c) ⟨.finish key, answers⟩).2 := by
  have htouches := calls_of_makes (makes_setUp migrations c key) (w := ⟨answers, []⟩) rfl
  simp only [perform, Database.finish, Calls.onError]
  cases hrun : Database.setUp migrations c key ⟨answers, []⟩ with
  | ok u w' =>
    rw [hrun] at htouches
    exact .used c _ rfl rfl htouches trivial
  | error err w' =>
    rw [hrun] at htouches
    exact .dropped c w'.calls _ rfl htouches trivial

theorem step_close {s : Stage} {c : Connection} (hheld : s.held = some c) :
    LifeStep ⟨.close, answers⟩ s .ended (state (c.close ⟨answers, []⟩)).calls := by
  obtain ⟨more, a, a', hcalls⟩ := calls_close (w := ⟨answers, []⟩) c rfl
  rw [hcalls]
  exact .closed c more a a' hheld id

end Operations

/-- What an operation does whose receiver is owned. -/
theorem perform_step (migrations : List String) {s : Stage} {e : Event}
    (hallowed : e.op.allowed s = true) :
    LifeStep e s (perform migrations s e).1 (perform migrations s e).2 := by
  obtain ⟨op, answers⟩ := e
  cases s with
  | fresh =>
    cases op with
    | openFile path => exact enter_open path
    | openInMemory => exact enter_openV2 (e := ⟨.openInMemory, answers⟩) ":memory:" Iff.rfl
    | _ => cases hallowed
  | connection c =>
    cases op with
    | finish key => exact perform_finish migrations c key
    | use u => exact .used c _ rfl rfl (calls_of_makes (makes_use c u) rfl) trivial
    | close => exact step_close rfl
    | drop => exact .dropped c [] _ rfl (by simp) trivial
    | _ => cases hallowed
  | database c =>
    cases op with
    | use u => exact .used c _ rfl rfl (calls_of_makes (makes_use c u) rfl) trivial
    | close =>
      show LifeStep _ _ .ended (state (Database.close c _)).calls
      rw [state_databaseClose]
      exact step_close rfl
    | drop => exact .dropped c [] _ rfl (by simp) trivial
    | _ => cases hallowed
  | ended => cases op <;> cases hallowed

/-! ## Closed once -/

/-- The number of times that a handle is passed to `sqlite3_close_v2`. -/
def closings (log : CallLog) (db : Handle) : Nat :=
  log.countP fun k => decide (k.1 = .closeV2 db)

/-- A handle is closed exactly once, and no call on it follows. -/
structure ClosedOnce (log : CallLog) (db : Handle) : Prop where
  once : closings log db = 1
  silent : ∀ before k after, log = before ++ k :: after → k.1 = .closeV2 db →
    ∀ k' ∈ after, k'.1.on ≠ some db

/-- Every handle that the engine has given out is closed once. -/
def Balanced (log : CallLog) : Prop :=
  ∀ filename a db, (EngineCall.openV2 filename, a) ∈ log → a.pointer = some db → ClosedOnce log db

/-- The log of a handle in use. -/
structure InUse (c : Connection) (log : CallLog) : Prop where
  opened : ∃ filename a rest, log = (EngineCall.openV2 filename, a) :: rest ∧
    a.pointer = some c.db ∧ ∀ k ∈ rest, Touches c.db k.1

namespace InUse

variable {c : Connection} {log more : CallLog}

theorem append (h : InUse c log) (hmore : ∀ k ∈ more, Touches c.db k.1) :
    InUse c (log ++ more) := by
  obtain ⟨filename, a, rest, rfl, hhandle, hrest⟩ := h.opened
  refine ⟨filename, a, rest ++ more, rfl, hhandle, ?_⟩
  intro k hk
  exact (List.mem_append.mp hk).elim (hrest k) (hmore k)

/-- A handle in use is not closed. -/
theorem ne_close (h : InUse c log) : ∀ k ∈ log, k.1 ≠ .closeV2 c.db := by
  obtain ⟨filename, a, rest, rfl, -, hrest⟩ := h.opened
  intro k hk
  rcases List.mem_cons.mp hk with rfl | hk
  · exact nofun
  · exact (hrest k hk).keeps

theorem closings_eq (h : InUse c log) : closings log c.db = 0 := by
  rw [closings, List.countP_eq_zero]
  intro k hk
  simpa using h.ne_close k hk

/-- The engine has given out one handle. -/
theorem handle_eq (h : InUse c log) {filename : String} {a : Answer} {db : Handle}
    (hmem : (EngineCall.openV2 filename, a) ∈ log) (hhandle : a.pointer = some db) :
    db = c.db := by
  obtain ⟨filename', a', rest, rfl, hhandle', hrest⟩ := h.opened
  rcases List.mem_cons.mp hmem with hsame | hmem
  · cases hsame
    exact Option.some.inj (hhandle.symm.trans hhandle')
  · exact absurd (hrest _ hmem).on nofun

/-- The destructor balances the log. -/
theorem balanced (h : InUse c log) (a : Answer) :
    Balanced (log ++ [(.closeV2 c.db, a)]) := by
  intro filename a' db hmem hhandle
  have hopened : (EngineCall.openV2 filename, a') ∈ log := by
    rcases List.mem_append.mp hmem with hmem | hmem
    · exact hmem
    · cases List.mem_singleton.mp hmem
  obtain rfl := h.handle_eq hopened hhandle
  refine ⟨?_, ?_⟩
  · rw [closings, List.countP_append]
    show closings log c.db + _ = 1
    rw [h.closings_eq]
    simp
  · intro before k after hsplit hk
    rcases List.eq_nil_or_concat' after with rfl | ⟨after', k', rfl⟩
    · simp
    · -- the close is the last call
      rw [← List.cons_append, ← List.append_assoc] at hsplit
      have hlog := (List.append_inj' hsplit rfl).1
      exact absurd hk (h.ne_close k (by rw [hlog]; simp))

theorem mem_opened (h : InUse c log) :
    ∃ filename a, (EngineCall.openV2 filename, a) ∈ log ∧ a.pointer = some c.db := by
  obtain ⟨filename, a, rest, rfl, hhandle, -⟩ := h.opened
  exact ⟨filename, a, List.mem_cons_self, hhandle⟩

/-- Two closings are one too many. -/
theorem not_balanced (h : InUse c log) (a a' : Answer) :
    ¬ Balanced (log ++ ((.closeV2 c.db, a) :: more ++ [(.closeV2 c.db, a')])) := by
  intro hbalanced
  obtain ⟨filename, b, hmem, hhandle⟩ := h.mem_opened
  have honce := (hbalanced filename b c.db (List.mem_append_left _ hmem) hhandle).once
  simp only [closings, List.countP_append, List.countP_cons, List.countP_nil, decide_true,
    if_true] at honce
  omega

end InUse

/-- A handle that no one owns is not closed. -/
theorem leaked_not_balanced (filename : String) {a : Answer} (m : Answer) {db : Handle}
    (hhandle : a.pointer = some db) :
    ¬ Balanced [(.openV2 filename, a), (.errmsg db, m)] := by
  intro hbalanced
  have honce := (hbalanced filename a db List.mem_cons_self hhandle).once
  simp [closings] at honce

/-! ## Whole lives -/

/-- What holds at a stage, after operations that were clean or not. -/
def LifeInv (clean : Prop) (log : CallLog) : Stage → Prop
  | .fresh => clean ∧ log = []
  | .connection c => clean ∧ InUse c log
  | .database c => clean ∧ InUse c log
  | .ended => Balanced log ↔ clean

theorem LifeInv.of_held {clean : Prop} {log : CallLog} {s : Stage} {c : Connection}
    (hheld : s.held = some c) : LifeInv clean log s ↔ clean ∧ InUse c log := by
  cases s with
  | connection c' =>
    cases hheld
    exact Iff.rfl
  | database c' =>
    cases hheld
    exact Iff.rfl
  | fresh => cases hheld
  | ended => cases hheld

theorem LifeInv.step {clean : Prop} {log more : CallLog} {s s' : Stage} {e : Event}
    (h : LifeInv clean log s) (hstep : LifeStep e s s' more) :
    LifeInv (clean ∧ e.Clean) (log ++ more) s' := by
  cases hstep with
  | refused hclean =>
    obtain ⟨hbefore, rfl⟩ := h
    exact iff_of_true (fun _ _ _ hmem => absurd hmem List.not_mem_nil) ⟨hbefore, hclean⟩
  | failed filename a hnull hclean =>
    obtain ⟨hbefore, rfl⟩ := h
    refine iff_of_true ?_ ⟨hbefore, hclean⟩
    intro filename' a' db hmem hhandle
    cases List.mem_singleton.mp hmem
    rw [hnull] at hhandle
    cases hhandle
  | opened filename a db hhandle hclean =>
    obtain ⟨hbefore, rfl⟩ := h
    exact ⟨⟨hbefore, hclean⟩, filename, a, [], rfl, hhandle, by simp⟩
  | leaked filename a m db hhandle hclean =>
    obtain ⟨-, rfl⟩ := h
    exact iff_of_false (leaked_not_balanced filename m hhandle) fun h => hclean h.2
  | used c log' hbefore hafter htouches hclean =>
    obtain ⟨hall, huse⟩ := (LifeInv.of_held hbefore).mp h
    exact (LifeInv.of_held hafter).mpr ⟨⟨hall, hclean⟩, huse.append htouches⟩
  | dropped c log' a hbefore htouches hclean =>
    obtain ⟨hall, huse⟩ := (LifeInv.of_held hbefore).mp h
    refine iff_of_true ?_ ⟨hall, hclean⟩
    rw [← List.append_assoc]
    exact (huse.append htouches).balanced a
  | closed c log' a a' hbefore hclean =>
    obtain ⟨-, huse⟩ := (LifeInv.of_held hbefore).mp h
    exact iff_of_false (huse.not_balanced a a') fun h => hclean h.2

theorem LifeInv.run (migrations : List String) (events : List Event) :
    ∀ {clean : Prop} {log : CallLog} {s : Stage}, LifeInv clean log s →
      (life migrations).Valid s events →
      LifeInv (clean ∧ ∀ e ∈ events, e.Clean)
        (log ++ (life migrations).trace (fun s e => (perform migrations s e).2) s events)
        ((life migrations).run s events) := by
  induction events with
  | nil =>
    intro clean log s h _
    simpa [Machine.trace] using h
  | cons e events ih =>
    intro clean log s h hvalid
    have hnext := ih (h.step (perform_step migrations hvalid.1)) hvalid.2
    rw [List.append_assoc, and_assoc, ← List.forall_mem_cons] at hnext
    exact hnext

/-- In every life that has come to its end, every handle is closed exactly once,
with no engine call after it, if and only if the engine gave out no handle with
an error code and the life did not end by `close`. -/
theorem handles_closed_once_iff (migrations : List String) {events : List Event}
    (hvalid : (life migrations).Valid .fresh events)
    (hended : (life migrations).run .fresh events = .ended) :
    Balanced (callsOf migrations events) ↔ ∀ e ∈ events, e.Clean := by
  have hstart : LifeInv True [] Stage.fresh := ⟨trivial, rfl⟩
  have hinv := LifeInv.run migrations events hstart hvalid
  rw [hended, true_and] at hinv
  exact hinv

/-- The engine opens handle 1, in memory. -/
def openedInMemory : Event := ⟨.openInMemory, [{ code := SQLITE_OK, pointer := some 1 }]⟩

/-- A statement runs, and then the setting up fails at the key. -/
def refusedKey : List Event :=
  [openedInMemory, ⟨.use (.executeBatch "VACUUM"), [{ code := SQLITE_OK }]⟩, ⟨.finish [7], []⟩]

theorem handles_closed_once_refusedKey :
    callsOf [] refusedKey =
        [(.openV2 ":memory:", { code := SQLITE_OK, pointer := some 1 }),
          (.exec 1 "VACUUM", { code := SQLITE_OK }), (.key 1 [7], default), (.errmsg 1, default),
          (.closeV2 1, default)] ∧
      Balanced (callsOf [] refusedKey) := by
  have hvalid : (life []).Valid .fresh refusedKey := by decide +kernel
  have hended : (life []).run .fresh refusedKey = .ended := by decide +kernel
  refine ⟨by decide +kernel, (handles_closed_once_iff [] hvalid hended).mpr ?_⟩
  intro e he
  simp only [refusedKey, List.mem_cons, List.not_mem_nil, or_false] at he
  rcases he with rfl | rfl | rfl
  · exact .inr rfl
  · trivial
  · trivial

/-- A connection is closed right after it is opened. -/
def closedLife : List Event :=
  [openedInMemory, ⟨.close, [{ code := SQLITE_OK }, { code := SQLITE_OK }]⟩]

/-- The engine cannot open the file (`SQLITE_CANTOPEN`), but gives out a handle
for the error message. -/
def failedOpen : List Event :=
  [⟨.openFile (some "/root"), [{ code := 14, pointer := some 1 }]⟩]

/-- A handle that is closed by `close` is closed again by the destructor, and a
handle that comes with an error code is never closed. -/
theorem handles_not_closed_once :
    ((life []).Valid .fresh closedLife ∧ (life []).run .fresh closedLife = .ended ∧
        ((callsOf [] closedLife).map Prod.fst) = [.openV2 ":memory:", .closeV2 1, .closeV2 1] ∧
        ¬ Balanced (callsOf [] closedLife)) ∧
      (life []).Valid .fresh failedOpen ∧ (life []).run .fresh failedOpen = .ended ∧
        ((callsOf [] failedOpen).map Prod.fst) = [.openV2 "/root", .errmsg 1] ∧
        ¬ Balanced (callsOf [] failedOpen) := by
  have hclosed : callsOf [] closedLife =
      [(.openV2 ":memory:", { code := SQLITE_OK, pointer := some 1 }),
        (.closeV2 1, { code := SQLITE_OK }), (.closeV2 1, { code := SQLITE_OK })] := by
    decide +kernel
  have hleaked : callsOf [] failedOpen =
      [(.openV2 "/root", { code := 14, pointer := some 1 }), (.errmsg 1, default)] := by
    decide +kernel
  refine ⟨⟨by decide +kernel, by decide +kernel, by rw [hclosed]; rfl, ?_⟩,
    by decide +kernel, by decide +kernel, by rw [hleaked]; rfl, ?_⟩
  · rw [hclosed]
    intro hbalanced
    have honce := (hbalanced ":memory:" _ 1 List.mem_cons_self rfl).once
    revert honce
    decide
  · rw [hleaked]
    exact leaked_not_balanced "/root" default rfl

end Presidium.Sqleet
