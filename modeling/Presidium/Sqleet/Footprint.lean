import Presidium.Sqleet.Connection

/-!
# The calls of the sqleet methods

Every method of a connection and of its statements makes calls on the one
handle, and none of them closes it.  `makes_…` says so, method by method, with
the rules of `Makes`.

The two loops of the source have no bound.  `consume_eq` and `rows_eq` are their
equations.
-/

namespace Presidium.Sqleet

open Calls (CallM World Makes call collectAll)

/-! ## Calls on one handle -/

namespace EngineCall

/-- The handle that a call is made on. -/
def on : EngineCall → Option Handle
  | openV2 _ => none
  | closeV2 db | key db _ | errcode db | errmsg db | exec db _ | prepareV2 db _ | finalize db _
  | bind db _ _ _ | step db _ | columnType db _ _ | columnInt64 db _ _
  | columnBlob db _ _ | columnBytes db _ _ | lastInsertRowid db | busyTimeout db _
  | changes db => some db

/-- A call on the handle that does not close it. -/
structure Touches (db : Handle) (k : EngineCall) : Prop where
  on : k.on = some db
  keeps : k ≠ .closeV2 db

end EngineCall

open EngineCall (Touches)

section Frames

theorem makes_check (db : Handle) (code : Int) : Makes (Touches db) (check db code) := by
  unfold check
  split
  · exact Makes.pure ()
  · exact Makes.bind (Makes.call ⟨rfl, nofun⟩) fun _ => Makes.throw _

theorem makes_cString {C : EngineCall → Prop} (message text : String) :
    Makes C (cString message text) := by
  unfold cString
  split
  · exact Makes.pure ()
  · exact Makes.throw _

/-- Make a call and look at its code. -/
theorem makes_checked {db : Handle} {k : EngineCall} (hk : Touches db k) :
    Makes (Touches db) (do let a ← call k; check db a.code) :=
  Makes.bind (Makes.call hk) fun a => makes_check db a.code

namespace Statement

theorem makes_prepare (db : Handle) (sql : String) :
    Makes (Touches db) (prepare db sql) := by
  refine Makes.bind (makes_cString _ _) fun _ => ?_
  refine Makes.bind (Makes.call ⟨rfl, nofun⟩) fun a => ?_
  cases a.pointer with
  | some stmt => exact Makes.pure _
  | none =>
    simp only
    split
    · exact Makes.throw _
    · exact Makes.bind (Makes.call ⟨rfl, nofun⟩) fun _ => Makes.throw _

theorem prepare_db {db : Handle} {sql : String} {w w' : World EngineCall Answer}
    {stmt : Statement} (h : prepare db sql w = .ok stmt w') : stmt.db = db := by
  unfold prepare cString at h
  split at h
  · have hcall : call (.prepareV2 db sql) w =
        (.ok w.answer (w.after (.prepareV2 db sql)) : Outcome SqlError _ _) := rfl
    rw [pure_bind, Outcome.bind_ok hcall] at h
    cases hptr : w.answer.pointer with
    | some p =>
      rw [hptr] at h
      cases h
      rfl
    | none =>
      rw [hptr] at h
      simp only at h
      split at h
      · cases h
      · cases h
  · cases h

variable (s : Statement)

theorem makes_bindAll (params : List Param) : Makes (Touches s.db) (s.bindAll params) := by
  have hfrom : ∀ index, Makes (Touches s.db) (s.bindFrom index params) := by
    induction params with
    | nil => exact fun _ => Makes.pure ()
    | cons param params ih =>
      intro index
      have htext : Makes (Touches s.db) (ownText param) := by
        cases param with
        | text t => exact makes_cString _ _
        | _ => exact Makes.pure ()
      refine Makes.bind htext fun _ => ?_
      refine Makes.bind (Makes.call ⟨rfl, nofun⟩) fun a => ?_
      exact Makes.bind (makes_check _ _) fun _ => ih (index + 1)
  exact hfrom 1

theorem makes_error {α : Type} : Makes (Touches s.db) (s.error : EngineM SqlError α) :=
  Makes.bind (Makes.call ⟨rfl, nofun⟩) fun _ =>
    Makes.bind (Makes.call ⟨rfl, nofun⟩) fun _ => Makes.throw _

theorem makes_step : Makes (Touches s.db) s.step := by
  refine Makes.bind (Makes.call ⟨rfl, nofun⟩) fun a => ?_
  split
  · exact Makes.pure _
  · split
    · exact Makes.pure _
    · exact s.makes_error

theorem makes_consume : Makes (Touches s.db) s.consume :=
  Makes.bind (Makes.collectAll s.makes_step) fun _ => Makes.pure ()

theorem makes_isNull (col : Nat) : Makes (Touches s.db) (s.isNull col) :=
  Makes.bind (Makes.call ⟨rfl, nofun⟩) fun _ => Makes.pure _

theorem makes_columnI64 (col : Nat) : Makes (Touches s.db) (s.columnI64 col) :=
  Makes.bind (Makes.call ⟨rfl, nofun⟩) fun _ => Makes.pure _

theorem makes_columnBytesOwned (col : Nat) : Makes (Touches s.db) (s.columnBytesOwned col) := by
  refine Makes.bind (s.makes_isNull col) fun null => ?_
  cases null with
  | true =>
    -- nothing follows the error
    exact Makes.bind_of_ok (Makes.throw _) fun w a w' h => by cases h
  | false =>
    refine Makes.bind (Makes.call ⟨rfl, nofun⟩) fun len => ?_
    refine Makes.bind (Makes.call ⟨rfl, nofun⟩) fun ptr => ?_
    cases ptr.bytes with
    | none => exact Makes.pure _
    | some data => exact Makes.pure _

theorem makes_get (col : Nat) (kind : ColumnKind) : Makes (Touches s.db) (s.get col kind) := by
  cases kind with
  | i64 => exact Makes.bind (s.makes_columnI64 col) fun _ => Makes.pure _
  | bool => exact Makes.bind (s.makes_columnI64 col) fun _ => Makes.pure _
  | string => exact Makes.bind (s.makes_columnBytesOwned col) fun _ => Makes.pure _
  | bytes => exact Makes.bind (s.makes_columnBytesOwned col) fun _ => Makes.pure _
  | optI64 =>
    refine Makes.bind (s.makes_isNull col) fun null => ?_
    cases null with
    | true => exact Makes.pure _
    | false => exact Makes.bind (s.makes_columnI64 col) fun _ => Makes.pure _
  | optString =>
    refine Makes.bind (s.makes_isNull col) fun null => ?_
    cases null with
    | true => exact Makes.pure _
    | false => exact Makes.bind (s.makes_columnBytesOwned col) fun _ => Makes.pure _
  | optBytes =>
    refine Makes.bind (s.makes_isNull col) fun null => ?_
    cases null with
    | true => exact Makes.pure _
    | false => exact Makes.bind (s.makes_columnBytesOwned col) fun _ => Makes.pure _

theorem makes_apply {α : Type} (map : RowMap α) : Makes (Touches s.db) (map.apply s) := by
  have hread : ∀ columns, Makes (Touches s.db) (RowMap.readAll s columns) := by
    intro columns
    induction columns with
    | nil => exact Makes.pure []
    | cons column columns ih =>
      exact Makes.bind (s.makes_get _ _) fun _ => Makes.bind ih fun _ => Makes.pure _
  refine Makes.bind (hread map.columns) fun values => ?_
  cases map.accept values with
  | ok a => exact Makes.pure a
  | error e => exact Makes.throw e

theorem makes_nextRow {α : Type} (map : RowMap α) : Makes (Touches s.db) (s.nextRow map) := by
  refine Makes.bind s.makes_step fun row => ?_
  cases row with
  | none => exact Makes.pure none
  | some u => exact Makes.bind (s.makes_apply map) fun _ => Makes.pure _

/-! The loops of the source, which have no bound. -/

/-- A row is an answer of the script. -/
theorem step_takes : Calls.Takes s.step := by
  intro w u w' h
  change (if w.answer.code = SQLITE_ROW then pure (some ()) else _ : EngineM SqlError _)
    (w.after (.step s.db s.stmt)) = .ok (some u) w' at h
  split at h
  next hrow =>
    cases h
    show w.answers.tail.length < w.answers.length
    cases hanswers : w.answers with
    | nil =>
      -- without a script there is no row
      rw [World.answer, hanswers] at hrow
      cases hrow
    | cons a answers => simp
  next =>
    split at h
    · cases h
    · cases h

theorem nextRow_takes {α : Type} (map : RowMap α) : Calls.Takes (s.nextRow map) := by
  intro w a w' h
  unfold nextRow at h
  rw [Outcome.bind_eq] at h
  cases hstep : s.step w with
  | error e w₁ =>
    rw [hstep] at h
    cases h
  | ok row w₁ =>
    rw [hstep] at h
    cases row with
    | none => cases h
    | some u =>
      have hless := s.step_takes w u w₁ hstep
      have hmore := (s.makes_apply map w₁).answers
      change (map.apply s >>= fun a => pure (some a)) w₁ = .ok (some a) w' at h
      rw [Outcome.bind_eq] at h
      cases happly : map.apply s w₁ with
      | error e w₂ =>
        rw [happly] at h
        cases h
      | ok a' w₂ =>
        rw [happly] at h hmore
        cases h
        exact Nat.lt_of_le_of_lt hmore hless

/-- `consume` steps until there is no row. -/
theorem consume_eq (w : World EngineCall Answer) :
    s.consume w =
      match s.step w with
      | .ok none w' => .ok () w'
      | .ok (some ()) w' => s.consume w'
      | .error e w' => .error e w' := by
  unfold consume
  rw [Outcome.bind_eq, Calls.collectAll_eq s.step_takes]
  cases s.step w with
  | error e w' => rfl
  | ok row w' =>
    cases row with
    | none => rfl
    | some u =>
      simp only
      rw [Outcome.bind_eq, Outcome.bind_eq]
      cases collectAll s.step w' <;> rfl

/-- `query_rows` maps row after row. -/
theorem rows_eq {α : Type} (map : RowMap α) (w : World EngineCall Answer) :
    collectAll (s.nextRow map) w =
      match s.nextRow map w with
      | .ok none w' => .ok [] w'
      | .ok (some a) w' => (do let rest ← collectAll (s.nextRow map); pure (a :: rest)) w'
      | .error e w' => .error e w' := by
  rw [Calls.collectAll_eq (s.nextRow_takes map)]
  cases s.nextRow map w with
  | error e w' => rfl
  | ok row w' => cases row <;> rfl

end Statement

namespace Connection

variable (c : Connection)

/-- The statement of a body is one of the handle. -/
theorem makes_withStatement {α : Type} (sql : String) {body : Statement → EngineM SqlError α}
    (hbody : ∀ stmt : Statement, stmt.db = c.db → Makes (Touches stmt.db) (body stmt)) :
    Makes (Touches c.db) (c.withStatement sql body) := by
  refine Makes.bind_of_ok (Statement.makes_prepare c.db sql) fun w stmt w' hprepare => ?_
  have hdb := Statement.prepare_db hprepare
  rw [← hdb]
  exact Makes.dropping ⟨rfl, nofun⟩ (hbody stmt hdb)

theorem makes_execute (sql : String) (params : List Param) :
    Makes (Touches c.db) (c.execute sql params) := by
  refine c.makes_withStatement sql fun stmt hdb => ?_
  refine Makes.bind (stmt.makes_bindAll params) fun _ => ?_
  refine Makes.bind stmt.makes_consume fun _ => ?_
  exact Makes.bind (Makes.call ⟨congrArg some hdb.symm, nofun⟩) fun _ => Makes.pure _

theorem makes_executeBatch (sql : String) : Makes (Touches c.db) (c.executeBatch sql) :=
  Makes.bind (makes_cString _ _) fun _ => makes_checked ⟨rfl, nofun⟩

theorem makes_queryRow {α : Type} (sql : String) (params : List Param) (map : RowMap α) :
    Makes (Touches c.db) (c.queryRow sql params map) :=
  c.makes_withStatement sql fun stmt _ =>
    Makes.bind (stmt.makes_bindAll params) fun _ => stmt.makes_nextRow map

theorem makes_queryRows {α : Type} (sql : String) (params : List Param) (map : RowMap α) :
    Makes (Touches c.db) (c.queryRows sql params map) :=
  c.makes_withStatement sql fun stmt _ =>
    Makes.bind (stmt.makes_bindAll params) fun _ => Makes.collectAll (stmt.makes_nextRow map)

theorem makes_pragmaI64 (name : String) : Makes (Touches c.db) (c.pragmaI64 name) :=
  Makes.bind (c.makes_queryRow _ _ _) fun _ => Makes.pure _

end Connection

theorem makes_migrate (c : Connection) (sql : String) (target : Int) :
    Makes (Touches c.db) (migrate c sql target) := by
  refine Makes.bind (c.makes_executeBatch _) fun _ => ?_
  refine Makes.bind (Makes.onError (c.makes_executeBatch _) ?_) fun _ => c.makes_executeBatch _
  exact Makes.bind (c.makes_executeBatch _) fun _ => c.makes_executeBatch _

theorem makes_runMigrations (migrations : List String) (c : Connection) :
    Makes (Touches c.db) (runMigrations migrations c) := by
  refine Makes.bind (c.makes_pragmaI64 _) fun current => ?_
  have hfrom : ∀ index, Makes (Touches c.db) (migrateFrom c current index migrations) := by
    induction migrations with
    | nil => exact fun _ => Makes.pure ()
    | cons sql rest ih =>
      intro index
      unfold migrateFrom
      simp only
      split
      · exact ih (index + 1)
      · exact Makes.bind (makes_migrate c sql _) fun _ => ih (index + 1)
  exact hfrom 0

theorem makes_setUp (migrations : List String) (c : Connection) (key : Bytes) :
    Makes (Touches c.db) (Database.setUp migrations c key) := by
  refine Makes.bind (Makes.adaptExcept _ (makes_checked ⟨rfl, nofun⟩)) fun _ => ?_
  refine Makes.adaptExcept _ (Makes.bind (c.makes_executeBatch _) fun _ => ?_)
  refine Makes.bind (c.makes_executeBatch _) fun _ => ?_
  exact Makes.bind (makes_checked ⟨rfl, nofun⟩) fun _ => makes_runMigrations migrations c

end Frames

end Presidium.Sqleet
