import Presidium.Lib.Realizes
import Presidium.Sqleet.HandleLife
import Presidium.Storage.Migrations

/-!
# The calls of `run_migrations` against the transactions of the database

`Sqleet.runMigrations` is the program of engine calls, and `runMigrationsOf` is
the program on a connection with transactions that the results about migrations
are about.  `EngineDialect` says what the engine makes of the texts that it is
sent, and `EngineDialect.next` is the engine: a `Connection` with its database,
its working copy and the replies that it is going to give, which answers calls.

With that engine the calls do to the connection what the program on it does
(`realizes_runMigrations`).  The guard is the same on both levels: `BEGIN`, then
the body with a `ROLLBACK` behind an error, then `COMMIT`
(`realizes_withTransaction`).
-/

namespace Presidium

open Calls (Realizes World call follow onError)
open Outcome (IsOk state)
open Sqleet (Answer EngineCall EngineM SQLITE_DONE SQLITE_OK SQLITE_ROW)

/-- A migration with its SQL. -/
abbrev Script := String × Migration

/-- `PRAGMA user_version = …`. -/
def versionText (target : Int) : String := "PRAGMA user_version = " ++ toString target

/-- What the texts of `run_migrations` mean to the engine. -/
structure EngineDialect (scripts : List Script) where
  meaning : String → SqlM DatabaseFile Unit
  begin_eq : meaning "BEGIN" = Connection.begin
  commit_eq : meaning "COMMIT" = Connection.commit
  rollback_eq : meaning "ROLLBACK" = Connection.rollback
  script_eq : ∀ script ∈ scripts, meaning script.1 = Connection.executeBatch script.2.2
  version_eq : ∀ index < scripts.length,
    meaning (versionText (index + 1)) = Connection.executeBatch [setUserVersion (index + 1)]
  /-- No migration has a NUL byte. -/
  plain : ∀ script ∈ scripts, Database.Bindable script.1

/-- The engine has run a statement and says whether that went well. -/
def answered {σ α : Type} (ok : Bool) (out : Outcome SqlError σ α) : Option σ :=
  if ok = decide (IsOk out) then some (state out) else none

/-- The engine.  The only statement that is prepared is `PRAGMA user_version`,
which has a row. -/
def EngineDialect.next {scripts : List Script} (d : EngineDialect scripts) :
    Connection DatabaseFile → EngineCall → Answer → Option (Connection DatabaseFile)
  | s, .exec _ sql, a => answered (a.code = SQLITE_OK) (d.meaning sql s)
  | s, .prepareV2 _ sql, a =>
    if sql = "PRAGMA user_version" then
      if a.pointer.isSome then some s
      else answered false (Connection.query DatabaseFile.userVersion s)
    else none
  | s, .step _ _, a =>
    if a.code = SQLITE_DONE then none
    else answered (a.code = SQLITE_ROW) (Connection.query DatabaseFile.userVersion s)
  | s, .columnInt64 _ _ _, a => if a.code = s.current.userVersion then some s else none
  | s, .finalize _ _, _ | s, .errmsg _, _ | s, .errcode _, _ => some s
  | _, _, _ => none

section Next

variable {scripts : List Script} (d : EngineDialect scripts) (s : Connection DatabaseFile)
  (db : Sqleet.Handle) (stmt : Sqleet.StmtPtr) (a : Answer)

theorem next_exec (sql : String) :
    d.next s (.exec db sql) a = answered (a.code = SQLITE_OK) (d.meaning sql s) := rfl

theorem next_prepareV2 :
    d.next s (.prepareV2 db "PRAGMA user_version") a =
      if a.pointer.isSome then some s
      else answered false (Connection.query DatabaseFile.userVersion s) := by
  rw [EngineDialect.next, if_pos rfl]

theorem next_step :
    d.next s (.step db stmt) a =
      if a.code = SQLITE_DONE then none
      else answered (a.code = SQLITE_ROW) (Connection.query DatabaseFile.userVersion s) := rfl

theorem next_columnInt64 (col : Nat) :
    d.next s (.columnInt64 db stmt col) a =
      if a.code = s.current.userVersion then some s else none := rfl

end Next

theorem answered_true {σ α : Type} {out : Outcome SqlError σ α} {s' : σ}
    (h : answered true out = some s') : ∃ a, out = .ok a s' := by
  cases out with
  | ok a s =>
    cases h
    exact ⟨a, rfl⟩
  | error e s => cases h

theorem answered_false {σ α : Type} {out : Outcome SqlError σ α} {s' : σ}
    (h : answered false out = some s') : ∃ e, out = .error e s' := by
  cases out with
  | ok a s => cases h
  | error e s =>
    cases h
    exact ⟨e, rfl⟩

/-! ## Texts without a NUL byte -/

theorem noNul_of_isDigit {c : Char} (h : c.isDigit) : 0 ∉ String.utf8EncodeChar c := by
  have hdigits : ∀ n < 10, 0 ∉ String.utf8EncodeChar (Nat.digitChar n) := by decide
  have hrange : 48 ≤ c.toNat ∧ c.toNat ≤ 57 := by
    simp only [Char.isDigit, Bool.and_eq_true, decide_eq_true_eq] at h
    exact h
  have hc : c = Nat.digitChar (c.toNat - 48) := by
    refine Char.toNat_inj.mp ?_
    rw [Nat.toNat_digitChar_of_lt_ten (by omega)]
    omega
  rw [hc]
  exact hdigits _ (by omega)

theorem bindable_versionText (index : Nat) : Database.Bindable (versionText (index + 1)) := by
  have htext : versionText (index + 1) =
      "PRAGMA user_version = " ++ String.ofList (Nat.toDigits 10 (index + 1)) := by
    unfold versionText
    rw [← Nat.repr_eq_ofList_toDigits]
    rfl
  unfold Database.Bindable asBytes
  rw [htext, String.toByteArray_append, ByteArray.data_append, Array.toList_append]
  intro h
  rcases List.mem_append.mp h with hpragma | hdigits
  · revert hpragma
    decide
  · rw [String.toByteArray_ofList, List.utf8Encode, List.data_toByteArray] at hdigits
    obtain ⟨c, hc, hzero⟩ := List.mem_flatMap.mp hdigits
    exact noNul_of_isDigit (Nat.isDigit_of_mem_toDigits (by decide) (by decide) hc) hzero

/-! ## The statement that asks for the version -/

section Version

variable {w : World EngineCall Answer}

theorem prepare_of_some (db : Sqleet.Handle) {sql : String} (hplain : Database.Bindable sql)
    {stmt : Sqleet.StmtPtr} (h : w.answer.pointer = some stmt) :
    Sqleet.Statement.prepare db sql w = .ok ⟨stmt, db⟩ (w.after (.prepareV2 db sql)) := by
  unfold Sqleet.Statement.prepare
  rw [Outcome.bind_ok (Sqleet.cString_ok _ hplain), Calls.bind_call]
  simp only [h]
  rfl

theorem prepare_of_none (db : Sqleet.Handle) {sql : String} (hplain : Database.Bindable sql)
    (h : w.answer.pointer = none) :
    ∃ e w', Sqleet.Statement.prepare db sql w = .error e w' ∧
      (w' = w.after (.prepareV2 db sql) ∨
        w' = (w.after (.prepareV2 db sql)).after (.errmsg db)) := by
  unfold Sqleet.Statement.prepare
  rw [Outcome.bind_ok (Sqleet.cString_ok _ hplain), Calls.bind_call]
  simp only [h]
  split
  · exact ⟨_, _, rfl, Or.inl rfl⟩
  · exact ⟨_, _, rfl, Or.inr rfl⟩

variable (stmt : Sqleet.Statement)

/-- A row has the version in its first column. -/
theorem nextRow_of_row (h : w.answer.code = SQLITE_ROW) :
    stmt.nextRow Sqleet.Connection.scalar w =
      .ok (some (w.after (.step stmt.db stmt.stmt)).answer.code)
        ((w.after (.step stmt.db stmt.stmt)).after (.columnInt64 stmt.db stmt.stmt 0)) := by
  have hstep : stmt.step w = .ok (some ()) (w.after (.step stmt.db stmt.stmt)) := by
    unfold Sqleet.Statement.step
    rw [Calls.bind_call, if_pos h]
    rfl
  unfold Sqleet.Statement.nextRow
  rw [Outcome.bind_ok hstep]
  rfl

theorem nextRow_of_done (h : w.answer.code = SQLITE_DONE) :
    stmt.nextRow Sqleet.Connection.scalar w =
      .ok none (w.after (.step stmt.db stmt.stmt)) := by
  have hstep : stmt.step w = .ok none (w.after (.step stmt.db stmt.stmt)) := by
    unfold Sqleet.Statement.step
    rw [Calls.bind_call, if_neg (by rw [h]; decide), if_pos h]
    rfl
  unfold Sqleet.Statement.nextRow
  rw [Outcome.bind_ok hstep]
  rfl

theorem nextRow_of_error (hrow : w.answer.code ≠ SQLITE_ROW) (hdone : w.answer.code ≠ SQLITE_DONE) :
    ∃ e, stmt.nextRow Sqleet.Connection.scalar w =
      .error e (((w.after (.step stmt.db stmt.stmt)).after (.errmsg stmt.db)).after
        (.errcode stmt.db)) := by
  have hstep : ∃ e, stmt.step w =
      .error e (((w.after (.step stmt.db stmt.stmt)).after (.errmsg stmt.db)).after
        (.errcode stmt.db)) := by
    unfold Sqleet.Statement.step
    rw [Calls.bind_call, if_neg hrow, if_neg hdone]
    exact ⟨_, rfl⟩
  obtain ⟨e, hstep⟩ := hstep
  unfold Sqleet.Statement.nextRow
  rw [Outcome.bind_error hstep]
  exact ⟨e, rfl⟩

/-- `PRAGMA user_version` once it is prepared. -/
def askVersion : EngineM Sqleet.SqlError Int := do
  let value ← Calls.dropping (.finalize stmt.db stmt.stmt)
    (stmt.nextRow Sqleet.Connection.scalar)
  pure (value.getD 0)

theorem askVersion_of_ok {value : Option Int} {w' : World EngineCall Answer}
    (h : stmt.nextRow Sqleet.Connection.scalar w = .ok value w') :
    askVersion stmt w = .ok (value.getD 0) (w'.after (.finalize stmt.db stmt.stmt)) := by
  refine Outcome.bind_ok ?_
  unfold Calls.dropping
  simp only [h]

theorem askVersion_of_error {e : Sqleet.SqlError} {w' : World EngineCall Answer}
    (h : stmt.nextRow Sqleet.Connection.scalar w = .error e w') :
    askVersion stmt w = .error e (w'.after (.finalize stmt.db stmt.stmt)) := by
  refine Outcome.bind_error ?_
  unfold Calls.dropping
  simp only [h]

theorem pragmaI64_of_some (c : Sqleet.Connection) {p : Sqleet.StmtPtr}
    (h : w.answer.pointer = some p) :
    c.pragmaI64 "user_version" w =
      askVersion ⟨p, c.db⟩ (w.after (.prepareV2 c.db "PRAGMA user_version")) := by
  have hplain : Database.Bindable "PRAGMA user_version" := by decide
  unfold Sqleet.Connection.pragmaI64 Sqleet.Connection.queryRow Sqleet.Connection.withStatement
  rw [bind_assoc, show "PRAGMA " ++ "user_version" = "PRAGMA user_version" from rfl,
    Outcome.bind_ok (prepare_of_some c.db hplain h)]
  rfl

end Version

section Methods

variable {scripts : List Script} (d : EngineDialect scripts) (c : Sqleet.Connection)

theorem realizes_executeBatch {sql : String} (hplain : Database.Bindable sql) :
    Realizes d.next (c.executeBatch sql) (d.meaning sql) := by
  intro w s
  have hrun : c.executeBatch sql w =
      Sqleet.check c.db w.answer.code (w.after (.exec c.db sql)) :=
    Outcome.bind_ok (Sqleet.cString_ok _ hplain)
  by_cases hcode : w.answer.code = SQLITE_OK
  · have hcheck : c.executeBatch sql w = .ok () (w.after (.exec c.db sql)) := by
      rw [hrun, hcode]
      rfl
    rw [hcheck]
    refine ⟨[(.exec c.db sql, w.answer)], rfl, fun s' hs' => ⟨fun u w' _ => ?_, nofun⟩⟩
    obtain ⟨s₁, hs₁, hend⟩ := Calls.follow_cons_eq_some hs'
    cases hend
    rw [next_exec, decide_eq_true hcode] at hs₁
    obtain ⟨⟨⟩, hmeaning⟩ := answered_true hs₁
    exact hmeaning
  · obtain ⟨e, herror⟩ := Sqleet.check_error (w := w.after (.exec c.db sql)) c.db hcode
    rw [hrun, herror]
    refine ⟨[(.exec c.db sql, w.answer), (.errmsg c.db, (w.after (.exec c.db sql)).answer)],
      List.append_assoc _ _ _, fun s' hs' => ⟨nofun, fun _ _ _ => ?_⟩⟩
    obtain ⟨s₁, hs₁, hasked⟩ := Calls.follow_cons_eq_some hs'
    cases hasked
    rw [next_exec, decide_eq_false hcode] at hs₁
    exact answered_false hs₁

/-- A row with the version is the answer to the question. -/
theorem query_of_row {s s₁ s₂ : Connection DatabaseFile} {db : Sqleet.Handle}
    {stmt : Sqleet.StmtPtr} {col : Nat} {a value : Answer} (hrow : a.code = SQLITE_ROW)
    (hstep : d.next s (.step db stmt) a = some s₁)
    (hcolumn : d.next s₁ (.columnInt64 db stmt col) value = some s₂) :
    Connection.query DatabaseFile.userVersion s = .ok value.code s₂ := by
  rw [next_step, if_neg (by rw [hrow]; decide), decide_eq_true hrow] at hstep
  obtain ⟨version, hquery⟩ := answered_true hstep
  obtain ⟨rfl, rfl⟩ := Connection.query_eq_ok hquery
  rw [next_columnInt64] at hcolumn
  split at hcolumn
  next hvalue =>
    cases hcolumn
    rw [hquery, hvalue]
    rfl
  next => cases hcolumn

/-- The engine steps to the row, or says that it cannot; either way the statement
is finalized. -/
theorem realizes_askVersion (stmt : Sqleet.Statement) :
    Realizes d.next (askVersion stmt) (Connection.query DatabaseFile.userVersion) := by
  intro w s
  let step : EngineCall := .step stmt.db stmt.stmt
  let column : EngineCall := .columnInt64 stmt.db stmt.stmt 0
  let finalize : EngineCall := .finalize stmt.db stmt.stmt
  let errmsg : EngineCall := .errmsg stmt.db
  let errcode : EngineCall := .errcode stmt.db
  by_cases hrow : w.answer.code = SQLITE_ROW
  · rw [askVersion_of_ok stmt (nextRow_of_row stmt hrow)]
    refine ⟨[(step, w.answer), (column, (w.after step).answer),
      (finalize, ((w.after step).after column).answer)], ?_,
      fun s' hs' => ⟨fun a w' hsame => ?_, nofun⟩⟩
    · show ((w.calls ++ [_]) ++ [_]) ++ [_] = _
      rw [List.append_assoc, List.append_assoc]
      rfl
    · cases hsame
      obtain ⟨s₁, hstep, hrest⟩ := Calls.follow_cons_eq_some hs'
      obtain ⟨s₂, hcolumn, hend⟩ := Calls.follow_cons_eq_some hrest
      cases hend
      exact query_of_row d hrow hstep hcolumn
  by_cases hdone : w.answer.code = SQLITE_DONE
  · rw [askVersion_of_ok stmt (nextRow_of_done stmt hdone)]
    refine ⟨[(step, w.answer), (finalize, (w.after step).answer)], List.append_assoc _ _ _,
      fun s' hs' => ?_⟩
    obtain ⟨s₁, hstep, -⟩ := Calls.follow_cons_eq_some hs'
    rw [next_step, if_pos hdone] at hstep
    cases hstep
  · obtain ⟨e, herror⟩ := nextRow_of_error stmt hrow hdone
    rw [askVersion_of_error stmt herror]
    refine ⟨[(step, w.answer), (errmsg, (w.after step).answer),
      (errcode, ((w.after step).after errmsg).answer),
      (finalize, (((w.after step).after errmsg).after errcode).answer)], ?_,
      fun s' hs' => ⟨nofun, fun _ _ _ => ?_⟩⟩
    · show (((w.calls ++ [_]) ++ [_]) ++ [_]) ++ [_] = _
      rw [List.append_assoc, List.append_assoc, List.append_assoc]
      rfl
    · obtain ⟨s₁, hstep, hend⟩ := Calls.follow_cons_eq_some hs'
      cases hend
      rw [next_step, if_neg hdone, decide_eq_false hrow] at hstep
      exact answered_false hstep

theorem realizes_pragmaI64 :
    Realizes d.next (c.pragmaI64 "user_version") (Connection.query DatabaseFile.userVersion) := by
  intro w s
  have hplain : Database.Bindable "PRAGMA user_version" := by decide
  let prepare : EngineCall := .prepareV2 c.db "PRAGMA user_version"
  cases hpointer : w.answer.pointer with
  | none =>
    obtain ⟨e, w', hprepare, hasked⟩ := prepare_of_none c.db hplain hpointer
    have hrun : c.pragmaI64 "user_version" w = .error e w' :=
      Outcome.bind_error (Outcome.bind_error hprepare)
    have hrefused : ∀ s', d.next s prepare w.answer = some s' →
        ∃ e', Connection.query DatabaseFile.userVersion s = .error e' s' := by
      intro s' hs'
      rw [next_prepareV2, hpointer] at hs'
      exact answered_false hs'
    rw [hrun]
    rcases hasked with rfl | rfl
    · refine ⟨[(prepare, w.answer)], rfl, fun s' hs' => ⟨nofun, fun _ _ _ => ?_⟩⟩
      obtain ⟨s₁, hs₁, hend⟩ := Calls.follow_cons_eq_some hs'
      cases hend
      exact hrefused s' hs₁
    · refine ⟨[(prepare, w.answer), (.errmsg c.db, (w.after prepare).answer)],
        List.append_assoc _ _ _, fun s' hs' => ⟨nofun, fun _ _ _ => ?_⟩⟩
      obtain ⟨s₁, hs₁, hend⟩ := Calls.follow_cons_eq_some hs'
      cases hend
      exact hrefused s' hs₁
  | some p =>
    have hprepared : follow d.next s [(prepare, w.answer)] = some s := by
      rw [follow, next_prepareV2, hpointer]
      rfl
    have hcalls : (w.after prepare).calls = w.calls ++ [(prepare, w.answer)] := rfl
    rw [pragmaI64_of_some c hpointer]
    obtain ⟨all, hall, hrest⟩ := (realizes_askVersion d ⟨p, c.db⟩).behind hcalls s
    refine ⟨all, hall, fun s' hs' => ?_⟩
    obtain ⟨s₁, hs₁, hend⟩ := hrest s' hs'
    cases hprepared.symm.trans hs₁
    exact hend

theorem realizes_transaction : Realizes d.next c.transaction Connection.begin := by
  have hplain : Database.Bindable "BEGIN" := by decide
  have h := realizes_executeBatch d c hplain
  rwa [d.begin_eq] at h

theorem realizes_commit : Realizes d.next c.commit Connection.commit := by
  have hplain : Database.Bindable "COMMIT" := by decide
  have h := realizes_executeBatch d c hplain
  rwa [d.commit_eq] at h

theorem realizes_rollback : Realizes d.next c.rollback Connection.rollback := by
  have hplain : Database.Bindable "ROLLBACK" := by decide
  have h := realizes_executeBatch d c hplain
  rwa [d.rollback_eq] at h

/-- The guard around calls is the guard around what they do. -/
theorem realizes_withTransaction {x : EngineM Sqleet.SqlError Unit} {body : SqlM DatabaseFile Unit}
    (hbody : Realizes d.next x body) :
    Realizes d.next (do c.transaction; onError c.rollback x; c.commit) (withTransaction body) := by
  rw [withTransaction_eq_do]
  refine (realizes_transaction d c).bind fun _ => ?_
  refine Realizes.bind ?_ fun _ => realizes_commit d c
  exact hbody.onError (realizes_rollback d c) (fun h => Transaction.scope_of_ok h _)
    fun h => Transaction.scope_of_error h

end Methods

section Runs

variable {scripts : List Script} (d : EngineDialect scripts) (c : Sqleet.Connection)

theorem realizes_migrate {script : Script} {index : Nat} (hscript : script ∈ scripts)
    (hindex : index < scripts.length) :
    Realizes d.next (Sqleet.migrate c script.1 (index + 1))
      (withTransaction (migrationBody (index + 1) script.2.2)) := by
  refine realizes_withTransaction d c (Realizes.bind ?_ fun _ => ?_)
  · rw [← d.script_eq script hscript]
    exact realizes_executeBatch d c (d.plain script hscript)
  · rw [← d.version_eq index hindex]
    exact realizes_executeBatch d c (bindable_versionText index)

theorem realizes_migrateFrom (current : Int) (before after : List Script)
    (hsplit : scripts = before ++ after) :
    Realizes d.next (Sqleet.migrateFrom c current before.length (after.map Prod.fst))
      (migrateFrom current before.length (after.map Prod.snd)) := by
  induction after generalizing before with
  | nil => exact Realizes.pure ()
  | cons script after ih =>
    have hrest := ih (before ++ [script]) (by rw [hsplit, List.append_assoc]; rfl)
    rw [List.length_append, List.length_singleton] at hrest
    have hscript : script ∈ scripts := by simp [hsplit]
    have hindex : before.length < scripts.length := by simp [hsplit]
    simp only [List.map_cons, Sqleet.migrateFrom, migrateFrom]
    split
    · exact hrest
    · exact (realizes_migrate d c hscript hindex).bind fun _ => hrest

/-- The calls of `run_migrations` do to the connection of the engine what the
program on the connection does. -/
theorem realizes_runMigrations :
    Realizes d.next (Sqleet.runMigrations (scripts.map Prod.fst) c)
      (runMigrationsOf (scripts.map Prod.snd)) :=
  (realizes_pragmaI64 d c).bind fun current => realizes_migrateFrom d c current [] scripts rfl

theorem realizes_runMigrations_source (hsource : scripts.map Prod.snd = MIGRATIONS) :
    Realizes d.next (Sqleet.runMigrations (scripts.map Prod.fst) c) runMigrations := by
  rw [runMigrations_eq, ← hsource]
  exact realizes_runMigrations d c

/-- A `run_migrations` that returns `Ok` has applied the migrations behind the
version of the file, if the engine ends transactions. -/
theorem migrated_of_calls {start s' : Connection DatabaseFile} {v : Nat}
    (hwork : start.work = none) (hversion : start.committed.userVersion = v)
    (hends : EndsSucceed (scripts.map Prod.snd) start) {w w' : World EngineCall Answer}
    (hw : w.calls = []) (hrun : Sqleet.runMigrations (scripts.map Prod.fst) c w = .ok () w')
    (hlog : follow d.next start w'.calls = some s') :
    Migrated v (scripts.map Prod.snd) start s' := by
  have hstate : follow d.next start
      (state (Sqleet.runMigrations (scripts.map Prod.fst) c w)).calls = some s' := by
    rw [hrun]
    exact hlog
  have hok := ((realizes_runMigrations d c).run hw hstate).1 () w' hrun
  exact migrated_of_ok hwork hversion hends hok

end Runs

/-- The SQL of a migration with one table. -/
def devicesText : String := "CREATE TABLE devices (id INTEGER PRIMARY KEY)"

/-- An engine that knows this migration. -/
def devicesDialect : EngineDialect [(devicesText, "0001", [createObject "devices"])] where
  meaning sql :=
    if sql = "BEGIN" then Connection.begin
    else if sql = "COMMIT" then Connection.commit
    else if sql = "ROLLBACK" then Connection.rollback
    else if sql = devicesText then Connection.executeBatch [createObject "devices"]
    else if sql = versionText 1 then Connection.executeBatch [setUserVersion 1]
    else throw .failed
  begin_eq := rfl
  commit_eq := rfl
  rollback_eq := rfl
  script_eq := by
    intro script hscript
    rw [List.mem_singleton.mp hscript]
    rfl
  version_eq := by
    intro index hindex
    obtain rfl : index = 0 := by simpa using hindex
    rfl
  plain := by decide

/-- Its answers when it has no room for the `COMMIT`: the transaction stays open. -/
example :
    let answers : List Answer := [{ code := SQLITE_OK, pointer := some 7 }, { code := SQLITE_ROW },
      { code := 0 }, { code := SQLITE_OK }, { code := SQLITE_OK }, { code := SQLITE_OK },
      { code := SQLITE_OK }, { code := 13 }]
    follow devicesDialect.next ⟨⟨0, [], []⟩, none, [.done, .done, .done, .done, .refused]⟩
        (state (Sqleet.runMigrations [devicesText] ⟨1⟩ ⟨answers, []⟩)).calls =
      some ⟨⟨0, [], []⟩, some ⟨1, ["devices"], []⟩, []⟩ := by
  decide

end Presidium
