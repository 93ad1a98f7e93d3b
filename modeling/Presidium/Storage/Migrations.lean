import Mathlib.Data.List.Induction
import Presidium.Storage.File

/-!
# Migrations are applied once and in order

`run_migrations` reads the schema version once and then applies every migration
behind it, each in a transaction of its own that also sets the version.  What
it does to the database is `migratedFrom`: the statements of one migration
after the other, without an engine that could refuse them.

The proofs follow the list from its end.  `runMigrationsOf_concat` says what
one more migration does after the others, and every result is an induction on
the migrations before it.

The engine may refuse any statement but the `COMMIT` or `ROLLBACK` that ends a
transaction (`EndsSucceed`).
-/

namespace Presidium

open Outcome (state)

/-- A migration: its name and its statements. -/
abbrev Migration := String × List (DatabaseFile → Option DatabaseFile)

/-- `run_migrations` for any list of migrations. -/
def runMigrationsOf (migrations : List Migration) : SqlM DatabaseFile Unit := do
  let current ← Connection.query DatabaseFile.userVersion
  migrateFrom current 0 migrations

theorem runMigrations_eq : runMigrations = runMigrationsOf MIGRATIONS := rfl

/-! ## What migrations do to a database -/

/-- The database after the statements of a migration. -/
def migrated (target : Int) (sql : List (DatabaseFile → Option DatabaseFile))
    (file : DatabaseFile) : Option DatabaseFile :=
  (Connection.batch sql file).bind (Connection.batch [setUserVersion target])

/-- The database after some migrations, of which the first has the given index. -/
def migratedFrom : Nat → List Migration → DatabaseFile → Option DatabaseFile
  | _, [], file => some file
  | index, (_, sql) :: rest, file =>
    (migrated (index + 1) sql file).bind (migratedFrom (index + 1) rest)

theorem migratedFrom_append (index : Nat) (before after : List Migration) (file : DatabaseFile) :
    migratedFrom index (before ++ after) file =
      (migratedFrom index before file).bind (migratedFrom (index + before.length) after) := by
  induction before generalizing index file with
  | nil => rfl
  | cons migration before ih =>
    obtain ⟨name, sql⟩ := migration
    have hlength : index + 1 + before.length = index + (before.length + 1) := by omega
    rw [List.cons_append, migratedFrom, migratedFrom, Option.bind_assoc, List.length_cons]
    congr 1
    funext file
    rw [ih, hlength]

theorem migratedFrom_concat (index : Nat) (before : List Migration) (name : String)
    (sql : List (DatabaseFile → Option DatabaseFile)) (file : DatabaseFile) :
    migratedFrom index (before ++ [(name, sql)]) file =
      (migratedFrom index before file).bind (migrated (index + before.length + 1) sql) := by
  rw [migratedFrom_append]
  congr 1
  funext file
  simp [migratedFrom]

/-- A migration sets the version. -/
theorem userVersion_migrated {target : Int} {sql : List (DatabaseFile → Option DatabaseFile)}
    {file file' : DatabaseFile} (h : migrated target sql file = some file') :
    file'.userVersion = target := by
  obtain ⟨file₁, -, hset⟩ := Option.bind_eq_some_iff.mp h
  cases hset
  rfl

theorem performs_migrationBody (target : Int)
    (sql : List (DatabaseFile → Option DatabaseFile)) :
    Connection.Performs (migrationBody target sql) (migrated target sql) :=
  (Connection.performs_executeBatch sql).bind (Connection.performs_executeBatch _)

/-! ## One migration more -/

theorem migrateFrom_append (current : Int) (index : Nat) (before after : List Migration) :
    migrateFrom current index (before ++ after) =
      (migrateFrom current index before >>= fun _ =>
        migrateFrom current (index + before.length) after) := by
  induction before generalizing index with
  | nil => rw [List.nil_append, migrateFrom, pure_bind]; rfl
  | cons migration before ih =>
    obtain ⟨name, sql⟩ := migration
    have hlength : index + 1 + before.length = index + (before.length + 1) := by omega
    simp only [List.cons_append, migrateFrom, List.length_cons, ih, hlength]
    split
    · rfl
    · rw [bind_assoc]

section Runs

variable {c c₁ : Connection DatabaseFile} {before : List Migration}

theorem runMigrationsOf_append_error {e : SqlError} (h : runMigrationsOf before c = .error e c₁)
    (after : List Migration) : runMigrationsOf (before ++ after) c = .error e c₁ := by
  unfold runMigrationsOf at h ⊢
  cases hquery : Connection.query DatabaseFile.userVersion c with
  | error e' c' =>
    rw [Outcome.bind_error hquery] at h ⊢
    exact h
  | ok current c' =>
    rw [Outcome.bind_ok hquery] at h ⊢
    rw [migrateFrom_append, Outcome.bind_error h]

theorem runMigrationsOf_append_ok (hwork : c.work = none)
    (h : runMigrationsOf before c = .ok () c₁) (after : List Migration) :
    runMigrationsOf (before ++ after) c =
      migrateFrom c.committed.userVersion before.length after c₁ := by
  unfold runMigrationsOf at h ⊢
  cases hquery : Connection.query DatabaseFile.userVersion c with
  | error e' c' =>
    rw [Outcome.bind_error hquery] at h
    cases h
  | ok current c' =>
    obtain ⟨hcurrent, -⟩ := Connection.query_eq_ok hquery
    have hversion : c.current.userVersion = c.committed.userVersion := by
      rw [Connection.current, hwork]
      rfl
    rw [Outcome.bind_ok hquery] at h ⊢
    rw [migrateFrom_append, Outcome.bind_ok h, Nat.zero_add, hcurrent, hversion]

/-- One migration after others that went through: nothing if the version is
past it, its transaction otherwise. -/
theorem runMigrationsOf_concat (hwork : c.work = none)
    (h : runMigrationsOf before c = .ok () c₁) (name : String)
    (sql : List (DatabaseFile → Option DatabaseFile)) :
    runMigrationsOf (before ++ [(name, sql)]) c =
      if (before.length : Int) + 1 ≤ c.committed.userVersion then .ok () c₁
      else withTransaction (migrationBody (before.length + 1) sql) c₁ := by
  rw [runMigrationsOf_append_ok hwork h]
  simp only [migrateFrom]
  split
  · rfl
  · rw [bind_pure_unit]

/-- Without migrations there is only the question for the version. -/
theorem runMigrationsOf_nil_cases (c : Connection DatabaseFile) :
    (∃ current c', Connection.query DatabaseFile.userVersion c = .ok current c' ∧
        runMigrationsOf [] c = .ok () c') ∨
      ∃ e c', Connection.query DatabaseFile.userVersion c = .error e c' ∧
        runMigrationsOf [] c = .error e c' := by
  cases hquery : Connection.query DatabaseFile.userVersion c with
  | ok current c' => exact Or.inl ⟨current, c', rfl, Outcome.bind_ok hquery⟩
  | error e c' => exact Or.inr ⟨e, c', rfl, Outcome.bind_error hquery⟩

/-- A database past the last migration is only asked for its version. -/
theorem runMigrationsOf_of_le {migrations : List Migration} (hwork : c.work = none)
    (hversion : (migrations.length : Int) ≤ c.committed.userVersion) :
    runMigrationsOf migrations c = runMigrationsOf [] c := by
  induction migrations using List.reverseRecOn with
  | nil => rfl
  | append_singleton before migration ih =>
    obtain ⟨name, sql⟩ := migration
    simp only [List.length_append, List.length_singleton, Int.natCast_add, Int.natCast_one]
      at hversion
    have hbefore := ih (by omega)
    cases hrun : runMigrationsOf before c with
    | error e c' => rw [runMigrationsOf_append_error hrun, ← hbefore, hrun]
    | ok u c' => rw [runMigrationsOf_concat hwork hrun, if_pos hversion, ← hbefore, hrun]

end Runs

/-! ## Runs with an engine that ends transactions -/

/-- Every `COMMIT` and `ROLLBACK` of a run succeeds: the one that comes behind
the statements of a migration, when the migrations before it went through. -/
def EndsSucceed (migrations : List Migration) (c : Connection DatabaseFile) : Prop :=
  ∀ before name sql after c₁ tx c₂,
    migrations = before ++ (name, sql) :: after →
    c.committed.userVersion ≤ before.length → runMigrationsOf before c = .ok () c₁ →
    transaction c₁ = .ok tx c₂ → Honoured (state (migrationBody (before.length + 1) sql c₂))

/-- A statement of the migration with the given number fails, be it `BEGIN`, one
of its own or the one that sets the version. -/
def StatementFails (number : Int) (sql : List (DatabaseFile → Option DatabaseFile))
    (c : Connection DatabaseFile) : Prop :=
  ¬ Outcome.IsOk (guarded (migrationBody number sql) c)

/-- What a run from version `v` leaves when it went through. -/
structure Migrated (v : Nat) (migrations : List Migration)
    (c c' : Connection DatabaseFile) : Prop where
  autocommit : c'.work = none
  applied : migratedFrom v (migrations.drop v) c.committed = some c'.committed
  version : c'.committed.userVersion = max v migrations.length

theorem EndsSucceed.of_append {before after : List Migration} {c : Connection DatabaseFile}
    (h : EndsSucceed (before ++ after) c) : EndsSucceed before c := by
  intro front name sql rest c₁ tx c₂ hsplit
  refine h front name sql (rest ++ after) c₁ tx c₂ ?_
  rw [hsplit, List.append_assoc, List.cons_append]

section Ends

variable {v : Nat} {migrations before after : List Migration} {name : String}
  {sql : List (DatabaseFile → Option DatabaseFile)} {c c₁ c' : Connection DatabaseFile}

/-- The transaction of a migration in its place. -/
theorem EndsSucceed.withTransaction (hends : EndsSucceed (before ++ (name, sql) :: after) c)
    (hversion : c.committed.userVersion ≤ before.length)
    (hrun : runMigrationsOf before c = .ok () c₁) (hwork : c₁.work = none) :
    (∀ u c', withTransaction (migrationBody (before.length + 1) sql) c₁ = .ok u c' →
        c'.work = none ∧ migrated (before.length + 1) sql c₁.committed = some c'.committed ∧
          ¬ StatementFails (before.length + 1) sql c₁) ∧
      ∀ e c', withTransaction (migrationBody (before.length + 1) sql) c₁ = .error e c' →
        c'.work = none ∧ c'.committed = c₁.committed ∧
          StatementFails (before.length + 1) sql c₁ := by
  have hguard := withTransaction_performs (performs_migrationBody (before.length + 1) sql) hwork
    fun tx c₂ hopen => hends before name sql after c₁ tx c₂ rfl hversion hrun hopen
  refine ⟨fun u c' h => ?_, hguard.2⟩
  obtain ⟨hover, heffect, hok⟩ := hguard.1 u c' h
  exact ⟨hover, heffect, not_not_intro hok⟩

theorem Migrated.concat_of_le (h : Migrated v before c c₁) (hle : before.length < v) :
    Migrated v (before ++ [(name, sql)]) c c₁ := by
  have hdrop : before.drop v = [] := List.drop_of_length_le (by omega)
  have hdrop' : (before ++ [(name, sql)]).drop v = [] := List.drop_of_length_le (by simp; omega)
  refine ⟨h.autocommit, ?_, ?_⟩
  · rw [hdrop', ← hdrop]
    exact h.applied
  · rw [h.version]
    simp only [List.length_append, List.length_singleton]
    omega

theorem Migrated.concat (h : Migrated v before c c₁) (hle : v ≤ before.length)
    (hwork : c'.work = none)
    (hmigrated : migrated (before.length + 1) sql c₁.committed = some c'.committed) :
    Migrated v (before ++ [(name, sql)]) c c' := by
  refine ⟨hwork, ?_, ?_⟩
  · have hlength : ((v + (before.drop v).length : Nat) : Int) = before.length := by
      rw [List.length_drop]
      omega
    rw [List.drop_append_of_le_length hle, migratedFrom_concat, h.applied]
    show migrated (v + (before.drop v).length + 1) sql c₁.committed = some c'.committed
    rw [← hmigrated, ← hlength]
    rfl
  · rw [userVersion_migrated hmigrated]
    simp only [List.length_append, List.length_singleton]
    omega

/-- A run that goes through has applied the migrations behind the version. -/
theorem migrated_of_ok (hwork : c.work = none) (hversion : c.committed.userVersion = v)
    (hends : EndsSucceed migrations c) (h : runMigrationsOf migrations c = .ok () c') :
    Migrated v migrations c c' := by
  induction migrations using List.reverseRecOn generalizing c' with
  | nil =>
    rcases runMigrationsOf_nil_cases c with ⟨current, c₁, hquery, hrun⟩ | ⟨e, c₁, -, hrun⟩
    · rw [hrun] at h
      cases h
      obtain ⟨-, rfl⟩ := Connection.query_eq_ok hquery
      refine ⟨hwork, by rw [List.drop_nil]; rfl, ?_⟩
      show c.committed.userVersion = max v ([] : List Migration).length
      rw [hversion, List.length_nil]
      omega
    · rw [hrun] at h
      cases h
  | append_singleton before migration ih =>
    obtain ⟨name, sql⟩ := migration
    cases hrun : runMigrationsOf before c with
    | error e c₁ =>
      rw [runMigrationsOf_append_error hrun] at h
      cases h
    | ok u c₁ =>
      have hbefore := ih hends.of_append hrun
      rw [runMigrationsOf_concat hwork hrun, hversion] at h
      split at h
      next hle =>
        cases h
        exact hbefore.concat_of_le (by omega)
      next hlt =>
        obtain ⟨hover, hmigrated, -⟩ :=
          (hends.withTransaction (by omega) hrun hbefore.autocommit).1 () c' h
        exact hbefore.concat (by omega) hover hmigrated

/-- A statement that fails ends the run at its migration. -/
theorem error_of_statementFails (hwork : c.work = none) (hversion : c.committed.userVersion = v)
    (hends : EndsSucceed (before ++ (name, sql) :: after) c) (hle : v ≤ before.length)
    (hrun : runMigrationsOf before c = .ok () c₁)
    (hfails : StatementFails (before.length + 1) sql c₁) :
    ∃ e c', runMigrationsOf (before ++ (name, sql) :: after) c = .error e c' ∧
      c'.work = none ∧ c'.committed = c₁.committed := by
  have hbefore := migrated_of_ok hwork hversion hends.of_append hrun
  obtain ⟨hok, herror⟩ := hends.withTransaction (by omega) hrun hbefore.autocommit
  have hconcat := runMigrationsOf_concat hwork hrun name sql
  rw [if_neg (by omega)] at hconcat
  cases hstep : withTransaction (migrationBody (before.length + 1) sql) c₁ with
  | ok u c' => exact absurd hfails (hok u c' hstep).2.2
  | error e c' =>
    rw [hstep] at hconcat
    have hwhole := runMigrationsOf_append_error hconcat after
    rw [List.append_assoc, List.singleton_append] at hwhole
    exact ⟨e, c', hwhole, (herror e c' hstep).1, (herror e c' hstep).2.1⟩

/-- A run fails at the version or at a statement of a migration. -/
theorem statementFails_of_error (hwork : c.work = none) (hversion : c.committed.userVersion = v)
    (hends : EndsSucceed migrations c) {e : SqlError}
    (h : runMigrationsOf migrations c = .error e c') :
    Connection.query DatabaseFile.userVersion c = .error e c' ∨
      ∃ before name sql after c₁, migrations = before ++ (name, sql) :: after ∧
        v ≤ before.length ∧ runMigrationsOf before c = .ok () c₁ ∧
        StatementFails (before.length + 1) sql c₁ := by
  induction migrations using List.reverseRecOn with
  | nil =>
    rcases runMigrationsOf_nil_cases c with ⟨current, c₁, -, hrun⟩ | ⟨e₁, c₁, hquery, hrun⟩
    · rw [hrun] at h
      cases h
    · rw [hrun] at h
      cases h
      exact Or.inl hquery
  | append_singleton before migration ih =>
    obtain ⟨name, sql⟩ := migration
    cases hrun : runMigrationsOf before c with
    | error e₁ c₁ =>
      rw [runMigrationsOf_append_error hrun] at h
      cases h
      rcases ih hends.of_append hrun with hquery | ⟨front, name₁, sql₁, rest, c₂, hsplit, hfail⟩
      · exact Or.inl hquery
      · refine Or.inr ⟨front, name₁, sql₁, rest ++ [(name, sql)], c₂, ?_, hfail⟩
        rw [hsplit, List.append_assoc, List.cons_append]
    | ok u c₁ =>
      have hbefore := migrated_of_ok hwork hversion hends.of_append hrun
      rw [runMigrationsOf_concat hwork hrun, hversion] at h
      split at h
      next => cases h
      next hlt =>
        obtain ⟨-, -, hfails⟩ :=
          (hends.withTransaction (by omega) hrun hbefore.autocommit).2 e c' h
        exact Or.inr ⟨before, name, sql, [], c₁, rfl, by omega, hrun, hfails⟩

/-- A run over a database past the last migration changes nothing. -/
theorem runMigrationsOf_again (hwork : c.work = none)
    (hversion : (migrations.length : Int) ≤ c.committed.userVersion) :
    (state (runMigrationsOf migrations c)).committed = c.committed ∧
      (c.reply = .done → Outcome.IsOk (runMigrationsOf migrations c)) := by
  have hkept := Connection.committed_query DatabaseFile.userVersion c
  rw [runMigrationsOf_of_le hwork hversion]
  rcases runMigrationsOf_nil_cases c with ⟨current, c₁, hquery, hrun⟩ | ⟨e, c₁, hquery, hrun⟩
  · rw [hquery] at hkept
    rw [hrun]
    exact ⟨hkept, fun _ => trivial⟩
  · rw [hquery] at hkept
    rw [hrun]
    refine ⟨hkept, fun hreply => ?_⟩
    simp only [Connection.query, Connection.ask, hreply] at hquery
    cases hquery

theorem migratedFrom_drop (hle : v ≤ before.length) (file : DatabaseFile) :
    migratedFrom v ((before ++ after).drop v) file =
      (migratedFrom v (before.drop v) file).bind (migratedFrom before.length after) := by
  have hlength : v + (before.drop v).length = before.length := by
    rw [List.length_drop]
    omega
  rw [List.drop_append_of_le_length hle, migratedFrom_append, hlength]

/-- A run from version `v` that goes through has applied the migrations behind
`v` in their order, and another one changes nothing.  A statement that fails
stops the run with the database as the migrations before left it, and a later
run goes on from there.  There is no other error but that of reading the
version. -/
theorem migrations_applied_once (hwork : c.work = none) (hversion : c.committed.userVersion = v)
    (hends : EndsSucceed migrations c) :
    (∀ c', runMigrationsOf migrations c = .ok () c' →
        Migrated v migrations c c' ∧
          ∀ again : Connection DatabaseFile, again.work = none →
            again.committed = c'.committed →
            (state (runMigrationsOf migrations again)).committed = c'.committed ∧
              (again.reply = .done → Outcome.IsOk (runMigrationsOf migrations again))) ∧
      (∀ before name sql after c₁, migrations = before ++ (name, sql) :: after →
        v ≤ before.length → runMigrationsOf before c = .ok () c₁ →
        StatementFails (before.length + 1) sql c₁ →
        ∃ e c', runMigrationsOf migrations c = .error e c' ∧ c'.work = none ∧
          migratedFrom v (before.drop v) c.committed = some c'.committed ∧
          c'.committed.userVersion = before.length ∧
          ∀ again c'', again.work = none → again.committed = c'.committed →
            EndsSucceed migrations again → runMigrationsOf migrations again = .ok () c'' →
            migratedFrom before.length ((name, sql) :: after) c'.committed =
                some c''.committed ∧
              migratedFrom v (migrations.drop v) c.committed = some c''.committed) ∧
      ∀ e c', runMigrationsOf migrations c = .error e c' →
        Connection.query DatabaseFile.userVersion c = .error e c' ∧
            c'.committed = c.committed ∨
          ∃ before name sql after c₁, migrations = before ++ (name, sql) :: after ∧
            v ≤ before.length ∧ runMigrationsOf before c = .ok () c₁ ∧
            StatementFails (before.length + 1) sql c₁ := by
  refine ⟨?_, ?_, ?_⟩
  · intro c' hrun
    have hmigrated := migrated_of_ok hwork hversion hends hrun
    refine ⟨hmigrated, fun again hidle hsame => ?_⟩
    have hpast : (migrations.length : Int) ≤ again.committed.userVersion := by
      rw [hsame, hmigrated.version]
      omega
    rw [← hsame]
    exact runMigrationsOf_again hidle hpast
  · rintro before name sql after c₁ rfl hle hrun hfails
    have hbefore := migrated_of_ok hwork hversion hends.of_append hrun
    obtain ⟨e, c', herror, hover, hsame⟩ :=
      error_of_statementFails hwork hversion hends hle hrun hfails
    have happlied : migratedFrom v (before.drop v) c.committed = some c'.committed := by
      rw [hsame]
      exact hbefore.applied
    have hstands : c'.committed.userVersion = before.length := by
      rw [hsame, hbefore.version]
      omega
    refine ⟨e, c', herror, hover, happlied, hstands, ?_⟩
    intro again c'' hidle hagain hends' hrun'
    have hresumed := (migrated_of_ok hidle (hagain ▸ hstands) hends' hrun').applied
    rw [List.drop_left, hagain] at hresumed
    refine ⟨hresumed, ?_⟩
    rw [migratedFrom_drop hle, happlied]
    exact hresumed
  · intro e c' herror
    rcases statementFails_of_error hwork hversion hends herror with hquery | hfails
    · have hkept := Connection.committed_query DatabaseFile.userVersion c
      rw [hquery] at hkept
      exact Or.inl ⟨hquery, hkept⟩
    · exact Or.inr hfails

end Ends

/-! ## A migration that fails -/

def firstMigration : Migration := ("0001", [createObject "devices"])

/-- Its second statement asks for a name that is taken. -/
def secondMigration : Migration := ("0002", [createObject "media", createObject "devices"])

def emptyFile : DatabaseFile := { userVersion := 0, objects := [], prekeys := [] }

/-- A new connection to an empty file. -/
def newConnection : Connection DatabaseFile :=
  { committed := emptyFile, work := none, replies := [] }

theorem endsSucceed_newConnection :
    EndsSucceed [firstMigration, secondMigration] newConnection := by
  intro before name sql after c₁ tx c₂ hsplit _ hrun hopen
  match before, hsplit, hrun with
  | [], hsplit, hrun =>
    cases hsplit
    cases hrun
    cases hopen
    exact fun _ => rfl
  | [_], hsplit, hrun =>
    cases hsplit
    cases hrun
    cases hopen
    exact fun _ => rfl
  | _ :: _ :: _, hsplit, _ =>
    have hlength := congrArg List.length hsplit
    simp at hlength

/-- The first migration stays, with its version, and nothing of the second. -/
theorem migrations_applied_once_secondFails :
    ∃ e c', runMigrationsOf [firstMigration, secondMigration] newConnection = .error e c' ∧
      c'.work = none ∧ migratedFrom 0 [firstMigration] emptyFile = some c'.committed ∧
      c'.committed.userVersion = 1 := by
  obtain ⟨e, c', herror, hover, happlied, hstands, -⟩ :=
    (migrations_applied_once (v := 0) rfl rfl endsSucceed_newConnection).2.1 [firstMigration]
      _ _ [] _ rfl (by decide) rfl (by unfold StatementFails; decide)
  exact ⟨e, c', herror, hover, happlied, hstands⟩

end Presidium
