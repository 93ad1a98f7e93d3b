import Presidium.Storage.Migrations
import Presidium.Storage.Prekeys

/-!
# Calling again after an error

A connection whose transaction is still open refuses every further `BEGIN`.
Both callers of the guard give up at the first error, so whether they can be
called again comes down to the statement that ends the transaction.

`take_one_time_prekey` always starts a transaction.  `run_migrations` starts one
only for a pending migration, and it reads the version from the transaction that
is open: behind a refused `COMMIT` of the last migration it finds nothing to do.

The second calls are those to an engine that does what it is told.
-/

namespace Presidium

open Outcome (state IsOk)

variable {σ α : Type} {settled : σ → Prop}

/-- If a transaction is open, its working copy is settled. -/
def Settled (settled : σ → Prop) (c : Connection σ) : Prop := ∀ s, c.work = some s → settled s

/-- The statement that ends the transaction of the guard is not refused with the
transaction left open, unless the working copy is settled by then. -/
def EndsUnless (settled : σ → Prop) (body : SqlM σ α) (c : Connection σ) : Prop :=
  ∀ tx c₁, transaction c = .ok tx c₁ → ∀ s, (state (body c₁)).work = some s →
    settled s ∨ (state (body c₁)).reply ≠ .refused

theorem settled_of_autocommit {c : Connection σ} (hwork : c.work = none) : Settled settled c := by
  intro s hs
  exact absurd (hs.symm.trans hwork) (by simp)

theorem settled_withTransaction_iff {c : Connection σ} (hwork : c.work = none)
    (body : SqlM σ α) :
    Settled settled (state (withTransaction body c)) ↔ EndsUnless settled body c := by
  cases hopen : (transaction : SqlM σ Transaction) c with
  | error e c' =>
    have hrun : withTransaction body c = .error e c' := by
      rw [withTransaction, Outcome.bind_error hopen]
    rw [hrun]
    refine iff_of_true (settled_of_autocommit (transaction_eq_error hwork hopen).1) ?_
    intro tx c₁ hopen'
    rw [hopen] at hopen'
    cases hopen'
  | ok tx c₁ =>
    unfold Settled
    rw [work_withTransaction hopen]
    constructor
    · intro h tx' c₁' hopen' s hs
      rw [hopen] at hopen'
      cases hopen'
      by_cases hreply : (state (body c₁)).reply = .refused
      · rw [if_pos hreply] at h
        exact Or.inl (h s hs)
      · exact Or.inr hreply
    · intro h s hs
      split at hs
      next hreply => exact (h tx c₁ hopen s hs).resolve_right (not_not_intro hreply)
      next => cases hs

/-! ## Prekeys -/

/-- The transaction of `take_one_time_prekey` is ended. -/
def TakeEnds (c : Connection DatabaseFile) : Prop := EndsUnless (fun _ => False) takeBody c

theorem isOk_takeOneTimePrekey_willing (c : Connection DatabaseFile) :
    IsOk (takeOneTimePrekey c.willing) ↔ Settled (fun _ => False) c := by
  cases hwork : c.work with
  | none =>
    refine iff_of_true ?_ (settled_of_autocommit hwork)
    rw [takeOneTimePrekey_of_calm (Connection.calm_willing hwork)]
    trivial
  | some s =>
    refine iff_of_false ?_ fun h => h s hwork
    have hsome : c.willing.work.isSome := by rw [Connection.willing, hwork]; rfl
    rw [takeOneTimePrekey, withTransaction_of_open hsome]
    exact id

/-! ## Migrations -/

/-- The migrations that a database still needs. -/
def pending (migrations : List Migration) (file : DatabaseFile) : List Migration :=
  migrations.drop file.userVersion.toNat

/-- The pending migrations can be applied. -/
def Upgradable (migrations : List Migration) (file : DatabaseFile) : Prop :=
  (migratedFrom file.userVersion.toNat (pending migrations file) file).isSome

/-- The loop of `run_migrations` starts at the first pending migration. -/
theorem migrateFrom_skip (current : Int) (index : Nat) (migrations : List Migration) :
    migrateFrom current index migrations =
      migrateFrom current (index + (current - index).toNat)
        (migrations.drop (current - index).toNat) := by
  induction migrations generalizing index with
  | nil => rw [List.drop_nil, migrateFrom, migrateFrom]
  | cons migration rest ih =>
    obtain ⟨name, sql⟩ := migration
    by_cases hskip : (index : Int) + 1 ≤ current
    · obtain ⟨k, hk⟩ : ∃ k, (current - index).toNat = k + 1 :=
        ⟨(current - index).toNat - 1, by omega⟩
      have hnext : (current - (index + 1 : Nat)).toNat = k := by omega
      have hindex : index + (k + 1) = index + 1 + k := by omega
      rw [hk, List.drop_succ_cons, hindex, migrateFrom, if_pos hskip, ih, hnext]
    · have hzero : (current - index).toNat = 0 := by omega
      rw [hzero]
      rfl

theorem migrateFrom_cons {current : Int} {index : Nat} (h : current ≤ index) (name : String)
    (sql : List (DatabaseFile → Option DatabaseFile)) (rest : List Migration) :
    migrateFrom current index ((name, sql) :: rest) =
      (withTransaction (migrationBody (index + 1) sql) >>= fun _ =>
        migrateFrom current (index + 1) rest) := by
  rw [migrateFrom]
  exact if_neg (by omega)

theorem runMigrationsOf_of_query {c c' : Connection DatabaseFile} {current : Int}
    (hquery : Connection.query DatabaseFile.userVersion c = .ok current c')
    (migrations : List Migration) :
    runMigrationsOf migrations c =
      migrateFrom current current.toNat (migrations.drop current.toNat) c' := by
  rw [runMigrationsOf, Outcome.bind_ok hquery, migrateFrom_skip]
  simp

theorem obeys_migrationBody (target : Int) (sql : List (DatabaseFile → Option DatabaseFile)) :
    Connection.Obeys (migrationBody target sql) (migrated target sql) :=
  (Connection.obeys_executeBatch sql).bind (Connection.obeys_executeBatch _)

section Loop

variable {c : Connection DatabaseFile} {current : Int} {index : Nat}

theorem isOk_migrateFrom_willing (hwork : c.work = none) (hcurrent : current ≤ index)
    (rest : List Migration) :
    IsOk (migrateFrom current index rest c.willing) ↔
      (migratedFrom index rest c.committed).isSome := by
  induction rest generalizing index c with
  | nil => exact iff_of_true trivial rfl
  | cons migration rest ih =>
    obtain ⟨name, sql⟩ := migration
    obtain ⟨hok, herror⟩ := withTransaction_obeys (obeys_migrationBody (index + 1) sql) hwork
    rw [migrateFrom_cons hcurrent, migratedFrom]
    cases hmigrated : migrated (index + 1) sql c.committed with
    | none =>
      obtain ⟨e, hrun⟩ := herror hmigrated
      rw [Outcome.bind_error hrun]
      exact iff_of_false id (by simp)
    | some file =>
      obtain ⟨u, hrun⟩ := hok file hmigrated
      rw [Outcome.bind_ok hrun]
      exact ih (c := { c.willing with committed := file }) hwork (by push_cast; omega)

theorem isOk_migrateFrom_open (hwork : c.work.isSome) (hcurrent : current ≤ index)
    (rest : List Migration) : IsOk (migrateFrom current index rest c) ↔ rest = [] := by
  cases rest with
  | nil => exact iff_of_true trivial rfl
  | cons migration rest =>
    obtain ⟨name, sql⟩ := migration
    rw [migrateFrom_cons hcurrent, Outcome.bind_error (withTransaction_of_open hwork _)]
    exact iff_of_false id (List.cons_ne_nil _ _)

end Loop

/-- A second `run_migrations` goes through when no transaction is open and the
pending migrations can be applied, or when in the open one none is pending. -/
theorem isOk_runMigrationsOf_willing (migrations : List Migration)
    (c : Connection DatabaseFile) :
    IsOk (runMigrationsOf migrations c.willing) ↔
      Settled (fun file => pending migrations file = []) c ∧
        (c.work = none → Upgradable migrations c.committed) := by
  have hquery : Connection.query DatabaseFile.userVersion c.willing =
      .ok c.current.userVersion c.willing := rfl
  have hcurrent : c.current.userVersion ≤ c.current.userVersion.toNat := Int.self_le_toNat _
  rw [runMigrationsOf_of_query hquery]
  cases hwork : c.work with
  | none =>
    have hsee : c.current = c.committed := by rw [Connection.current, hwork]; rfl
    rw [isOk_migrateFrom_willing hwork hcurrent, hsee]
    constructor
    · intro h
      exact ⟨settled_of_autocommit hwork, fun _ => h⟩
    · intro h
      exact h.2 rfl
  | some s =>
    have hsee : c.current = s := by rw [Connection.current, hwork]; rfl
    have hsome : c.willing.work.isSome := by rw [Connection.willing, hwork]; rfl
    rw [isOk_migrateFrom_open hsome hcurrent, hsee]
    constructor
    · intro h
      refine ⟨fun s' hs' => ?_, fun hnone => absurd hnone (by simp)⟩
      cases hwork.symm.trans hs'
      exact h
    · intro h
      exact h.1 s hwork

/-! ### What the first call leaves -/

/-- The statement leaves the version alone. -/
def KeepsVersion (f : DatabaseFile → Option DatabaseFile) : Prop :=
  ∀ file file', f file = some file' → file'.userVersion = file.userVersion

theorem keepsVersion_createObject (name : String) : KeepsVersion (createObject name) := by
  intro file file' h
  unfold createObject at h
  split at h
  next => cases h
  next =>
    cases h
    rfl

/-- The statements of the migrations do. -/
def KeepVersion (migrations : List Migration) : Prop :=
  ∀ migration ∈ migrations, ∀ f ∈ migration.2, KeepsVersion f

theorem keepVersion_MIGRATIONS : KeepVersion MIGRATIONS := by
  simp [KeepVersion, MIGRATIONS, keepsVersion_createObject]

section First

variable {c c' : Connection DatabaseFile} {sql : List (DatabaseFile → Option DatabaseFile)}
  {target : Int} {migrations rest : List Migration} {current : Int} {index : Nat}

/-- Inside a transaction a migration that fails has not set the version. -/
theorem migrationBody_leaves
    (hkeep : ∀ f ∈ sql, KeepsVersion f) {file s : DatabaseFile} (hwork : c.work = some file)
    (hwork' : (state (migrationBody target sql c)).work = some s) :
    migrated target sql file = some s ∨ s.userVersion = file.userVersion := by
  cases hrun : migrationBody target sql c with
  | ok u c₁ =>
    obtain ⟨s', hs', hwork₁⟩ := (performs_migrationBody target sql c file hwork).2 u c₁ hrun
    rw [hrun, Outcome.state_ok, hwork₁] at hwork'
    cases hwork'
    exact Or.inl hs'
  | error e c₁ =>
    rw [hrun, Outcome.state_error] at hwork'
    cases hbatch : Connection.executeBatch sql c with
    | error e' c₂ =>
      rw [migrationBody, Outcome.bind_error hbatch] at hrun
      cases hrun
      refine Or.inr (Connection.work_executeBatch _ hkeep hwork ?_)
      rw [hbatch]
      exact hwork'
    | ok u c₂ =>
      obtain ⟨s₂, -, hwork₂⟩ := (Connection.performs_executeBatch sql c file hwork).2 u c₂ hbatch
      have hfirst : s₂.userVersion = file.userVersion := by
        refine Connection.work_executeBatch _ hkeep hwork ?_
        rw [hbatch]
        exact hwork₂
      -- the statement that sets the version has failed
      rw [migrationBody, Outcome.bind_ok hbatch] at hrun
      cases hset : Connection.execute (setUserVersion target) c₂ with
      | ok u c₃ =>
        rw [Connection.executeBatch, Outcome.bind_ok hset] at hrun
        cases hrun
      | error e' c₃ =>
        rw [Connection.executeBatch, Outcome.bind_error hset] at hrun
        cases hrun
        rcases Connection.work_of_execute_error hset with hstays | hgone
        · cases hwork'.symm.trans (hstays.trans hwork₂)
          exact Or.inr hfirst
        · exact absurd (hwork'.symm.trans hgone) (by simp)

/-- Some migrations in their order, up to the one whose transaction is left open
if there is one. -/
inductive Leaves (index : Nat) (migrations : List Migration) (file : DatabaseFile)
    (c' : Connection DatabaseFile) : Prop
  | ended (applied left : List Migration) (hsplit : migrations = applied ++ left)
      (hwork : c'.work = none) (hfile : migratedFrom index applied file = some c'.committed)
  | inside (applied left : List Migration) (name : String)
      (sql : List (DatabaseFile → Option DatabaseFile)) (file' s : DatabaseFile)
      (hsplit : migrations = applied ++ (name, sql) :: left) (hwork : c'.work = some s)
      (hfile : migratedFrom index applied file = some file')
      (hs : migrated (index + applied.length + 1) sql file' = some s ∨
        s.userVersion = file'.userVersion)

theorem Leaves.cons {name : String} {file file' : DatabaseFile}
    (hfirst : migrated (index + 1) sql file = some file') (h : Leaves (index + 1) rest file' c') :
    Leaves index ((name, sql) :: rest) file c' := by
  have happlied : ∀ applied, migratedFrom index ((name, sql) :: applied) file =
      migratedFrom (index + 1) applied file' := by
    intro applied
    rw [migratedFrom, hfirst]
    rfl
  cases h with
  | ended applied left hsplit hwork hfile =>
    refine .ended ((name, sql) :: applied) left (by rw [hsplit]; rfl) hwork ?_
    rw [happlied]
    exact hfile
  | inside applied left name' sql' file₁ s hsplit hwork hfile hs =>
    refine .inside ((name, sql) :: applied) left name' sql' file₁ s (by rw [hsplit]; rfl) hwork
      ?_ ?_
    · rw [happlied]
      exact hfile
    · have hindex : ((index + 1 : Nat) : Int) + applied.length + 1 =
          index + (((name, sql) :: applied).length : Nat) + 1 := by
        rw [List.length_cons]
        push_cast
        ring
      rw [← hindex]
      exact hs

theorem migrateFrom_leaves (hkeep : KeepVersion rest) (hwork : c.work = none)
    (hcurrent : current ≤ index) :
    Leaves index rest c.committed (state (migrateFrom current index rest c)) := by
  induction rest generalizing index c with
  | nil => exact .ended [] [] rfl hwork rfl
  | cons migration rest ih =>
    obtain ⟨name, sql⟩ := migration
    obtain ⟨hok, herror⟩ :=
      withTransaction_leaves (performs_migrationBody (index + 1) sql) hwork
    rw [migrateFrom_cons hcurrent]
    cases hrun : withTransaction (migrationBody (index + 1) sql) c with
    | ok u c₁ =>
      obtain ⟨hwork₁, hmigrated, -⟩ := hok u c₁ hrun
      rw [Outcome.bind_ok hrun]
      refine Leaves.cons hmigrated (ih ?_ hwork₁ (by push_cast; omega))
      exact fun migration hm => hkeep migration (List.mem_cons_of_mem _ hm)
    | error e c₁ =>
      obtain ⟨hsame, hopened⟩ := herror e c₁ hrun
      rw [Outcome.bind_error hrun, Outcome.state_error]
      cases hwork₁ : c₁.work with
      | none => exact .ended [] _ rfl hwork₁ (by rw [hsame]; rfl)
      | some s =>
        obtain ⟨tx, c₂, hopen, hs⟩ := hopened s hwork₁
        have hwork₂ : c₂.work = some c.committed := by rw [(transaction_eq_ok hopen).2.2.2]
        refine .inside [] rest name sql c.committed s rfl hwork₁ rfl ?_
        exact migrationBody_leaves (hkeep _ List.mem_cons_self) hwork₂ hs

theorem userVersion_migratedFrom {applied : List Migration} {file file' : DatabaseFile}
    (h : migratedFrom index applied file = some file') (hne : applied ≠ []) :
    file'.userVersion = index + applied.length := by
  induction applied using List.reverseRecOn with
  | nil => exact absurd rfl hne
  | append_singleton before migration =>
    obtain ⟨name, sql⟩ := migration
    rw [migratedFrom_concat] at h
    obtain ⟨file₁, -, hlast⟩ := Option.bind_eq_some_iff.mp h
    rw [userVersion_migrated hlast, List.length_append, List.length_singleton]
    push_cast
    ring

/-- Behind some of the pending migrations the others are pending. -/
theorem pending_migratedFrom {applied left : List Migration} {file file' : DatabaseFile}
    (hsplit : pending migrations file = applied ++ left)
    (h : migratedFrom file.userVersion.toNat applied file = some file') :
    file'.userVersion.toNat = file.userVersion.toNat + applied.length ∧
      pending migrations file' = left := by
  have hversion : file'.userVersion.toNat = file.userVersion.toNat + applied.length := by
    by_cases hne : applied = []
    · subst hne
      cases h
      rfl
    · rw [userVersion_migratedFrom h hne]
      omega
  refine ⟨hversion, ?_⟩
  unfold pending at hsplit ⊢
  rw [hversion, ← List.drop_drop, hsplit, List.drop_left]

/-- A first call that leaves no pending migration in an open transaction leaves a
database that can be upgraded when it found one. -/
theorem Leaves.upgradable_iff {file : DatabaseFile}
    (h : Leaves file.userVersion.toNat (pending migrations file) file c')
    (hsettled : Settled (fun file => pending migrations file = []) c') :
    (c'.work = none → Upgradable migrations c'.committed) ↔ Upgradable migrations file := by
  cases h with
  | ended applied left hsplit hwork hfile =>
    obtain ⟨hversion, hpending⟩ := pending_migratedFrom hsplit hfile
    have hsame : Upgradable migrations c'.committed ↔ Upgradable migrations file := by
      unfold Upgradable
      rw [hpending, hsplit, migratedFrom_append, hfile, hversion]
      rfl
    rw [← hsame]
    exact ⟨fun h => h hwork, fun h _ => h⟩
  | inside applied left name sql file' s hsplit hwork hfile hs =>
    obtain ⟨hversion, hpending⟩ := pending_migratedFrom hsplit hfile
    have hnone : pending migrations s = [] := hsettled s hwork
    refine iff_of_true (fun hover => absurd (hwork.symm.trans hover) (by simp)) ?_
    rcases hs with hmigrated | hstill
    · have hconcat : migratedFrom file.userVersion.toNat (applied ++ [(name, sql)]) file =
          some s := by
        rw [migratedFrom_concat, hfile]
        exact hmigrated
      have hsplit' : pending migrations file = (applied ++ [(name, sql)]) ++ left := by
        rw [hsplit, List.append_assoc, List.singleton_append]
      have hleft : left = [] := (pending_migratedFrom hsplit' hconcat).2.symm.trans hnone
      unfold Upgradable
      rw [hsplit', hleft, List.append_nil, hconcat]
      rfl
    · have hsame : pending migrations s = pending migrations file' := by
        unfold pending
        rw [hstill]
      rw [hsame, hpending] at hnone
      cases hnone

end First

/-! ### The ends of its transactions -/

/-- Of the transactions that the migrations open one after the other none is left
open with a migration pending: neither that of the first nor, behind a success,
those that follow. -/
def MigrationsEnd (migrations : List Migration) :
    Nat → List Migration → Connection DatabaseFile → Prop
  | _, [], _ => True
  | index, (_, sql) :: rest, c =>
    EndsUnless (fun file => pending migrations file = []) (migrationBody (index + 1) sql) c ∧
      ∀ u c', withTransaction (migrationBody (index + 1) sql) c = .ok u c' →
        MigrationsEnd migrations (index + 1) rest c'

theorem settled_migrateFrom_iff (migrations rest : List Migration) {current : Int} {index : Nat}
    {c : Connection DatabaseFile} (hwork : c.work = none) (hcurrent : current ≤ index) :
    Settled (fun file => pending migrations file = [])
        (state (migrateFrom current index rest c)) ↔
      MigrationsEnd migrations index rest c := by
  induction rest generalizing index c with
  | nil => exact iff_of_true (settled_of_autocommit hwork) trivial
  | cons migration rest ih =>
    obtain ⟨name, sql⟩ := migration
    have hguard : Settled (fun file => pending migrations file = [])
        (state (withTransaction (migrationBody (index + 1) sql) c)) ↔ _ :=
      settled_withTransaction_iff hwork (migrationBody (index + 1) sql)
    rw [migrateFrom_cons hcurrent, MigrationsEnd]
    cases hrun : withTransaction (migrationBody (index + 1) sql) c with
    | ok u c' =>
      have hover : c'.work = none := work_of_withTransaction_ok hrun
      rw [hrun] at hguard
      rw [Outcome.bind_ok hrun, ih hover (by push_cast; omega)]
      constructor
      · intro h
        refine ⟨hguard.mp (settled_of_autocommit hover), fun u' c'' hok => ?_⟩
        cases hok
        exact h
      · intro h
        exact h.2 u c' rfl
    | error e c' =>
      rw [hrun] at hguard
      rw [Outcome.bind_error hrun, Outcome.state_error]
      constructor
      · intro h
        exact ⟨hguard.mp h, fun u c'' hok => nomatch hok⟩
      · intro h
        exact hguard.mpr h.1

/-- No transaction that `run_migrations` opens is left open with a migration
pending. -/
def RunMigrationsEnd (migrations : List Migration) (c : Connection DatabaseFile) : Prop :=
  ∀ current c', Connection.query DatabaseFile.userVersion c = .ok current c' →
    MigrationsEnd migrations current.toNat (migrations.drop current.toNat) c'

/-- The second of two calls goes through exactly when the migrations can be
applied and the first has ended its transactions. -/
theorem runMigrationsOf_twice_iff {migrations : List Migration} (hkeep : KeepVersion migrations)
    {c : Connection DatabaseFile} (hwork : c.work = none) :
    IsOk (runMigrationsOf migrations (state (runMigrationsOf migrations c)).willing) ↔
      Upgradable migrations c.committed ∧ RunMigrationsEnd migrations c := by
  have hpending : KeepVersion (migrations.drop c.committed.userVersion.toNat) :=
    fun migration hm => hkeep migration (List.mem_of_mem_drop hm)
  have hversion : c.current.userVersion = c.committed.userVersion := by
    rw [Connection.current, hwork]
    rfl
  rw [isOk_runMigrationsOf_willing]
  unfold RunMigrationsEnd
  cases hquery : Connection.query DatabaseFile.userVersion c with
  | error e c' =>
    have hbody : Connection.Body False (Connection.query DatabaseFile.userVersion) := .query _
    have hstays := hbody.autocommit hwork
    have hkept := Connection.committed_query DatabaseFile.userVersion c
    rw [hquery, Outcome.state_error] at hstays hkept
    rw [runMigrationsOf, Outcome.bind_error hquery, Outcome.state_error, hkept]
    constructor
    · intro h
      refine ⟨h.2 hstays, fun current c'' hok => ?_⟩
      cases hok
    · intro h
      exact ⟨settled_of_autocommit hstays, fun _ => h.1⟩
  | ok current c' =>
    obtain ⟨rfl, rfl⟩ := Connection.query_eq_ok hquery
    rw [hversion] at hquery
    have hle : c.committed.userVersion ≤ c.committed.userVersion.toNat := Int.self_le_toNat _
    have hnext : c.next.work = none := hwork
    have hends := settled_migrateFrom_iff migrations (pending migrations c.committed) hnext hle
    have hleaves := migrateFrom_leaves hpending hnext hle
    rw [runMigrationsOf_of_query hquery, hversion]
    constructor
    · rintro ⟨hsettled, hup⟩
      refine ⟨(hleaves.upgradable_iff hsettled).mp hup, fun current' c'' hok => ?_⟩
      cases hok
      exact hends.mp hsettled
    · rintro ⟨hup, hend⟩
      have hsettled := hends.mpr (hend _ _ rfl)
      exact ⟨hsettled, (hleaves.upgradable_iff hsettled).mpr hup⟩

/-! ## The guard -/

/-- A use of the guard ends its transaction and is all or nothing exactly when
the statement that ends it is not refused with the transaction left open, and no
statement has changed the database since the engine rolled it back.

A second `take_one_time_prekey` goes through exactly when the end of the first
was not refused.  A second `run_migrations` does exactly when the pending
migrations can be applied at all and no end was refused but that of the last
migration, whose version it then reads from the open transaction. -/
theorem transaction_guard_iff :
    (∀ (tolerant : Prop) (body : SqlM σ α) (c c₁ : Connection σ) (tx : Transaction),
      Connection.Body tolerant body → transaction c = .ok tx c₁ →
        (AllOrNothing c.committed (state (body c.next)).committed (withTransaction body c) ↔
          Contained c.committed (state (body c₁)))) ∧
      (∀ c : Connection DatabaseFile, c.work = none →
        (IsOk (takeOneTimePrekey (state (takeOneTimePrekey c)).willing) ↔ TakeEnds c)) ∧
      ∀ c : Connection DatabaseFile, c.work = none →
        (IsOk (runMigrations (state (runMigrations c)).willing) ↔
          Upgradable MIGRATIONS c.committed ∧ RunMigrationsEnd MIGRATIONS c) := by
  refine ⟨?_, ?_, ?_⟩
  · intro tolerant body c c₁ tx hbody hopen
    exact allOrNothing_iff hbody hopen
  · intro c hwork
    rw [isOk_takeOneTimePrekey_willing]
    exact settled_withTransaction_iff hwork takeBody
  · intro c hwork
    exact runMigrationsOf_twice_iff keepVersion_MIGRATIONS hwork

/-- A file with one one-time prekey. -/
def oneKeyFile : DatabaseFile :=
  { userVersion := 1
    objects := ["prekeys"]
    prekeys :=
      [{ keyId := 5, kind := 1, classical := [1], pq := [2], publicClassical := [3],
         publicPq := [4], signature := [], createdAt := 0 }] }

instance (migrations : List Migration) (file : DatabaseFile) :
    Decidable (Upgradable migrations file) := inferInstanceAs (Decidable (_ = true))

/-- An engine that refuses the `COMMIT` of the migration. -/
def refusingCommit : Connection DatabaseFile :=
  { committed := emptyFile, work := none, replies := List.replicate 15 .done ++ [.refused] }

/-- The migration has set the version when its `COMMIT` is refused. -/
theorem runMigrationsEnd_refusingCommit : RunMigrationsEnd MIGRATIONS refusingCommit := by
  have hversion : (state (guarded (migrationBody 1 MIGRATIONS[0].2) refusingCommit.next)).work.map
      DatabaseFile.userVersion = some 1 := by decide +kernel
  have hfails : ¬ IsOk (withTransaction (migrationBody 1 MIGRATIONS[0].2) refusingCommit.next) := by
    decide +kernel
  intro current c' hquery
  obtain ⟨rfl, rfl⟩ := Connection.query_eq_ok hquery
  refine ⟨fun tx c₁ hopen s hs => Or.inl ?_, fun u c' hok => ?_⟩
  · have hwork : (state (guarded (migrationBody 1 MIGRATIONS[0].2) refusingCommit.next)).work =
        some s := by
      rw [guarded, Outcome.bind_ok hopen]
      exact hs
    rw [hwork] at hversion
    have hone : s.userVersion = 1 := Option.some.inj hversion
    show MIGRATIONS.drop s.userVersion.toNat = []
    rw [hone]
    rfl
  · have hrun : withTransaction (migrationBody 1 MIGRATIONS[0].2) refusingCommit.next =
        .ok u c' := hok
    rw [hrun] at hfails
    exact absurd trivial hfails

/-- The engine refuses `DELETE`, the guard is dropped, and the second call goes
through.  Behind the refused `COMMIT` of a migration it does so as well. -/
theorem transaction_guard_refusedDelete :
    ∃ c : Connection DatabaseFile, c = ⟨oneKeyFile, none, [.done, .done, .refused]⟩ ∧
      AllOrNothing c.committed (state (takeBody c.next)).committed (takeOneTimePrekey c) ∧
      IsOk (takeOneTimePrekey (state (takeOneTimePrekey c)).willing) ∧
      IsOk (runMigrations (state (runMigrations refusingCommit)).willing) := by
  have hbody : Connection.Body False takeBody := by
    refine .bind (.query _) fun record => ?_
    cases record with
    | none => exact .pure none
    | some r => exact .bind (.execute _) fun _ => .pure (some r)
  have hupgradable : Upgradable MIGRATIONS refusingCommit.committed := by decide +kernel
  obtain ⟨hguard, htake, hrun⟩ :=
    transaction_guard_iff (σ := DatabaseFile) (α := Option PreKeyRecord)
  refine ⟨_, rfl, ?_, ?_, ?_⟩
  · refine (hguard False takeBody _ _ { done := false } hbody rfl).mpr ?_
    exact ⟨fun _ => by decide, fun h => nomatch h⟩
  · refine (htake _ rfl).mpr ?_
    intro tx c₁ hopen s hs
    cases hopen
    exact Or.inr (by decide)
  · have hiff := hrun refusingCommit rfl
    rw [hiff]
    exact ⟨hupgradable, runMigrationsEnd_refusingCommit⟩

/-- The engine refuses `COMMIT` and keeps the transaction.  Nothing rolls it
back, and the next call fails although the engine does what it is told.  The
migrations, of which none is pending, can be called. -/
theorem refused_commit_blocks_take :
    ∃ c : Connection DatabaseFile, c = ⟨oneKeyFile, none, [.done, .done, .done, .refused]⟩ ∧
      ∃ c', takeOneTimePrekey c = .error .failed c' ∧ c'.work.isSome ∧ c'.replies = [] ∧
        takeOneTimePrekey c'.willing = .error .nested c' ∧ IsOk (runMigrations c'.willing) :=
  ⟨_, rfl, _, rfl, rfl, rfl, rfl, trivial⟩

end Presidium
