import Presidium.Lib.Engine

/-!
# The transaction guard of `presidium-sqleet`

`Connection::transaction` opens a transaction and returns a guard, whose drop
rolls back unless it was committed.  `commit` marks the guard before it sends
`COMMIT`, so the drop does nothing even when `COMMIT` was refused.

`allOrNothing_iff` says when a use of the guard ends the transaction and is all
or nothing.  `withTransaction_performs` is for an engine that carries out every
`COMMIT` and `ROLLBACK`.
-/

namespace Presidium

open Outcome (state result)

variable {σ α : Type}

structure Transaction where
  done : Bool

/-- Begin a transaction. -/
def transaction : SqlM σ Transaction := do
  Connection.begin
  return { done := false }

namespace Transaction

/-- `Drop` of the guard; an error of `ROLLBACK` is ignored. -/
def drop (tx : Transaction) : SqlM σ Unit :=
  if tx.done then pure ()
  else do
    let _ ← Connection.observe Connection.rollback

/-- Commit the transaction.  The guard is dropped at the end of the call. -/
def commit (tx : Transaction) : SqlM σ Unit := do
  let tx := { tx with done := true }
  let sent ← Connection.observe Connection.commit
  tx.drop
  match sent with
  | .ok _ => pure ()
  | .error e => throw e

/-- The statements behind `transaction`: an error leaves the scope of the guard
and drops it. -/
def scope (tx : Transaction) (body : SqlM σ α) : SqlM σ α := do
  match ← Connection.observe body with
  | .ok a => pure a
  | .error e => do
    tx.drop
    throw e

end Transaction

/-- A use of the guard: the body runs and its guard is committed, or it fails
and the guard is dropped. -/
def withTransaction (body : SqlM σ α) : SqlM σ α := do
  let tx ← transaction
  let a ← tx.scope body
  tx.commit
  return a

/-! ## The guard in one equation -/

section Guard

variable {c c₁ : Connection σ} {tx : Transaction}

/-- A transaction starts in autocommit mode, with the database as its working
copy. -/
theorem transaction_eq_ok (h : transaction c = .ok tx c₁) :
    c.work = none ∧ c.reply = .done ∧ tx = { done := false } ∧
      c₁ = { c.next with work := some c.committed } := by
  have hbegin : Connection.begin c = .ok () c₁ ∧ tx = { done := false } := by
    cases hrun : (Connection.begin : SqlM σ Unit) c with
    | ok u c' =>
      rw [transaction, Outcome.bind_ok hrun] at h
      cases h
      exact ⟨rfl, rfl⟩
    | error e c' =>
      rw [transaction, Outcome.bind_error hrun] at h
      cases h
  obtain ⟨hbegin, htx⟩ := hbegin
  unfold Connection.begin at hbegin
  cases hwork : c.work with
  | some s =>
    simp only [hwork] at hbegin
    cases hbegin
  | none =>
    simp only [hwork, Connection.ask] at hbegin
    cases hreply : c.reply with
    | refused => simp only [hreply] at hbegin; cases hbegin
    | rolledBack => simp only [hreply] at hbegin; cases hbegin
    | done =>
      simp only [hreply] at hbegin
      cases hbegin
      exact ⟨rfl, rfl, htx, rfl⟩

namespace Transaction

variable {body : SqlM σ α}

theorem scope_of_ok {c c' : Connection σ} {a : α} (h : body c = .ok a c') (tx : Transaction) :
    tx.scope body c = .ok a c' := by
  rw [scope, Outcome.bind_ok (Connection.observe_of_ok h)]
  rfl

theorem scope_of_error {c c' : Connection σ} {e : SqlError} (h : body c = .error e c') :
    scope { done := false } body c = .error e (state (Connection.rollback c')) := by
  rw [scope, Outcome.bind_ok (Connection.observe_of_error h)]
  rfl

/-- Behind `COMMIT` there is nothing left for `Drop`, whether it went through
or not. -/
theorem commit_eq (tx : Transaction) (c : Connection σ) : tx.commit c = Connection.commit c := by
  cases hcommit : (Connection.commit : SqlM σ Unit) c with
  | ok u c' =>
    rw [commit, Outcome.bind_ok (Connection.observe_of_ok hcommit)]
    rfl
  | error e c' =>
    rw [commit, Outcome.bind_ok (Connection.observe_of_error hcommit)]
    rfl

end Transaction

/-- The guard as the statements that are sent. -/
theorem withTransaction_eq_do (body : SqlM σ Unit) :
    withTransaction body = (do
      Connection.begin
      Transaction.scope { done := false } body
      Connection.commit) := by
  have hcommit : ∀ tx : Transaction, (tx.commit : SqlM σ Unit) = Connection.commit :=
    fun tx => funext tx.commit_eq
  simp only [withTransaction, transaction, bind_assoc, pure_bind, hcommit]
  refine congrArg (Connection.begin >>= ·) (funext fun _ => ?_)
  exact congrArg (_ >>= ·) (funext fun _ => bind_pure_unit)

/-- What the guard comes to: `COMMIT` behind a body that succeeds, and nothing
behind that; `ROLLBACK` behind a body that fails. -/
theorem withTransaction_eq (h : transaction c = .ok tx c₁) (body : SqlM σ α) :
    withTransaction body c =
      match body c₁ with
      | .ok a c₂ =>
        match Connection.commit c₂ with
        | .ok _ c₃ => .ok a c₃
        | .error e c₃ => .error e c₃
      | .error e c₂ => .error e (state (Connection.rollback c₂)) := by
  obtain ⟨-, -, rfl, -⟩ := transaction_eq_ok h
  rw [withTransaction, Outcome.bind_ok h]
  cases hbody : body c₁ with
  | ok a c₂ =>
    rw [Outcome.bind_ok (Transaction.scope_of_ok hbody _), Outcome.bind_eq, Transaction.commit_eq]
    simp only
    cases (Connection.commit : SqlM σ Unit) c₂ with
    | ok u c₃ => rfl
    | error e c₃ => rfl
  | error e c₂ => rw [Outcome.bind_error (Transaction.scope_of_error hbody)]

end Guard

/-! ## All or nothing -/

/-- The connection is back in autocommit mode, with all of the effects behind a
success and none of them behind an error. -/
def AllOrNothing (start effects : σ) : Outcome SqlError (Connection σ) α → Prop
  | .ok _ c => c.work = none ∧ c.committed = effects
  | .error _ c => c.work = none ∧ c.committed = start

/-- The next statement does not find the transaction open and refused. -/
def Ends (c : Connection σ) : Prop := c.work.isSome → c.reply ≠ .refused

/-- The connection before the statement that is to end the transaction. -/
structure Contained (start : σ) (c : Connection σ) : Prop where
  /-- The statement is not refused with the transaction left open. -/
  ends : Ends c
  /-- When the engine has rolled the transaction back before, no statement has
  changed the database since. -/
  untouched : c.work = none → c.committed = start

/-- `COMMIT` ends an open transaction, unless it is refused. -/
theorem commit_of_open {c : Connection σ} {s : σ} (hwork : c.work = some s) :
    Connection.commit c =
      match c.reply with
      | .done => .ok () { c.next with committed := s, work := none }
      | .refused => .error .failed c.next
      | .rolledBack => .error .failed c.next.abort := by
  cases hreply : c.reply with
  | done => simp only [Connection.commit, Connection.ask, hwork, hreply]
  | refused => simp only [Connection.commit, Connection.ask, hwork, hreply]
  | rolledBack => simp only [Connection.commit, Connection.ask, hwork, hreply]

theorem commit_of_autocommit {c : Connection σ} (hwork : c.work = none) :
    Connection.commit c = .error .inactive c := by
  unfold Connection.commit
  simp only [hwork]

/-- `ROLLBACK` does too. -/
theorem rollback_of_open {c : Connection σ} {s : σ} (hwork : c.work = some s) :
    state (Connection.rollback c) = if c.reply = .refused then c.next else c.next.abort := by
  unfold Connection.rollback Connection.ask
  simp only [hwork]
  cases c.reply with
  | done => rfl
  | refused => rfl
  | rolledBack => rfl

theorem rollback_of_autocommit {c : Connection σ} (hwork : c.work = none) :
    state (Connection.rollback c) = c := by
  unfold Connection.rollback
  simp only [hwork]
  rfl

theorem committed_rollback (c : Connection σ) :
    (state (Connection.rollback c)).committed = c.committed := by
  cases hwork : c.work with
  | none => rw [rollback_of_autocommit hwork]
  | some s =>
    rw [rollback_of_open hwork]
    split
    · rfl
    · rfl

theorem work_commit (c : Connection σ) :
    (state (Connection.commit c)).work = if c.reply = .refused then c.work else none := by
  cases hwork : c.work with
  | none => simp [commit_of_autocommit hwork, hwork]
  | some s =>
    rw [commit_of_open hwork]
    cases hreply : c.reply with
    | done => simp
    | refused => simp [Connection.next, hwork]
    | rolledBack => simp [Connection.abort]

theorem work_rollback (c : Connection σ) :
    (state (Connection.rollback c)).work = if c.reply = .refused then c.work else none := by
  cases hwork : c.work with
  | none => simp [rollback_of_autocommit hwork, hwork]
  | some s =>
    rw [rollback_of_open hwork]
    by_cases hreply : c.reply = .refused
    · simp [hreply, Connection.next, hwork]
    · simp [hreply, Connection.abort]

/-- Whatever the body does, its transaction stays open behind the guard exactly
when the statement that ends it is refused. -/
theorem work_withTransaction {c c₁ : Connection σ} {tx : Transaction}
    (hopen : transaction c = .ok tx c₁) (body : SqlM σ α) :
    (state (withTransaction body c)).work =
      if (state (body c₁)).reply = .refused then (state (body c₁)).work else none := by
  rw [withTransaction_eq hopen]
  cases body c₁ with
  | ok a c₂ =>
    have hcommit := work_commit c₂
    cases hrun : (Connection.commit : SqlM σ Unit) c₂ with
    | ok u c₃ =>
      rw [hrun] at hcommit
      simp only [hrun]
      exact hcommit
    | error e c₃ =>
      rw [hrun] at hcommit
      simp only [hrun]
      exact hcommit
  | error e c₂ => exact work_rollback c₂

/-- A use that succeeds has ended its transaction. -/
theorem work_of_withTransaction_ok {c c' : Connection σ} {body : SqlM σ α} {a : α}
    (h : withTransaction body c = .ok a c') : c'.work = none := by
  cases hopen : (transaction : SqlM σ Transaction) c with
  | error e c₁ =>
    rw [withTransaction, Outcome.bind_error hopen] at h
    cases h
  | ok tx c₁ =>
    rw [withTransaction_eq hopen] at h
    cases hbody : body c₁ with
    | error e c₂ =>
      simp only [hbody] at h
      cases h
    | ok b c₂ =>
      simp only [hbody] at h
      cases hwork : c₂.work with
      | none =>
        simp only [commit_of_autocommit hwork] at h
        cases h
      | some s =>
        simp only [commit_of_open hwork] at h
        cases hreply : c₂.reply with
        | done =>
          simp only [hreply] at h
          cases h
          rfl
        | refused => simp only [hreply] at h; cases h
        | rolledBack => simp only [hreply] at h; cases h

section Iff

variable {tolerant : Prop} {c c₁ : Connection σ} {tx : Transaction} {body : SqlM σ α}

theorem contained_of_autocommit (hwork : c.work = none) (start : σ) :
    Contained start c ↔ c.committed = start := by
  constructor
  · intro h
    exact h.untouched hwork
  · intro h
    exact ⟨fun hsome => absurd hsome (by simp [hwork]), fun _ => h⟩

theorem contained_of_open {s : σ} (hwork : c.work = some s) (start : σ) :
    Contained start c ↔ c.reply ≠ .refused := by
  constructor
  · intro h
    exact h.ends (by simp [hwork])
  · intro h
    exact ⟨fun _ => h, fun hnone => absurd hnone (by simp [hwork])⟩

/-- A use of the guard is all or nothing exactly when its end is contained.  The
effects are those of the same statements in autocommit mode. -/
theorem allOrNothing_iff (hbody : Connection.Body tolerant body)
    (hopen : transaction c = .ok tx c₁) :
    AllOrNothing c.committed (state (body c.next)).committed (withTransaction body c) ↔
      Contained c.committed (state (body c₁)) := by
  obtain ⟨hauto, -, -, hc₁⟩ := transaction_eq_ok hopen
  have hmirrors : Connection.Mirrors c.committed c₁ c.next := by
    rw [hc₁]
    exact ⟨rfl, rfl, hauto, rfl⟩
  -- as long as the transaction is open, its copy is what autocommit would have made
  have hsim : ∀ s, (state (body c₁)).work = some s →
      Connection.Mirrors c.committed (state (body c₁)) (state (body c.next)) := by
    intro s hwork
    rcases hbody.simulates hmirrors with hgone | ⟨-, hm⟩
    · exact absurd hgone (by simp [hwork])
    · exact hm
  rw [withTransaction_eq hopen]
  cases hrun : body c₁ with
  | ok a c₂ =>
    rw [hrun, Outcome.state_ok] at hsim
    rw [Outcome.state_ok]
    cases hwork : c₂.work with
    | none =>
      rw [contained_of_autocommit hwork]
      simp only [commit_of_autocommit hwork, AllOrNothing, hwork, true_and]
    | some s =>
      have hm := hsim s hwork
      have hs : s = (state (body c.next)).committed := Option.some.inj (hwork.symm.trans hm.work)
      rw [contained_of_open hwork]
      simp only [commit_of_open hwork]
      cases hreply : c₂.reply with
      | done => exact iff_of_true ⟨rfl, hs⟩ nofun
      | refused =>
        refine iff_of_false (fun h => ?_) (fun h => h rfl)
        exact absurd (hwork.symm.trans h.1) (by simp)
      | rolledBack => exact iff_of_true ⟨rfl, hm.committed⟩ nofun
  | error e c₂ =>
    rw [hrun, Outcome.state_error] at hsim
    rw [Outcome.state_error]
    cases hwork : c₂.work with
    | none =>
      rw [contained_of_autocommit hwork]
      simp only [rollback_of_autocommit hwork, AllOrNothing, hwork, true_and]
    | some s =>
      rw [contained_of_open hwork]
      simp only [rollback_of_open hwork]
      by_cases hreply : c₂.reply = .refused
      · rw [if_pos hreply]
        refine iff_of_false (fun h => ?_) (fun h => h hreply)
        exact absurd (hwork.symm.trans h.1) (by simp)
      · rw [if_neg hreply]
        exact iff_of_true ⟨rfl, (hsim s hwork).committed⟩ hreply

end Iff

/-! ## An engine that ends transactions -/

/-- A transaction that does not start changes nothing. -/
theorem transaction_eq_error {c c' : Connection σ} {e : SqlError} (hwork : c.work = none)
    (h : transaction c = .error e c') : c'.work = none ∧ c'.committed = c.committed := by
  have hbegin : (∃ c₁, Connection.begin c = .ok () c₁) ∨
      ∃ e₁ c₁, Connection.begin c = .error e₁ c₁ ∧ c₁.work = none ∧
        c₁.committed = c.committed := by
    simp only [Connection.begin, hwork, Connection.ask]
    cases c.reply with
    | done => exact Or.inl ⟨_, rfl⟩
    | refused => exact Or.inr ⟨_, _, rfl, hwork, rfl⟩
    | rolledBack => exact Or.inr ⟨_, _, rfl, rfl, rfl⟩
  rcases hbegin with ⟨c₁, hok⟩ | ⟨e₁, c₁, hrun, hend⟩
  · rw [transaction, Outcome.bind_ok hok] at h
    cases h
  · rw [transaction, Outcome.bind_error hrun] at h
    cases h
    exact hend

/-- The statement that is to end the transaction, if there still is one, is
carried out. -/
def Honoured (c : Connection σ) : Prop := c.work.isSome → c.reply = .done

/-- The statements of a use of the guard, up to the one that ends it. -/
def guarded (body : SqlM σ α) : SqlM σ α := do
  let _ ← transaction
  body

section Leaves

variable {body : SqlM σ α} {effect : σ → Option σ} {c c₁ c' : Connection σ} {tx : Transaction}

/-- A use that succeeds got past its statements and commits their effect. -/
theorem effect_of_withTransaction_ok (hbody : Connection.Performs body effect)
    (hopen : transaction c = .ok tx c₁) {a : α} (h : withTransaction body c = .ok a c') :
    effect c.committed = some c'.committed ∧ Outcome.IsOk (guarded body c) := by
  have hwork₁ : c₁.work = some c.committed := by rw [(transaction_eq_ok hopen).2.2.2]
  rw [withTransaction_eq hopen] at h
  rw [guarded, Outcome.bind_ok hopen]
  cases hrun : body c₁ with
  | error e c₂ =>
    simp only [hrun] at h
    cases h
  | ok b c₂ =>
    obtain ⟨s, heffect, hwork₂⟩ := (hbody c₁ c.committed hwork₁).2 b c₂ hrun
    simp only [hrun, commit_of_open hwork₂] at h
    cases hreply : c₂.reply with
    | refused => simp only [hreply] at h; cases h
    | rolledBack => simp only [hreply] at h; cases h
    | done =>
      simp only [hreply] at h
      cases h
      exact ⟨heffect, trivial⟩

/-- A use that fails has committed nothing. -/
theorem committed_of_withTransaction_error (hbody : Connection.Performs body effect)
    (hopen : transaction c = .ok tx c₁) {e : SqlError} (h : withTransaction body c = .error e c') :
    c'.committed = c.committed := by
  obtain ⟨-, -, -, hc₁⟩ := transaction_eq_ok hopen
  have hwork₁ : c₁.work = some c.committed := by rw [hc₁]
  have hcommitted₁ : c₁.committed = c.committed := by rw [hc₁]; rfl
  obtain ⟨hkept, hok⟩ := hbody c₁ c.committed hwork₁
  rw [withTransaction_eq hopen] at h
  cases hrun : body c₁ with
  | error e c₂ =>
    rw [hrun, Outcome.state_error] at hkept
    simp only [hrun] at h
    cases h
    exact (committed_rollback c₂).trans (hkept.trans hcommitted₁)
  | ok b c₂ =>
    rw [hrun, Outcome.state_ok] at hkept
    obtain ⟨s, -, hwork₂⟩ := hok b c₂ hrun
    simp only [hrun, commit_of_open hwork₂] at h
    cases hreply : c₂.reply with
    | done => simp only [hreply] at h; cases h
    | refused =>
      simp only [hreply] at h
      cases h
      exact hkept.trans hcommitted₁
    | rolledBack =>
      simp only [hreply] at h
      cases h
      exact hkept.trans hcommitted₁

end Leaves

/-- A use of the guard that succeeds has ended its transaction with the effect of
its statements.  One that fails has changed nothing but the transaction, which
may be open as its statements have left it. -/
theorem withTransaction_leaves {body : SqlM σ α} {effect : σ → Option σ}
    (hbody : Connection.Performs body effect) {c : Connection σ} (hwork : c.work = none) :
    (∀ a c', withTransaction body c = .ok a c' →
        c'.work = none ∧ effect c.committed = some c'.committed ∧
          Outcome.IsOk (guarded body c)) ∧
      ∀ e c', withTransaction body c = .error e c' →
        c'.committed = c.committed ∧
          ∀ s, c'.work = some s →
            ∃ tx c₁, transaction c = .ok tx c₁ ∧ (state (body c₁)).work = some s := by
  cases hopen : (transaction : SqlM σ Transaction) c with
  | error e c₁ =>
    obtain ⟨hwork₁, hsame⟩ := transaction_eq_error hwork hopen
    rw [withTransaction, Outcome.bind_error hopen]
    refine ⟨fun a c' h => (nomatch h), fun e' c' h => ?_⟩
    cases h
    exact ⟨hsame, fun s hs => absurd (hs.symm.trans hwork₁) (by simp)⟩
  | ok tx c₁ =>
    refine ⟨fun a c' h => ?_, fun e c' h => ?_⟩
    · exact ⟨work_of_withTransaction_ok h, effect_of_withTransaction_ok hbody hopen h⟩
    · refine ⟨committed_of_withTransaction_error hbody hopen h, fun s hs => ⟨tx, c₁, rfl, ?_⟩⟩
      -- what is open behind the guard is open behind the statements
      have hleft := work_withTransaction hopen body
      rw [h, Outcome.state_error, hs] at hleft
      split at hleft
      next => exact hleft.symm
      next => cases hleft

/-- With an engine that ends transactions, a use of the guard fails only with
its statements, and then without effect. -/
theorem withTransaction_performs {body : SqlM σ α} {effect : σ → Option σ}
    (hbody : Connection.Performs body effect) {c : Connection σ} (hwork : c.work = none)
    (hends : ∀ tx c₁, transaction c = .ok tx c₁ → Honoured (state (body c₁))) :
    (∀ a c', withTransaction body c = .ok a c' →
        c'.work = none ∧ effect c.committed = some c'.committed ∧
          Outcome.IsOk (guarded body c)) ∧
      ∀ e c', withTransaction body c = .error e c' →
        c'.work = none ∧ c'.committed = c.committed ∧ ¬ Outcome.IsOk (guarded body c) := by
  obtain ⟨hok, herror⟩ := withTransaction_leaves hbody hwork
  refine ⟨hok, fun e c' h => ⟨?_, (herror e c' h).1, ?_⟩⟩
  · cases hwork' : c'.work with
    | none => rfl
    | some s =>
      -- an open transaction is one whose end was refused
      obtain ⟨tx, c₁, hopen, hs⟩ := (herror e c' h).2 s hwork'
      have hreply := hends tx c₁ hopen (by rw [hs]; rfl)
      have hleft := work_withTransaction hopen body
      rw [h, hreply] at hleft
      exact absurd (hwork'.symm.trans hleft) (by simp)
  · intro hguarded
    cases hopen : (transaction : SqlM σ Transaction) c with
    | error e' c₁ =>
      rw [guarded, Outcome.bind_error hopen] at hguarded
      exact hguarded
    | ok tx c₁ =>
      have hwork₁ : c₁.work = some c.committed := by rw [(transaction_eq_ok hopen).2.2.2]
      rw [guarded, Outcome.bind_ok hopen] at hguarded
      obtain ⟨a, c₂, hrun⟩ := Outcome.isOk_iff.mp hguarded
      obtain ⟨s, -, hwork₂⟩ := (hbody c₁ c.committed hwork₁).2 a c₂ hrun
      have hreply := hends tx c₁ hopen (by rw [hrun, Outcome.state_ok, hwork₂]; rfl)
      rw [hrun, Outcome.state_ok] at hreply
      rw [withTransaction_eq hopen, hrun] at h
      simp only [commit_of_open hwork₂, hreply] at h
      cases h

/-- An engine that does what it is told starts a transaction in autocommit mode
only. -/
theorem transaction_willing {c : Connection σ} (hwork : c.work = none) :
    transaction c.willing = .ok { done := false } { c.willing with work := some c.committed } := by
  have hbegin : Connection.begin c.willing =
      .ok () { c.willing with work := some c.committed } := by
    simp only [Connection.begin, Connection.willing, hwork]
    rfl
  rw [transaction, Outcome.bind_ok hbegin]
  rfl

theorem withTransaction_of_open {c : Connection σ} (hwork : c.work.isSome) (body : SqlM σ α) :
    withTransaction body c = .error .nested c := by
  obtain ⟨s, hs⟩ := Option.isSome_iff_exists.mp hwork
  have hbegin : Connection.begin c = .error .nested c := by simp only [Connection.begin, hs]
  have hopen : (transaction : SqlM σ Transaction) c = .error .nested c := by
    rw [transaction, Outcome.bind_error hbegin]
  rw [withTransaction, Outcome.bind_error hopen]

/-- With an engine that does what it is told, a use of the guard has the effect of
its statements or none. -/
theorem withTransaction_obeys {body : SqlM σ α} {effect : σ → Option σ}
    (hbody : Connection.Obeys body effect) {c : Connection σ} (hwork : c.work = none) :
    (∀ s, effect c.committed = some s →
        ∃ a, withTransaction body c.willing = .ok a { c.willing with committed := s }) ∧
      (effect c.committed = none → ∃ e, withTransaction body c.willing = .error e c.willing) := by
  obtain ⟨hok, herror⟩ :=
    hbody { c.willing with work := some c.committed } c.committed rfl rfl
  rw [withTransaction_eq (transaction_willing hwork)]
  refine ⟨fun s hs => ?_, fun hnone => ?_⟩
  · obtain ⟨a, hrun⟩ := hok s hs
    rw [hrun]
    refine ⟨a, ?_⟩
    simp only [Connection.willing, hwork]
    rfl
  · obtain ⟨e, s, hrun⟩ := herror hnone
    rw [hrun]
    refine ⟨e, ?_⟩
    simp only [Connection.willing, hwork]
    rfl

end Presidium
