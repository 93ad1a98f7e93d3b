import Presidium.Lib.Outcome

/-!
# An SQL connection with transactions

A connection holds the committed database and, inside a transaction, a working
copy of it.  Outside of one it is in autocommit mode, and every statement
commits on its own.  Whether the engine carries a statement out is not up to
the program: `replies` are the answers that it is going to give.  It may refuse
a statement, and it may roll the whole transaction back.

`Body` is the class of programs that run inside a transaction: any statements,
in any order and depending on what was read, but no `BEGIN`, `COMMIT` or
`ROLLBACK` of their own.  A transaction does to its working copy what the same
program does in autocommit mode, as long as the engine does not roll it back
(`Body.simulates`).

`Performs` says what a program comes to inside a transaction, as a function on
the working copy.  An error inside a transaction never touches the committed
database.
-/

/-- How the engine answers a statement. -/
inductive Reply where
  | done
  /-- An error.  The transaction stays as it is. -/
  | refused
  /-- An error, after which the engine has rolled the transaction back. -/
  | rolledBack
  deriving DecidableEq, Repr

inductive SqlError where
  | failed
  /-- "cannot start a transaction within a transaction" -/
  | nested
  /-- "no transaction is active" -/
  | inactive
  deriving DecidableEq, Repr

structure Connection (σ : Type) where
  committed : σ
  /-- The working copy; none in autocommit mode. -/
  work : Option σ
  replies : List Reply
  deriving DecidableEq

/-- Programs on a connection. -/
abbrev SqlM (σ : Type) := EStateM SqlError (Connection σ)

namespace Connection

open Outcome (state result)

variable {σ α β : Type}

/-- The answer to the next statement; without a script the engine does what it
is told. -/
def reply (c : Connection σ) : Reply := c.replies.headD .done

def next (c : Connection σ) : Connection σ := { c with replies := c.replies.tail }

/-- The database that statements see. -/
def current (c : Connection σ) : σ := c.work.getD c.committed

def write (c : Connection σ) (s : σ) : Connection σ :=
  match c.work with
  | none => { c with committed := s }
  | some _ => { c with work := some s }

def abort (c : Connection σ) : Connection σ := { c with work := none }

/-- Run a statement, if the engine is willing to. -/
def ask (act : SqlM σ α) : SqlM σ α := fun c =>
  match c.reply with
  | .done => act c.next
  | .refused => .error .failed c.next
  | .rolledBack => .error .failed c.next.abort

/-- A writing statement.  One that breaks a constraint fails without effect. -/
def execute (f : σ → Option σ) : SqlM σ Unit :=
  ask fun c =>
    match f c.current with
    | none => .error .failed c
    | some s => .ok () (c.write s)

def query (g : σ → α) : SqlM σ α := ask fun c => .ok (g c.current) c

/-- A batch stops at the first statement that fails. -/
def executeBatch : List (σ → Option σ) → SqlM σ Unit
  | [] => pure ()
  | f :: fs => do
    execute f
    executeBatch fs

def «begin» : SqlM σ Unit := fun c =>
  match c.work with
  | some _ => .error .nested c
  | none => ask (fun c => .ok () { c with work := some c.committed }) c

def commit : SqlM σ Unit := fun c =>
  match c.work with
  | none => .error .inactive c
  | some s => ask (fun c => .ok () { c with committed := s, work := none }) c

def rollback : SqlM σ Unit := fun c =>
  match c.work with
  | none => .error .inactive c
  | some _ => ask (fun c => .ok () c.abort) c

/-- Run a program and look at its result instead of passing its error on. -/
def observe (x : SqlM σ α) : SqlM σ (Except SqlError α) := fun c =>
  .ok (result (x c)) (state (x c))

theorem observe_of_ok {x : SqlM σ α} {c c' : Connection σ} {a : α} (h : x c = .ok a c') :
    observe x c = .ok (.ok a) c' := by
  rw [observe, h]
  rfl

theorem observe_of_error {x : SqlM σ α} {c c' : Connection σ} {e : SqlError}
    (h : x c = .error e c') : observe x c = .ok (.error e) c' := by
  rw [observe, h]
  rfl

/-- What may run inside a transaction.  A tolerant program may go on after an
error. -/
inductive Body (tolerant : Prop) : {α : Type} → SqlM σ α → Prop
  | pure {α : Type} (a : α) : Body tolerant (pure a : SqlM σ α)
  | throw {α : Type} (e : SqlError) : Body tolerant (throw e : SqlM σ α)
  | execute (f : σ → Option σ) : Body tolerant (execute f)
  | query {α : Type} (g : σ → α) : Body tolerant (query g)
  | bind {α β : Type} {x : SqlM σ α} {f : α → SqlM σ β} (hx : Body tolerant x)
      (hf : ∀ a, Body tolerant (f a)) : Body tolerant (x >>= f)
  | observe {α : Type} {x : SqlM σ α} (ht : tolerant) (hx : Body tolerant x) :
      Body tolerant (observe x)

theorem Body.executeBatch {tolerant : Prop} (fs : List (σ → Option σ)) :
    Body tolerant (executeBatch fs) := by
  induction fs with
  | nil => exact .pure ()
  | cons f fs ih => exact .bind (.execute f) fun _ => ih

/-- A program without control statements stays in autocommit mode. -/
theorem Body.autocommit {tolerant : Prop} {x : SqlM σ α} (h : Body tolerant x)
    {c : Connection σ} (hc : c.work = none) : (state (x c)).work = none := by
  induction h generalizing c with
  | pure a => exact hc
  | throw e => exact hc
  | execute f =>
    unfold Connection.execute ask
    cases c.reply with
    | refused => exact hc
    | rolledBack => rfl
    | done =>
      simp only
      cases f c.next.current with
      | none => exact hc
      | some s =>
        have hnext : c.next.work = none := hc
        simp only [write, hnext]
        rfl
  | query g =>
    unfold Connection.query ask
    cases c.reply with
    | refused => exact hc
    | rolledBack => rfl
    | done => exact hc
  | @bind _ _ x f hx hf ihx ihf =>
    have hfirst := ihx hc
    cases hrun : x c with
    | ok a c' =>
      rw [hrun] at hfirst
      rw [Outcome.bind_ok hrun]
      exact ihf a hfirst
    | error e c' =>
      rw [hrun] at hfirst
      rw [Outcome.bind_error hrun]
      exact hfirst
  | observe ht hx ih => exact ih hc

/-- The two connections see one database: `c` inside a transaction that started
from `start`, and `d` in autocommit mode. -/
structure Mirrors (start : σ) (c d : Connection σ) : Prop where
  committed : c.committed = start
  work : c.work = some d.committed
  autocommit : d.work = none
  replies : c.replies = d.replies

theorem Mirrors.next {start : σ} {c d : Connection σ} (h : Mirrors start c d) :
    Mirrors start c.next d.next :=
  ⟨h.committed, h.work, h.autocommit, congrArg List.tail h.replies⟩

theorem Mirrors.reply {start : σ} {c d : Connection σ} (h : Mirrors start c d) :
    c.reply = d.reply := congrArg (fun rs => List.headD rs Reply.done) h.replies

theorem Mirrors.current {start : σ} {c d : Connection σ} (h : Mirrors start c d) :
    c.current = d.current := by
  unfold Connection.current
  rw [h.work, h.autocommit]
  rfl

theorem Mirrors.write {start : σ} {c d : Connection σ} (h : Mirrors start c d) (s : σ) :
    Mirrors start (c.write s) (d.write s) := by
  unfold Connection.write
  simp only [h.work, h.autocommit]
  exact ⟨h.committed, rfl, rfl, h.replies⟩

/-- A transaction does to its working copy what the same program does to the
database in autocommit mode, unless the engine rolls it back. -/
theorem Body.simulates {tolerant : Prop} {x : SqlM σ α} (h : Body tolerant x) {start : σ}
    {c d : Connection σ} (hcd : Mirrors start c d) :
    (state (x c)).work = none ∨
      (result (x c) = result (x d) ∧ Mirrors start (state (x c)) (state (x d))) := by
  induction h generalizing c d with
  | pure a => exact Or.inr ⟨rfl, hcd⟩
  | throw e => exact Or.inr ⟨rfl, hcd⟩
  | execute f =>
    unfold Connection.execute ask
    rw [← hcd.reply]
    cases c.reply with
    | refused => exact Or.inr ⟨rfl, hcd.next⟩
    | rolledBack => exact Or.inl rfl
    | done =>
      simp only [← hcd.next.current]
      cases f c.next.current with
      | none => exact Or.inr ⟨rfl, hcd.next⟩
      | some s => exact Or.inr ⟨rfl, hcd.next.write s⟩
  | query g =>
    unfold Connection.query ask
    rw [← hcd.reply]
    cases c.reply with
    | refused => exact Or.inr ⟨rfl, hcd.next⟩
    | rolledBack => exact Or.inl rfl
    | done =>
      simp only [← hcd.next.current]
      exact Or.inr ⟨rfl, hcd.next⟩
  | @bind _ _ x f hx hf ihx ihf =>
    cases hrun : x c with
    | ok a c' =>
      rw [Outcome.bind_ok hrun]
      rcases ihx hcd with hgone | ⟨hresult, hmirrors⟩
      · rw [hrun] at hgone
        exact Or.inl ((hf a).autocommit hgone)
      · rw [hrun] at hresult hmirrors
        rw [Outcome.bind_ok (Outcome.eq_ok_of_result hresult.symm)]
        exact ihf a hmirrors
    | error e c' =>
      rw [Outcome.bind_error hrun]
      rcases ihx hcd with hgone | ⟨hresult, hmirrors⟩
      · rw [hrun] at hgone
        exact Or.inl hgone
      · rw [hrun] at hresult hmirrors
        rw [Outcome.bind_error (Outcome.eq_error_of_result hresult.symm)]
        exact Or.inr ⟨rfl, hmirrors⟩
  | observe ht hx ih =>
    rcases ih hcd with hgone | ⟨hresult, hmirrors⟩
    · exact Or.inl hgone
    · exact Or.inr ⟨congrArg Except.ok hresult, hmirrors⟩

/-! ## What a program does to the working copy -/

/-- Inside a transaction the program has the given effect on the working copy,
or it fails.  The committed database stays as it is. -/
def Performs (x : SqlM σ α) (effect : σ → Option σ) : Prop :=
  ∀ (c : Connection σ) (s : σ), c.work = some s →
    (state (x c)).committed = c.committed ∧
      ∀ a c', x c = .ok a c' → ∃ s', effect s = some s' ∧ c'.work = some s'

theorem performs_pure (a : α) : Performs (pure a : SqlM σ α) some := by
  intro c s hwork
  refine ⟨rfl, fun a' c' hrun => ?_⟩
  cases hrun
  exact ⟨s, rfl, hwork⟩

theorem performs_execute (f : σ → Option σ) : Performs (execute f) f := by
  intro c s hwork
  have hnext : c.next.work = some s := hwork
  have hcurrent : c.next.current = s := by simp [current, hnext]
  unfold execute ask
  cases c.reply with
  | refused => exact ⟨rfl, fun a c' hrun => nomatch hrun⟩
  | rolledBack => exact ⟨rfl, fun a c' hrun => nomatch hrun⟩
  | done =>
    simp only [hcurrent]
    cases hf : f s with
    | none => exact ⟨rfl, fun a c' hrun => nomatch hrun⟩
    | some s' =>
      simp only [write, hnext]
      refine ⟨rfl, fun a c' hrun => ?_⟩
      cases hrun
      exact ⟨s', rfl, rfl⟩

/-- One program after the other. -/
theorem Performs.bind {x : SqlM σ α} {y : SqlM σ β} {f g : σ → Option σ} (hx : Performs x f)
    (hy : Performs y g) : Performs (x >>= fun _ => y) fun s => (f s).bind g := by
  intro c s hwork
  obtain ⟨hkept, hok⟩ := hx c s hwork
  cases hrun : x c with
  | error e c₁ =>
    rw [hrun] at hkept
    rw [Outcome.bind_error hrun]
    exact ⟨hkept, fun a c' h => nomatch h⟩
  | ok a c₁ =>
    rw [hrun] at hkept
    obtain ⟨s₁, hf, hwork₁⟩ := hok a c₁ hrun
    obtain ⟨hkept', hok'⟩ := hy c₁ s₁ hwork₁
    rw [Outcome.bind_ok hrun]
    refine ⟨hkept'.trans hkept, fun b c' hrun' => ?_⟩
    obtain ⟨s', hg, hwork'⟩ := hok' b c' hrun'
    refine ⟨s', ?_, hwork'⟩
    show (f s).bind g = some s'
    rw [hf]
    exact hg

/-- A query reads the database that statements see, and changes nothing. -/
theorem query_eq_ok {g : σ → α} {c c' : Connection σ} {a : α} (h : query g c = .ok a c') :
    a = g c.current ∧ c' = c.next := by
  unfold query ask at h
  cases hreply : c.reply with
  | done =>
    simp only [hreply] at h
    cases h
    exact ⟨rfl, rfl⟩
  | refused => simp only [hreply] at h; cases h
  | rolledBack => simp only [hreply] at h; cases h

theorem committed_query (g : σ → α) (c : Connection σ) :
    (state (query g c)).committed = c.committed := by
  unfold query ask
  cases c.reply <;> rfl

/-- The statements of a batch, one after the other. -/
def batch (fs : List (σ → Option σ)) (s : σ) : Option σ :=
  match fs with
  | [] => some s
  | f :: fs => (f s).bind (batch fs)

theorem performs_executeBatch (fs : List (σ → Option σ)) :
    Performs (executeBatch fs) (batch fs) := by
  induction fs with
  | nil => exact performs_pure ()
  | cons f fs ih => exact (performs_execute f).bind ih

/-- A statement that fails leaves the working copy as it is, or none at all. -/
theorem work_of_execute_error {f : σ → Option σ} {c c' : Connection σ} {e : SqlError}
    (h : execute f c = .error e c') : c'.work = c.work ∨ c'.work = none := by
  unfold execute ask at h
  cases hreply : c.reply with
  | refused => simp only [hreply] at h; cases h; exact Or.inl rfl
  | rolledBack => simp only [hreply] at h; cases h; exact Or.inr rfl
  | done =>
    simp only [hreply] at h
    cases hf : f c.next.current with
    | none => simp only [hf] at h; cases h; exact Or.inl rfl
    | some s => simp only [hf] at h; cases h

/-- What no statement of a batch changes stays as it is, also when the batch stops
half-way. -/
theorem work_executeBatch {β : Type} (g : σ → β) {fs : List (σ → Option σ)}
    (hkeep : ∀ f ∈ fs, ∀ s s', f s = some s' → g s' = g s) {c : Connection σ} {s s' : σ}
    (hwork : c.work = some s) (hwork' : (state (executeBatch fs c)).work = some s') :
    g s' = g s := by
  induction fs generalizing c s with
  | nil =>
    rw [executeBatch] at hwork'
    exact congrArg g (Option.some.inj (hwork'.symm.trans hwork))
  | cons f fs ih =>
    rw [executeBatch] at hwork'
    cases hrun : execute f c with
    | ok u c₁ =>
      obtain ⟨s₁, hf, hwork₁⟩ := (performs_execute f c s hwork).2 u c₁ hrun
      rw [Outcome.bind_ok hrun] at hwork'
      have hrest := ih (fun f' hf' => hkeep f' (List.mem_cons_of_mem _ hf')) hwork₁ hwork'
      exact hrest.trans (hkeep f List.mem_cons_self s s₁ hf)
    | error e c₁ =>
      rw [Outcome.bind_error hrun, Outcome.state_error] at hwork'
      rcases work_of_execute_error hrun with hstays | hgone
      · exact congrArg g (Option.some.inj (hwork'.symm.trans (hstays.trans hwork)))
      · exact absurd (hwork'.symm.trans hgone) (by simp)

/-! ## An engine that does what it is told -/

/-- The connection, with such an engine from now on. -/
def willing (c : Connection σ) : Connection σ := { c with replies := [] }

/-- With such an engine and inside a transaction, the program has the given effect
on the working copy, and it fails only where that is not defined. -/
def Obeys (x : SqlM σ α) (effect : σ → Option σ) : Prop :=
  ∀ (c : Connection σ) (s : σ), c.work = some s → c.replies = [] →
    (∀ s', effect s = some s' → ∃ a, x c = .ok a { c with work := some s' }) ∧
      (effect s = none → ∃ e s', x c = .error e { c with work := some s' })

theorem obeys_pure (a : α) : Obeys (pure a : SqlM σ α) some := by
  intro c s hwork hwilling
  refine ⟨fun s' hs' => ⟨a, ?_⟩, fun hnone => nomatch hnone⟩
  obtain ⟨committed, work, replies⟩ := c
  cases hwork
  cases hs'
  rfl

theorem obeys_execute (f : σ → Option σ) : Obeys (execute f) f := by
  intro c s hwork hwilling
  obtain ⟨committed, work, replies⟩ := c
  obtain ⟨rfl, rfl⟩ : work = some s ∧ replies = [] := ⟨hwork, hwilling⟩
  simp only [execute, ask, reply, next, current, write, List.headD_nil, List.tail_nil,
    Option.getD_some]
  cases hf : f s with
  | none => exact ⟨nofun, fun _ => ⟨.failed, s, rfl⟩⟩
  | some s₁ =>
    refine ⟨fun s' hs' => ⟨(), ?_⟩, nofun⟩
    cases hs'
    rfl

theorem Obeys.bind {x : SqlM σ α} {y : SqlM σ β} {f g : σ → Option σ} (hx : Obeys x f)
    (hy : Obeys y g) : Obeys (x >>= fun _ => y) fun s => (f s).bind g := by
  intro c s hwork hwilling
  obtain ⟨hok, herror⟩ := hx c s hwork hwilling
  simp only
  cases hf : f s with
  | none =>
    obtain ⟨e, s', hrun⟩ := herror hf
    rw [Outcome.bind_error hrun]
    exact ⟨nofun, fun _ => ⟨e, s', rfl⟩⟩
  | some s₁ =>
    obtain ⟨a, hrun⟩ := hok s₁ hf
    rw [Outcome.bind_ok hrun]
    exact hy { c with work := some s₁ } s₁ rfl hwilling

theorem obeys_executeBatch (fs : List (σ → Option σ)) :
    Obeys (executeBatch fs) (batch fs) := by
  induction fs with
  | nil => exact obeys_pure ()
  | cons f fs ih => exact (obeys_execute f).bind ih

/-- In autocommit mode, with an engine that does what it is told. -/
structure Calm (c : Connection σ) : Prop where
  autocommit : c.work = none
  willing : c.replies = []

theorem calm_willing {c : Connection σ} (h : c.work = none) : c.willing.Calm := ⟨h, rfl⟩

theorem Calm.execute {c : Connection σ} (h : c.Calm) (f : σ → Option σ) {s : σ}
    (hs : f c.committed = some s) :
    Connection.execute f c = .ok () { c with committed := s } := by
  obtain ⟨committed, work, replies⟩ := c
  obtain ⟨rfl, rfl⟩ := h
  simp only at hs
  simp only [Connection.execute, ask, reply, List.headD_nil, next, List.tail_nil, current,
    Option.getD_none, hs, write]

theorem Calm.query {c : Connection σ} (h : c.Calm) (g : σ → α) :
    Connection.query g c = .ok (g c.committed) c := by
  obtain ⟨committed, work, replies⟩ := c
  obtain ⟨rfl, rfl⟩ := h
  rfl

end Connection
