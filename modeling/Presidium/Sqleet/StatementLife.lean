import Mathlib.Data.List.Induction
import Presidium.Sqleet.StatementProtocol

/-!
# The life of a prepared statement

Every operation on a connection keeps to the protocol of statements and leaves
none behind, so the calls of a whole life do (`follow_callsOf`).

`StatementsSafe` is what the protocol is for, said of the calls themselves: a
statement is finalized exactly once, no call is about a statement that is not
live, and columns are read where there is a row.  It holds of every life
(`statements_safe`).
-/

namespace Presidium.Sqleet

open Calls (World Keeps call follow)
open Outcome (state)
open Phase (next)

/-! ## Whole lives -/

/-- The calls of a method that leaves no statement behind. -/
theorem follow_of_keeps {ε α : Type} {x : EngineM ε α}
    (hx : Keeps next (· = .idle) x (fun _ p => p = .idle) (· = .idle)) (answers : List Answer) :
    follow next .idle (state (x ⟨answers, []⟩)).calls = some .idle := by
  obtain ⟨more, p, hcalls, hfollow, hok, herror⟩ := hx ⟨answers, []⟩ .idle rfl
  rw [hcalls]
  have hidle : p = .idle := by
    cases hrun : x ⟨answers, []⟩ with
    | ok a w' => exact hok a w' hrun
    | error e w' => exact herror e w' hrun
  rw [List.nil_append, hfollow, hidle]

theorem enter_snd (w : World EngineCall Answer) (x : EngineM SqlError Connection) :
    (enter w x).2 = (state (x w)).calls := by
  unfold enter
  cases x w <;> rfl

theorem finish_snd (migrations : List String) (c : Connection) (key : Bytes)
    (answers : List Answer) :
    (perform migrations (.connection c) ⟨.finish key, answers⟩).2 =
      (state (Database.finish migrations c key ⟨answers, []⟩)).calls := by
  simp only [perform]
  cases Database.finish migrations c key ⟨answers, []⟩ <;> rfl

theorem follow_perform (migrations : List String) {s : Stage} {e : Event}
    (hallowed : e.op.allowed s = true) :
    follow next .idle (perform migrations s e).2 = some .idle := by
  obtain ⟨op, answers⟩ := e
  cases s with
  | fresh =>
    cases op with
    | openFile path =>
      show follow next .idle (enter _ _).2 = _
      rw [enter_snd]
      exact follow_of_keeps (keeps_open path) answers
    | openInMemory =>
      show follow next .idle (enter _ _).2 = _
      rw [enter_snd]
      exact follow_of_keeps (keeps_openV2 ":memory:") answers
    | _ => cases hallowed
  | connection c =>
    cases op with
    | finish key =>
      rw [finish_snd]
      exact follow_of_keeps (keeps_finish migrations c key) answers
    | use u => exact follow_of_keeps (keeps_use c u) answers
    | close => exact follow_of_keeps (keeps_close c) answers
    | drop => exact follow_of_keeps (keeps_drop (ε := SqlError) c) answers
    | _ => cases hallowed
  | database c =>
    cases op with
    | use u => exact follow_of_keeps (keeps_use c u) answers
    | close => exact follow_of_keeps (Keeps.adaptExcept _ (keeps_close c)) answers
    | drop => exact follow_of_keeps (keeps_drop (ε := SqlError) c) answers
    | _ => cases hallowed
  | ended => cases op <;> cases hallowed

theorem follow_callsOf (migrations : List String) {events : List Event} {s : Stage}
    (hvalid : (life migrations).Valid s events) :
    follow next .idle
      ((life migrations).trace (fun s e => (perform migrations s e).2) s events) =
      some .idle := by
  induction events generalizing s with
  | nil => rfl
  | cons e events ih =>
    obtain ⟨henabled, hrest⟩ := hvalid
    show follow next .idle ((perform migrations s e).2 ++ _) = _
    rw [Calls.follow_append_of_some (follow_perform migrations henabled)]
    exact ih hrest

/-! ## What the protocol says -/

/-- The calls that read a column of a row. -/
def EngineCall.ReadsRow (db : Handle) (stmt : StmtPtr) : EngineCall → Prop
  | columnType db' stmt' _ | columnInt64 db' stmt' _ | columnBlob db' stmt' _
  | columnBytes db' stmt' _ => (db', stmt') = (db, stmt)
  | _ => False

/-- The calls between the preparation of a statement and its end. -/
def EngineCall.Serves (db : Handle) (stmt : StmtPtr) (k : EngineCall) : Prop :=
  k.Asks db ∨ k.statement = some (db, stmt) ∧ k ≠ .finalize db stmt

/-- What a call that the protocol allows can be. -/
inductive Phase.Step : Phase → EngineCall → Answer → Phase → Prop where
  | plain {k : EngineCall} {a : Answer} (hk : k.statement = none) : Step .idle k a .idle
  | prepared {db : Handle} {sql : String} {a : Answer} {stmt : StmtPtr}
    (hstmt : a.pointer = some stmt) : Step .idle (.prepareV2 db sql) a (.bound db stmt 1)
  | served {p p' : Phase} {k : EngineCall} {a : Answer} {db : Handle} {stmt : StmtPtr}
    (hbefore : p.live = some (db, stmt)) (hafter : p'.live = some (db, stmt))
    (hk : k.Serves db stmt)
    (hrow : p' = .row db stmt → k = .step db stmt ∧ a.code = SQLITE_ROW ∨
      p = .row db stmt ∧ (k.ReadsRow db stmt ∨ k.Asks db))
    (hreads : k.ReadsRow db stmt → p = .row db stmt) : Step p k a p'
  | finalized {p : Phase} {a : Answer} {db : Handle} {stmt : StmtPtr}
    (hbefore : p.live = some (db, stmt)) : Step p (.finalize db stmt) a .idle

namespace Phase

theorem step_of_ask {p p' : Phase} {k : EngineCall} {a : Answer} {db : Handle} {stmt : StmtPtr}
    (hk : k.Asks db) (hlive : p.live = some (db, stmt)) (h : some p = some p') :
    Step p k a p' := by
  cases h
  refine .served hlive hlive (.inl hk) (fun hrow => .inr ⟨hrow, .inr hk⟩) fun hreads => ?_
  rcases hk with rfl | rfl | rfl <;> cases hreads

theorem step_of_step {p p' : Phase} {a : Answer} {db : Handle} {stmt : StmtPtr}
    (hlive : p.live = some (db, stmt)) (h : some (stepped db stmt a) = some p') :
    Step p (.step db stmt) a p' := by
  cases h
  refine .served hlive ?_ (.inr ⟨rfl, nofun⟩) (fun hrow => .inl ⟨rfl, ?_⟩) nofun
  · unfold stepped
    split
    · rfl
    · rfl
  · by_contra hcode
    rw [stepped, if_neg hcode] at hrow
    cases hrow

theorem step_of_read {p' : Phase} {k : EngineCall} {a : Answer} {db : Handle} {stmt : StmtPtr}
    (hk : k.ReadsRow db stmt) (hserves : k.Serves db stmt)
    (h : some (Phase.row db stmt) = some p') : Step (.row db stmt) k a p' := by
  cases h
  exact .served rfl rfl hserves (fun _ => .inr ⟨rfl, .inl hk⟩) fun _ => rfl

/-- The branch of a guard that was taken. -/
theorem of_guard {p : Prop} [Decidable p] {q p' : Phase}
    (h : (if p then some q else none) = some p') : p ∧ some q = some p' := by
  split at h
  next hp => exact ⟨hp, h⟩
  next => cases h

theorem step_of_next {p p' : Phase} {k : EngineCall} {a : Answer} (h : next p k a = some p') :
    Step p k a p' := by
  cases p with
  | idle =>
    cases k with
    | prepareV2 db sql =>
      change some (a.pointer.elim _ _) = some p' at h
      cases hpointer : a.pointer with
      | none =>
        rw [hpointer] at h
        cases h
        exact .plain rfl
      | some stmt =>
        rw [hpointer] at h
        cases h
        exact .prepared hpointer
    | finalize | bind | step | columnType | columnInt64 | columnBlob | columnBytes => cases h
    | openV2 | closeV2 | key | errcode | errmsg | exec | lastInsertRowid | busyTimeout
    | changes =>
      cases h
      exact .plain rfl
  | bound db stmt n =>
    cases k with
    | bind db' stmt' i v =>
      obtain ⟨⟨hsame, -⟩, hnext⟩ := of_guard h
      cases hsame
      cases hnext
      refine .served rfl ?_ (.inr ⟨rfl, nofun⟩) (fun hrow => ?_) nofun
      · split
        · rfl
        · rfl
      · split at hrow
        · cases hrow
        · cases hrow
    | step db' stmt' =>
      obtain ⟨hsame, hnext⟩ := of_guard h
      cases hsame
      exact step_of_step rfl hnext
    | finalize db' stmt' =>
      obtain ⟨hlive, hnext⟩ := of_guard h
      cases hnext
      exact .finalized hlive
    | errmsg db' | errcode db' | changes db' =>
      obtain ⟨hdb, hnext⟩ := of_guard h
      cases hdb
      exact step_of_ask (by simp [EngineCall.Asks]) rfl hnext
    | _ => cases h
  | row db stmt =>
    cases k with
    | step db' stmt' =>
      obtain ⟨hsame, hnext⟩ := of_guard h
      cases hsame
      exact step_of_step rfl hnext
    | columnType db' stmt' col | columnInt64 db' stmt' col | columnBlob db' stmt' col
    | columnBytes db' stmt' col =>
      obtain ⟨hsame, hnext⟩ := of_guard h
      cases hsame
      exact step_of_read rfl (.inr ⟨rfl, nofun⟩) hnext
    | finalize db' stmt' =>
      obtain ⟨hlive, hnext⟩ := of_guard h
      cases hnext
      exact .finalized hlive
    | errmsg db' | errcode db' | changes db' =>
      obtain ⟨hdb, hnext⟩ := of_guard h
      cases hdb
      exact step_of_ask (by simp [EngineCall.Asks]) rfl hnext
    | _ => cases h
  | spent db stmt =>
    cases k with
    | finalize db' stmt' =>
      obtain ⟨hlive, hnext⟩ := of_guard h
      cases hnext
      exact .finalized hlive
    | errmsg db' | errcode db' | changes db' =>
      obtain ⟨hdb, hnext⟩ := of_guard h
      cases hdb
      exact step_of_ask (by simp [EngineCall.Asks]) rfl hnext
    | _ => cases h

end Phase

section Reading

variable {log : CallLog} {p : Phase} {db : Handle} {stmt : StmtPtr}

/-- The last call of a log that the protocol allows. -/
theorem step_of_follow_concat {k : EngineCall × Answer} {p' : Phase}
    (h : follow next p (log ++ [k]) = some p') :
    ∃ p₁, follow next p log = some p₁ ∧ Phase.Step p₁ k.1 k.2 p' := by
  obtain ⟨p₁, hlog, hlast⟩ := Calls.follow_append_eq_some h
  obtain ⟨p₂, hnext, hend⟩ := Calls.follow_cons_eq_some hlast
  cases hend
  exact ⟨p₁, hlog, Phase.step_of_next hnext⟩

/-- A statement that lives was prepared, and all calls since then serve it. -/
theorem prepared_of_live (h : follow next .idle log = some p) (hlive : p.live = some (db, stmt)) :
    ∃ before sql a inner, log = before ++ (.prepareV2 db sql, a) :: inner ∧
      a.pointer = some stmt ∧ ∀ k ∈ inner, k.1.Serves db stmt := by
  induction log using List.reverseRecOn generalizing p with
  | nil =>
    cases h
    cases hlive
  | append_singleton log k ih =>
    obtain ⟨p₁, hlog, hstep⟩ := step_of_follow_concat h
    obtain ⟨call, answer⟩ := k
    cases hstep with
    | plain => cases hlive
    | prepared hstmt =>
      cases hlive
      exact ⟨log, _, answer, [], rfl, hstmt, nofun⟩
    | served hbefore hafter hk =>
      rw [hafter] at hlive
      cases hlive
      obtain ⟨before, sql, a, inner, rfl, hstmt, hinner⟩ := ih hlog hbefore
      refine ⟨before, sql, a, inner ++ [(call, answer)], by simp, hstmt, ?_⟩
      intro k hmem
      rcases List.mem_append.mp hmem with hmem | hmem
      · exact hinner k hmem
      · rw [List.mem_singleton.mp hmem]
        exact hk
    | finalized => cases hlive

/-- A row was fetched by the last step, and only its columns were read since. -/
theorem fetched_of_row (h : follow next .idle log = some (.row db stmt)) :
    ∃ before a inner, log = before ++ (.step db stmt, a) :: inner ∧ a.code = SQLITE_ROW ∧
      ∀ k ∈ inner, k.1.ReadsRow db stmt ∨ k.1.Asks db := by
  induction log using List.reverseRecOn with
  | nil => cases h
  | append_singleton log k ih =>
    obtain ⟨p₁, hlog, hstep⟩ := step_of_follow_concat h
    obtain ⟨call, answer⟩ := k
    cases hstep with
    | served hbefore hafter hk hrow =>
      cases hafter
      rcases hrow rfl with ⟨hcall, hcode⟩ | ⟨rfl, hreads⟩
      · have hcall : call = .step db stmt := hcall
        exact ⟨log, answer, [], by rw [hcall], hcode, nofun⟩
      · obtain ⟨before, a, inner, rfl, hcode, hinner⟩ := ih hlog
        refine ⟨before, a, inner ++ [(call, answer)], by simp, hcode, ?_⟩
        intro k hmem
        rcases List.mem_append.mp hmem with hmem | hmem
        · exact hinner k hmem
        · rw [List.mem_singleton.mp hmem]
          exact hreads

/-- A statement that lives is finalized before anything else is done. -/
theorem finalized_of_live (h : follow next p log = some .idle) (hlive : p.live = some (db, stmt)) :
    ∃ inner a rest, log = inner ++ (.finalize db stmt, a) :: rest ∧
      ∀ k ∈ inner, k.1.Serves db stmt := by
  induction log generalizing p with
  | nil =>
    cases h
    cases hlive
  | cons k log ih =>
    obtain ⟨p₁, hnext, hlog⟩ := Calls.follow_cons_eq_some h
    obtain ⟨call, answer⟩ := k
    cases Phase.step_of_next hnext with
    | plain => cases hlive
    | prepared => cases hlive
    | served hbefore hafter hk =>
      rw [hbefore] at hlive
      cases hlive
      obtain ⟨inner, a, rest, rfl, hinner⟩ := ih hlog hafter
      exact ⟨(call, answer) :: inner, a, rest, rfl, List.forall_mem_cons.mpr ⟨hk, hinner⟩⟩
    | finalized hbefore =>
      rw [hbefore] at hlive
      cases hlive
      exact ⟨[], answer, log, rfl, nofun⟩

end Reading

/-- The calls of a log treat statements as the engine demands. -/
structure StatementsSafe (log : CallLog) : Prop where
  /-- The calls follow the protocol, and no statement is left at the end. -/
  protocol : follow next .idle log = some .idle
  /-- A statement that the engine gives out is finalized, and until then all
  calls serve it. -/
  finalized : ∀ before db sql a stmt after, log = before ++ (.prepareV2 db sql, a) :: after →
    a.pointer = some stmt → ∃ inner a' rest, after = inner ++ (.finalize db stmt, a') :: rest ∧
      ∀ k ∈ inner, k.1.Serves db stmt
  /-- A call is about the statement that was given out last and is not yet
  finalized. -/
  live : ∀ before k after db stmt, log = before ++ k :: after → k.1.statement = some (db, stmt) →
    ∃ earlier sql a inner, before = earlier ++ (.prepareV2 db sql, a) :: inner ∧
      a.pointer = some stmt ∧ ∀ k' ∈ inner, k'.1.Serves db stmt
  /-- A column is read from the row that the last step has fetched. -/
  fetched : ∀ before k after db stmt, log = before ++ k :: after → k.1.ReadsRow db stmt →
    ∃ earlier a inner, before = earlier ++ (.step db stmt, a) :: inner ∧ a.code = SQLITE_ROW ∧
      ∀ k' ∈ inner, k'.1.ReadsRow db stmt ∨ k'.1.Asks db

theorem StatementsSafe.of_follow {log : CallLog} (h : follow next .idle log = some .idle) :
    StatementsSafe log where
  protocol := h
  finalized before db sql a stmt after hsplit hstmt := by
    subst hsplit
    obtain ⟨p, -, hafter⟩ := Calls.follow_append_eq_some h
    obtain ⟨p₁, hnext, hrest⟩ := Calls.follow_cons_eq_some hafter
    cases Phase.step_of_next hnext with
    | plain =>
      change some (a.pointer.elim _ _) = _ at hnext
      rw [hstmt] at hnext
      cases hnext
    | prepared hstmt' =>
      rw [hstmt] at hstmt'
      cases hstmt'
      exact finalized_of_live hrest rfl
    | served hbefore hafter hk =>
      rcases hk with (hk | hk | hk) | ⟨hk, -⟩ <;> cases hk
  live before k after db stmt hsplit hk := by
    subst hsplit
    obtain ⟨p, hbefore, hafter⟩ := Calls.follow_append_eq_some h
    obtain ⟨p₁, hnext, -⟩ := Calls.follow_cons_eq_some hafter
    obtain ⟨call, answer⟩ := k
    have hlive : p.live = some (db, stmt) := by
      cases Phase.step_of_next hnext with
      | plain hnone =>
        rw [hnone] at hk
        cases hk
      | prepared => cases hk
      | served hlive _ hserves =>
        rcases hserves with (rfl | rfl | rfl) | ⟨hsame, -⟩
        · cases hk
        · cases hk
        · cases hk
        · rw [hsame] at hk
          cases hk
          exact hlive
      | finalized hlive =>
        cases hk
        exact hlive
    exact prepared_of_live hbefore hlive
  fetched before k after db stmt hsplit hk := by
    subst hsplit
    obtain ⟨p, hbefore, hafter⟩ := Calls.follow_append_eq_some h
    obtain ⟨p₁, hnext, -⟩ := Calls.follow_cons_eq_some hafter
    obtain ⟨call, answer⟩ := k
    have hstatement : call.statement = some (db, stmt) := by
      cases call <;> first | cases hk; rfl | cases hk
    have hrow : p = .row db stmt := by
      cases Phase.step_of_next hnext with
      | plain hnone =>
        rw [hnone] at hstatement
        cases hstatement
      | prepared => cases hk
      | served _ _ hserves _ hreads =>
        rcases hserves with (rfl | rfl | rfl) | ⟨hsame, -⟩
        · cases hk
        · cases hk
        · cases hk
        · rw [hsame] at hstatement
          cases hstatement
          exact hreads hk
      | finalized => cases hk
    rw [hrow] at hbefore
    exact fetched_of_row hbefore

/-- In every life of a connection, whatever the engine answers, each statement
that it gives out is finalized exactly once and used only before that, and rows
are read only where there is one. -/
theorem statements_safe (migrations : List String) {events : List Event}
    (hvalid : (life migrations).Valid .fresh events) :
    StatementsSafe (callsOf migrations events) :=
  .of_follow (follow_callsOf migrations hvalid)

/-- The engine prepares a statement twice.  The first time it refuses a
parameter, the second time there is a row. -/
def refusedParameter : List Event :=
  [openedInMemory,
    ⟨.use (.execute "INSERT" [.i64 1, .null]),
      [{ code := SQLITE_OK, pointer := some 5 }, { code := SQLITE_OK }, { code := 25 }]⟩,
    ⟨.use (.pragmaI64 "user_version"),
      [{ code := SQLITE_OK, pointer := some 5 }, { code := SQLITE_ROW }, { code := 3 }]⟩,
    ⟨.drop, []⟩]

theorem statements_safe_refusedParameter :
    (callsOf [] refusedParameter).map Prod.fst =
        [.openV2 ":memory:", .prepareV2 1 "INSERT", .bind 1 5 1 (.i64 1), .bind 1 5 2 .null,
          .errmsg 1, .finalize 1 5, .prepareV2 1 "PRAGMA user_version", .step 1 5,
          .columnInt64 1 5 0, .finalize 1 5, .closeV2 1] ∧
      StatementsSafe (callsOf [] refusedParameter) := by
  have hvalid : (life []).Valid .fresh refusedParameter := by decide +kernel
  exact ⟨by decide +kernel, statements_safe [] hvalid⟩

end Presidium.Sqleet
