import Presidium.Demo.Inbound

/-!
# Which row the outcome of a send is written to

Every envelope that `send_direct` hands over comes back later as one
`DirectDelivered` or one `DirectFailed`.  The application keeps one row id,
`last_outgoing`, and writes the next outcome to that row.  The outcomes of
handshake messages and greetings are events of the same kind.

`Traffic` runs the loop against a network that answers the sends in any order.
It keeps for each send the row that was stored for it, if there is one.
-/

namespace Presidium

variable {B : Nat → Type}

open Outcome (state)

/-! ## The table of messages -/

namespace Database

theorem Sequenced.eq_of_id {db : Database} (h : db.Sequenced) {m m' : MessageRecord}
    (hm : m ∈ db.messages) (hm' : m' ∈ db.messages) (hid : m.id = m'.id) : m = m' :=
  List.inj_on_of_nodup_map h.distinct hm hm' hid

/-- A row of the larger table with an old id is an old row. -/
theorem Extends.mem_of_le {direction : MessageDirection} {db db' : Database}
    (h : Extends direction db db') {m : MessageRecord} (hm : m ∈ db'.messages)
    (hid : m.id ≤ db.lastRowId) : m ∈ db.messages := by
  obtain ⟨added, hmessages, hids, -⟩ := h.messages
  rw [hmessages] at hm
  rcases List.mem_append.mp hm with hm | hm
  · exact hm
  · have hlower := (hids m hm).1
    omega

end Database

/-- A row after an outcome was written to the row `target`. -/
def MessageRecord.stamp (target : Option Int) (status : MessageStatus) (m : MessageRecord) :
    MessageRecord :=
  if target = some m.id then { m with status } else m

namespace MessageRecord

variable (target : Option Int) (status : MessageStatus) (m : MessageRecord)

@[simp] theorem stamp_id : (m.stamp target status).id = m.id := by
  unfold stamp
  split <;> rfl

@[simp] theorem stamp_direction : (m.stamp target status).direction = m.direction := by
  unfold stamp
  split <;> rfl

variable {target m}

theorem stamp_self (h : target = some m.id) : (m.stamp target status).status = status := by
  unfold stamp
  rw [if_pos h]

theorem stamp_ne (h : target ≠ some m.id) : m.stamp target status = m := by
  unfold stamp
  rw [if_neg h]

end MessageRecord

theorem Database.Sequenced.stamp {db db' : Database} {target : Option Int}
    {status : MessageStatus} (h : db.Sequenced)
    (hmessages : db'.messages = db.messages.map (·.stamp target status))
    (hlast : db'.lastRowId = db.lastRowId) : db'.Sequenced := by
  refine ⟨fun m hm => ?_, ?_⟩
  · rw [hmessages] at hm
    obtain ⟨m₀, hm₀, rfl⟩ := List.mem_map.mp hm
    rw [MessageRecord.stamp_id, hlast]
    exact h.bounded m₀ hm₀
  · have hids : MessageRecord.id ∘ (·.stamp target status) = MessageRecord.id :=
      funext fun m => m.stamp_id target status
    rw [hmessages, List.map_map, hids]
    exact h.distinct

/-! ## The effect of a line -/

namespace App

/-- What a line of the user does to the table and the node. -/
inductive LineEffect (app app' : App B) : Prop
  | quiet (hmessages : app'.store.db.messages = app.store.db.messages)
      (hlast : app'.store.db.lastRowId = app.store.db.lastRowId) (hnode : app'.node = app.node)
  /-- A row is stored.  If the node is there, the envelope goes out. -/
  | stored (record : MessageRecord) (hdirection : record.direction = .outgoing)
      (hmessages : app'.store.db.messages = (app.store.db.withMessage record).messages)
      (hlast : app'.store.db.lastRowId = app.store.db.lastRowId + 1)
      (houtgoing : app'.lastOutgoing = some (app.store.db.lastRowId + 1))
      (hnode : app.node.running = true ∧ app'.node.sent.length = app.node.sent.length + 1 ∨
        ¬ app.node.running = true ∧ app'.node = app.node)

section Lines

variable (P : Primitives B) [Serde (HybridSignature B)] [Serde (RatchetMessageHeader B)]
  [Serde (SessionKeys B)] [Serde (RatchetSnapshot B)]

omit [Serde (HybridSignature B)] [Serde (RatchetMessageHeader B)] in
/-- The send of a line, with its row stored. -/
theorem lineEffect_sendPersist {app kept : App B} {record : MessageRecord}
    (hdb : kept.store.db = app.store.db.withMessage record)
    (hdirection : record.direction = .outgoing)
    (houtgoing : kept.lastOutgoing = some (app.store.db.lastRowId + 1))
    (hnode : kept.node = app.node) (peer : PeerId) (envelope : NetworkEnvelope) (now : Int) :
    LineEffect app
      (state ((sendDirect peer envelope >>= fun _ => persistQuietly now) kept)) := by
  have hmessages := congrArg Database.messages hdb
  have hlast := congrArg Database.lastRowId hdb
  by_cases hrunning : app.node.running = true
  · obtain ⟨sessions, hrun⟩ :=
      exists_sendPersist_eq (by rw [hnode]; exact hrunning) peer envelope now
    rw [hrun]
    refine .stored record hdirection hmessages hlast houtgoing (.inl ⟨hrunning, ?_⟩)
    rw [← hnode]
    exact List.length_append
  · rw [Outcome.bind_error (sendDirect_error (by rw [hnode]; exact hrunning) peer envelope)]
    exact .stored record hdirection hmessages hlast houtgoing (.inr ⟨hrunning, hnode⟩)

theorem lineEffect_sendLine (line : String) (draws : Draws B) (app : App B) :
    LineEffect app (state (sendLine P line draws app)) := by
  cases hsession : app.session with
  | none =>
    rw [sendLine_idle P (.inl hsession)]
    exact .quiet rfl rfl rfl
  | some session =>
    cases hpeer : app.peer with
    | none =>
      rw [sendLine_idle P (.inr hpeer)]
      exact .quiet rfl rfl rfl
    | some peer =>
      rw [sendLine_live P hsession hpeer]
      cases session.encrypt P app.store.identity app.store.deviceId (asBytes line) draws.now with
      | error e session' => exact .quiet rfl rfl rfl
      | ok envelope session' =>
        simp only
        rw [Outcome.bind_eq, storeOutgoing_eq P rfl]
        cases fromUtf8 envelope.nonce with
        | none => exact .quiet rfl rfl rfl
        | some header =>
          simp only
          cases hinsert : app.store.insertMessage P session'.conversationId
              (messageIdBytes envelope.timestamp draws.messageNonce)
              (app.store.identity.publicKey P) envelope.encryptedPayload header .outgoing
              draws.now with
          | error e => exact .quiet rfl rfl rfl
          | ok out =>
            obtain ⟨store, row⟩ := out
            obtain ⟨-, rfl, rfl⟩ := NodeStore.insertMessage_eq_ok hinsert
            exact lineEffect_sendPersist (by rfl) (by rfl) (by rfl) (by rfl) peer envelope draws.now

variable [Serde SenderKeyMessage]

theorem lineEffect_handleCommand (line : String) (draws : Draws B) (app : App B) :
    LineEffect app (state (handleCommand P line draws app)) := by
  unfold handleCommand
  cases Command.ofLine line with
  | quit => exact .quiet rfl rfl rfl
  | info => exact .quiet rfl rfl rfl
  | history =>
    have hread : Outcome.Moves Eq (do
        let app ← get
        let _ ← attempt (app.store.printHistory app.store.deviceId)
        let _ ← attempt (app.store.printHistory app.group.conversationId)
        return true : AppM B Bool) := by
      have htrans : ∀ app₁ app₂ app₃ : App B, app₁ = app₂ → app₂ = app₃ → app₁ = app₃ :=
        fun _ _ _ => Eq.trans
      refine .bind htrans (moves_get fun _ => rfl) fun app => ?_
      refine .bind htrans (moves_attempt (fun _ => rfl) _) fun _ => ?_
      refine .bind htrans (moves_attempt (fun _ => rfl) _) fun _ => ?_
      exact moves_pure (fun _ => rfl) _
    simp only
    rw [← hread app]
    exact .quiet rfl rfl rfl
  | group text =>
    simp only
    rw [Outcome.bind_ok (show (get : AppM B (App B)) app = .ok app app from rfl)]
    cases app.group.sender with
    | none => exact .quiet rfl rfl rfl
    | some sender =>
      simp only
      rw [Outcome.bind_eq]
      unfold publish
      cases app.group.publish P app.node.running app.store.identity app.store.deviceId
        (asBytes text) draws.now <;> exact .quiet rfl rfl rfl
  | chat line =>
    have hline := lineEffect_sendLine P line draws app
    simp only
    rw [Outcome.bind_eq]
    cases hrun : sendLine P line draws app with
    | ok a app' =>
      rw [hrun] at hline
      exact hline
    | error e app' =>
      rw [hrun] at hline
      exact hline

end Lines

end App

/-! ## Rows and sends -/

/-- The table has grown, and `rows` lists the rows of the sends that were made:
new row ids, none of them twice, and with a node that takes envelopes every new
outgoing row. -/
structure Database.Grows (db db' : Database) (rows : List (Option Int)) (running : Prop) :
    Prop where
  table : ∃ direction, Extends direction db db'
  fresh : ∀ (k : Nat) (r : Int), rows[k]? = some (some r) → db.lastRowId < r ∧ r ≤ db'.lastRowId
  distinct : ∀ (j k : Nat) (r : Int), rows[j]? = some (some r) → rows[k]? = some (some r) → j = k
  covered : running → ∀ m ∈ db'.messages, m ∉ db.messages → m.direction = .outgoing →
    ∃ k : Nat, rows[k]? = some (some m.id)

namespace Database

/-- Only messages of others have come in. -/
theorem Grows.of_incoming {db db' : Database} (h : Extends .incoming db db') (n : Nat)
    (running : Prop) : Grows db db' (List.replicate n none) running := by
  have hnone : ∀ (k : Nat) (r : Int),
      (List.replicate n (none : Option Int))[k]? ≠ some (some r) := by
    intro k r hk
    rw [List.getElem?_replicate] at hk
    split at hk <;> simp at hk
  refine ⟨⟨_, h⟩, fun k r hk => absurd hk (hnone k r), fun j k r hj => absurd hj (hnone j r), ?_⟩
  intro _ m hm hnew hdirection
  obtain ⟨added, hmessages, hids, -⟩ := h.messages
  rw [hmessages] at hm
  have hincoming := (hids m ((List.mem_append.mp hm).resolve_left hnew)).2.2
  rw [hdirection] at hincoming
  cases hincoming

/-- One row was stored, and its send is listed if the node was there. -/
theorem Grows.of_outgoing {db db' : Database} {record : MessageRecord} {running : Prop}
    {rows : List (Option Int)} (hdirection : record.direction = .outgoing)
    (hmessages : db'.messages = (db.withMessage record).messages)
    (hlast : db'.lastRowId = db.lastRowId + 1)
    (hrows : rows = [some (db.lastRowId + 1)] ∨ rows = [] ∧ ¬ running) :
    Grows db db' rows running := by
  have hextends : Extends .outgoing db db' := by
    obtain ⟨hle, hadded⟩ := extends_withMessage hdirection db
    refine ⟨by omega, ?_⟩
    rw [hmessages, hlast]
    exact hadded
  have hrow : ∀ (k : Nat) (r : Int), rows[k]? = some (some r) → k = 0 ∧ r = db.lastRowId + 1 := by
    intro k r hk
    rcases hrows with rfl | ⟨rfl, -⟩
    · cases k with
      | zero =>
        simp only [List.getElem?_cons_zero, Option.some.injEq] at hk
        exact ⟨rfl, hk.symm⟩
      | succ k => simp at hk
    · simp at hk
  refine ⟨⟨_, hextends⟩, ?_, ?_, ?_⟩
  · intro k r hk
    obtain ⟨-, rfl⟩ := hrow k r hk
    omega
  · intro j k r hj hk
    rw [(hrow j r hj).1, (hrow k r hk).1]
  · intro hrunning m hm hnew _
    rcases hrows with rfl | ⟨-, hstopped⟩
    · rw [hmessages] at hm
      obtain rfl := List.mem_singleton.mp ((List.mem_append.mp hm).resolve_left hnew)
      exact ⟨0, rfl⟩
    · exact absurd hrunning hstopped

end Database

/-! ## The network -/

/-- What the network says about a send. -/
inductive SendReply where
  | delivered (conversationId : Bytes) (status : Network.NetworkResponse)
  | failed (error : String)

/-- The event that the application gets. -/
def SendReply.event (receiver : PeerId) : SendReply → Network.NodeEvent
  | .delivered conversationId status => .directDelivered receiver conversationId status
  | .failed error => .directFailed receiver error

/-- What the reply says about the message. -/
def SendReply.status : SendReply → MessageStatus
  | .delivered _ status => if status.status = 1 then .delivered else .failed
  | .failed _ => .failed

/-- The input reports the outcome of a send. -/
def Input.isOutcome : Input B → Bool
  | .event reported _ => reported.outcome.isSome
  | _ => false

/-- The loop with the sends that it has made. -/
structure Traffic (B : Nat → Type) where
  loop : RunLoop B
  /-- The row that was stored for each send.  A handshake message has none. -/
  rows : List (Option Int)
  /-- The sends whose outcome has come in, with what it says. -/
  outcomes : List (Nat × MessageStatus)

namespace Traffic

/-- What happens next: an input of the loop that is no outcome, or the outcome of
a send. -/
inductive Event (B : Nat → Type) where
  | input (input : Input B)
  | outcome (send : Nat) (receiver : PeerId) (reply : SendReply) (draws : Draws B)

def start (app : App B) : Traffic B := { loop := .start app, rows := [], outcomes := [] }

abbrev app (t : Traffic B) : App B := t.loop.state.app

/-- The row of a send that an input has made: a line of the user has just stored
it. -/
def sendRow (app : App B) : Input B → Option Int
  | .line _ _ => app.lastOutgoing
  | _ => none

section Step

variable (P : Primitives B) [Serde (HybridSignature B)] [Serde (RatchetMessageHeader B)]
  [Serde (PreKeyBundle B)] [Serde (PqxdhPrekeyMessage B)] [Serde (GroupKeyDistribution B)]
  [Serde (SessionKeys B)] [Serde (RatchetSnapshot B)] [Serde SenderKeyMessage]
  [DecidableEq (B X25519_PUBLIC_KEY_SIZE)]

def step (t : Traffic B) : Event B → Traffic B
  | .input input =>
    let loop := RunLoop.step P t.loop input
    let count := loop.state.app.node.sent.length - t.app.node.sent.length
    { t with loop, rows := t.rows ++ List.replicate count (sendRow loop.state.app input) }
  | .outcome send receiver reply draws =>
    { t with
      loop := RunLoop.step P t.loop (.event (reply.event receiver) draws)
      outcomes := t.outcomes ++ [(send, reply.status)] }

/-- An outcome comes for a send that was made, and once. -/
def Enabled (t : Traffic B) : Event B → Prop
  | .input input => t.loop.returned = none ∧ input.isOutcome = false
  | .outcome send _ _ _ =>
    t.loop.returned = none ∧ send < t.rows.length ∧ send ∉ t.outcomes.map Prod.fst

def machine : Machine (Traffic B) (Event B) where
  step := step P
  Enabled := Enabled

instance (t : Traffic B) (e : Event B) : Decidable ((machine P).Enabled t e) :=
  match e with
  | .input input => inferInstanceAs (Decidable (t.loop.returned = none ∧ input.isOutcome = false))
  | .outcome send _ _ _ => inferInstanceAs (Decidable
      (t.loop.returned = none ∧ send < t.rows.length ∧ send ∉ t.outcomes.map Prod.fst))

end Step

end Traffic

/-! ## The effect of an outcome -/

section Outcomes

theorem App.messages_settle (status : MessageStatus) (app : App B) :
    (state (settle status app)).store.db.messages =
      app.store.db.messages.map (·.stamp app.lastOutgoing status) := by
  cases h : app.lastOutgoing with
  | none => simp [settle_of_none h, MessageRecord.stamp]
  | some row =>
    rw [settle_of_some h]
    refine List.map_congr_left fun m _ => ?_
    simp only [MessageRecord.stamp, Option.some.injEq, eq_comm]

theorem App.lastRowId_settle (status : MessageStatus) (app : App B) :
    (state (settle status app)).store.db.lastRowId = app.store.db.lastRowId := by
  cases h : app.lastOutgoing with
  | none => rw [settle_of_none h, Outcome.state_ok]
  | some row =>
    rw [settle_of_some h]
    rfl

end Outcomes

namespace Traffic

section Steps

variable (P : Primitives B) [Serde (HybridSignature B)] [Serde (RatchetMessageHeader B)]
  [Serde (PreKeyBundle B)] [Serde (PqxdhPrekeyMessage B)] [Serde (GroupKeyDistribution B)]
  [Serde (SessionKeys B)] [Serde (RatchetSnapshot B)] [Serde SenderKeyMessage]
  [DecidableEq (B X25519_PUBLIC_KEY_SIZE)]

theorem loop_step_eq {loop : RunLoop B} (hreturned : loop.returned = none) (input : Input B) :
    RunLoop.step P loop input = RunLoop.turn P loop.state input := by
  unfold RunLoop.step
  rw [hreturned]

theorem app_outcome {loop : RunLoop B} (hreturned : loop.returned = none) (receiver : PeerId)
    (reply : SendReply) (draws : Draws B) :
    (RunLoop.step P loop (.event (reply.event receiver) draws)).state.app =
      state (App.settle reply.status loop.state.app) := by
  rw [loop_step_eq P hreturned, RunLoop.state_turn_event]
  cases reply <;> rfl

/-- The sends of an input belong to the rows that it has stored. -/
theorem grows_input {loop : RunLoop B} (hreturned : loop.returned = none) {input : Input B}
    (hinput : input.isOutcome = false) :
    let app := (RunLoop.step P loop input).state.app
    loop.state.app.store.db.Grows app.store.db
      (List.replicate (app.node.sent.length - loop.state.app.node.sent.length)
        (sendRow app input)) (loop.state.app.node.running = true) := by
  rw [loop_step_eq P hreturned]
  intro app
  -- an input that leaves the application as it is
  have hidle : app = loop.state.app → loop.state.app.store.db.Grows app.store.db
      (List.replicate (app.node.sent.length - loop.state.app.node.sent.length)
        (sendRow app input)) (loop.state.app.node.running = true) := by
    intro hsame
    rw [hsame, Nat.sub_self]
    exact .of_incoming (.of_eq rfl rfl) 0 _
  cases input with
  | endOfInput => exact hidle rfl
  | channelClosed => exact hidle rfl
  | event event draws =>
    have hevent : event.outcome = none :=
      Option.isNone_iff_eq_none.mp (Option.isSome_eq_false_iff.mp hinput)
    have hinbound := inbound_handleEvent P hevent draws loop.state
    rw [← RunLoop.state_turn_event] at hinbound
    exact .of_incoming hinbound.messages _ _
  | line line draws =>
    by_cases hline : line = ""
    · have hturn : RunLoop.turn P loop.state (.line line draws) = ⟨loop.state, none⟩ :=
        if_pos hline
      exact hidle (congrArg (·.state.app) hturn)
    · have happ : app = state (handleCommand P line draws loop.state.app) := by
        show (RunLoop.turn P loop.state (.line line draws)).state.app = _
        rw [RunLoop.state_turn_line P loop.state hline]
        unfold onApp
        cases handleCommand P line draws loop.state.app <;> rfl
      have heffect := App.lineEffect_handleCommand P line draws loop.state.app
      rw [← happ] at heffect
      cases heffect with
      | quiet hmessages hlast hnode =>
        rw [hnode, Nat.sub_self]
        exact .of_incoming (.of_eq hlast hmessages) 0 _
      | stored record hdirection hmessages hlast houtgoing hnode =>
        refine .of_outgoing hdirection hmessages hlast ?_
        show List.replicate _ app.lastOutgoing = _ ∨ List.replicate _ app.lastOutgoing = _ ∧ _
        rw [houtgoing]
        rcases hnode with ⟨-, hsent⟩ | ⟨hstopped, hnode⟩
        · left
          rw [hsent, Nat.add_sub_cancel_left]
          rfl
        · right
          rw [hnode, Nat.sub_self]
          exact ⟨rfl, hstopped⟩

end Steps

/-! ## Runs -/

/-- What holds of the sends in a run that has started with the application
`first`. -/
structure Tracked (first : App B) (t : Traffic B) : Prop where
  running : t.app.node.running = first.node.running
  sequenced : t.app.store.db.Sequenced
  stored : ∀ (k : Nat) (r : Int), t.rows[k]? = some (some r) → r ≤ t.app.store.db.lastRowId
  distinct : ∀ (j k : Nat) (r : Int),
    t.rows[j]? = some (some r) → t.rows[k]? = some (some r) → j = k
  sends : ∀ p ∈ t.outcomes, p.1 < t.rows.length
  /-- A row whose send has its outcome has the status of the outcome. -/
  settled : ∀ p ∈ t.outcomes, ∀ m ∈ t.app.store.db.messages,
    t.rows[p.1]? = some (some m.id) → m.status = p.2
  /-- The outgoing rows of the run have been sent. -/
  covered : first.node.running = true → ∀ m ∈ t.app.store.db.messages,
    m.direction = .outgoing → first.store.db.lastRowId < m.id →
      ∃ k : Nat, t.rows[k]? = some (some m.id)

theorem Tracked.start {first : App B} (h : first.store.db.Sequenced) :
    Tracked first (.start first) := by
  have hnone : ∀ (k : Nat) (r : Int), (Traffic.start first).rows[k]? ≠ some (some r) :=
    fun k r hk => by simp [Traffic.start] at hk
  refine ⟨rfl, h, fun k r hk => absurd hk (hnone k r), fun j k r hj => absurd hj (hnone j r),
    ?_, ?_, ?_⟩
  · intro p hp
    cases hp
  · intro p hp
    cases hp
  · intro _ m hm _ hnew
    have hbound := h.bounded m hm
    have : first.store.db.lastRowId < m.id := hnew
    omega

/-- Further sends, with their rows. -/
theorem Tracked.grow {first : App B} {t : Traffic B} (h : Tracked first t) {loop : RunLoop B}
    {rows : List (Option Int)}
    (hrunning : loop.state.app.node.running = t.app.node.running)
    (hgrows : t.app.store.db.Grows loop.state.app.store.db rows (t.app.node.running = true)) :
    Tracked first { t with loop, rows := t.rows ++ rows } := by
  obtain ⟨direction, hextends⟩ := hgrows.table
  have hsplit : ∀ (k : Nat) (r : Int), (t.rows ++ rows)[k]? = some (some r) →
      t.rows[k]? = some (some r) ∨
        t.rows.length ≤ k ∧ rows[k - t.rows.length]? = some (some r) := by
    intro k r hk
    by_cases hlt : k < t.rows.length
    · rw [List.getElem?_append_left hlt] at hk
      exact .inl hk
    · rw [List.getElem?_append_right (by omega)] at hk
      exact .inr ⟨by omega, hk⟩
  have hlast := hextends.lastRowId
  refine ⟨hrunning.trans h.running, h.sequenced.of_extends hextends, ?_, ?_, ?_, ?_, ?_⟩
  · intro k r hk
    show r ≤ loop.state.app.store.db.lastRowId
    rcases hsplit k r hk with hold | ⟨-, hnew⟩
    · have hle := h.stored k r hold
      omega
    · exact (hgrows.fresh _ r hnew).2
  · intro j k r hj hk
    -- an old row has a smaller id than a new one
    rcases hsplit j r hj with hj | ⟨hlej, hj⟩ <;> rcases hsplit k r hk with hk | ⟨hlek, hk⟩
    · exact h.distinct j k r hj hk
    · have hle := h.stored j r hj
      have hlt := (hgrows.fresh _ r hk).1
      omega
    · have hle := h.stored k r hk
      have hlt := (hgrows.fresh _ r hj).1
      omega
    · have heq := hgrows.distinct _ _ r hj hk
      omega
  · intro p hp
    have hlt := h.sends p hp
    show p.1 < (t.rows ++ rows).length
    rw [List.length_append]
    omega
  · intro p hp m hm hrow
    have hold : t.rows[p.1]? = some (some m.id) := by
      rwa [show (t.rows ++ rows)[p.1]? = t.rows[p.1]? from
        List.getElem?_append_left (h.sends p hp)] at hrow
    exact h.settled p hp m (hextends.mem_of_le hm (h.stored _ _ hold)) hold
  · intro hfirst m hm hdirection hid
    by_cases hold : m ∈ t.app.store.db.messages
    · obtain ⟨k, hk⟩ := h.covered hfirst m hold hdirection hid
      have hlt : k < t.rows.length := (List.getElem?_eq_some_iff.mp hk).1
      exact ⟨k, (List.getElem?_append_left hlt).trans hk⟩
    · obtain ⟨k, hk⟩ := hgrows.covered (h.running.trans hfirst) m hm hold hdirection
      refine ⟨t.rows.length + k, ?_⟩
      show (t.rows ++ rows)[t.rows.length + k]? = _
      rw [List.getElem?_append_right (by omega), Nat.add_sub_cancel_left, hk]

/-- The outcome of a send, written to the row of the send. -/
theorem Tracked.settle {first : App B} {t : Traffic B} (h : Tracked first t) {loop : RunLoop B}
    {send : Nat} {status : MessageStatus}
    (hrunning : loop.state.app.node.running = t.app.node.running)
    (hmessages : loop.state.app.store.db.messages =
      t.app.store.db.messages.map (·.stamp t.app.lastOutgoing status))
    (hlast : loop.state.app.store.db.lastRowId = t.app.store.db.lastRowId)
    (hsend : send < t.rows.length) (honce : send ∉ t.outcomes.map Prod.fst)
    (hown : t.rows[send]? = some t.app.lastOutgoing) :
    Tracked first { t with loop, outcomes := t.outcomes ++ [(send, status)] } := by
  refine ⟨hrunning.trans h.running, h.sequenced.stamp hmessages hlast, ?_, h.distinct, ?_, ?_, ?_⟩
  · intro k r hk
    show r ≤ loop.state.app.store.db.lastRowId
    rw [hlast]
    exact h.stored k r hk
  · intro p hp
    rcases List.mem_append.mp hp with hp | hp
    · exact h.sends p hp
    · obtain rfl := List.mem_singleton.mp hp
      exact hsend
  · intro p hp m hm hrow
    replace hm : m ∈ loop.state.app.store.db.messages := hm
    rw [hmessages] at hm
    obtain ⟨m₀, hm₀, rfl⟩ := List.mem_map.mp hm
    rw [MessageRecord.stamp_id] at hrow
    rcases List.mem_append.mp hp with hp | hp
    · -- the row of another send is another row
      have hne : t.app.lastOutgoing ≠ some m₀.id := by
        intro htarget
        rw [htarget] at hown
        have hsame := h.distinct p.1 send m₀.id hrow hown
        exact honce (List.mem_map.mpr ⟨p, hp, hsame⟩)
      rw [MessageRecord.stamp_ne status hne]
      exact h.settled p hp m₀ hm₀ hrow
    · obtain rfl := List.mem_singleton.mp hp
      exact MessageRecord.stamp_self status (Option.some.inj (hown.symm.trans hrow))
  · intro hfirst m hm hdirection hid
    replace hm : m ∈ loop.state.app.store.db.messages := hm
    rw [hmessages] at hm
    obtain ⟨m₀, hm₀, rfl⟩ := List.mem_map.mp hm
    rw [MessageRecord.stamp_id] at hid ⊢
    rw [MessageRecord.stamp_direction] at hdirection
    exact h.covered hfirst m₀ hm₀ hdirection hid

/-- An outcome as it comes in: the row of its send, and the row in
`last_outgoing`, which it is written to. -/
structure Settlement where
  own : Option Int
  written : Option Int
  deriving DecidableEq

def settlements (t : Traffic B) : Event B → List Settlement
  | .input _ => []
  | .outcome send _ _ _ => [{ own := t.rows[send]?.join, written := t.app.lastOutgoing }]

/-- Every send has its outcome. -/
def Complete (t : Traffic B) : Prop :=
  ∀ send < t.rows.length, ∃ status, (send, status) ∈ t.outcomes

/-- Every outgoing row that was stored since `first` has the status of the
outcome of its own send. -/
def Accounted (first : App B) (t : Traffic B) : Prop :=
  ∀ m ∈ t.app.store.db.messages, m.direction = .outgoing → first.store.db.lastRowId < m.id →
    (first.node.running = true → ∃ send : Nat, t.rows[send]? = some (some m.id)) ∧
      ∀ send : Nat, t.rows[send]? = some (some m.id) →
        ∃ status, (send, status) ∈ t.outcomes ∧ m.status = status

theorem row_of_settlement {t : Traffic B} {send : Nat} (hsend : send < t.rows.length)
    (hown : t.app.lastOutgoing = t.rows[send]?.join) :
    t.rows[send]? = some t.app.lastOutgoing := by
  rw [hown, List.getElem?_eq_getElem hsend]
  rfl

theorem Tracked.accounted {first : App B} {t : Traffic B} (h : Tracked first t)
    (hcomplete : t.Complete) : t.Accounted first := by
  intro m hm hdirection hid
  refine ⟨fun hrunning => h.covered hrunning m hm hdirection hid, fun send hsend => ?_⟩
  obtain ⟨status, hstatus⟩ := hcomplete send (List.getElem?_eq_some_iff.mp hsend).1
  exact ⟨status, hstatus, h.settled _ hstatus m hm hsend⟩

section Runs

variable (P : Primitives B) [Serde (HybridSignature B)] [Serde (RatchetMessageHeader B)]
  [Serde (PreKeyBundle B)] [Serde (PqxdhPrekeyMessage B)] [Serde (GroupKeyDistribution B)]
  [Serde (SessionKeys B)] [Serde (RatchetSnapshot B)] [Serde SenderKeyMessage]
  [DecidableEq (B X25519_PUBLIC_KEY_SIZE)]

/-- A row changes its status by the outcome of its own send only. -/
def OwnOutcome (t : Traffic B) (e : Event B) : Prop :=
  ∀ m ∈ t.app.store.db.messages, ∀ m' ∈ (step P t e).app.store.db.messages,
    m'.id = m.id → m'.status ≠ m.status →
      ∃ send receiver reply draws, e = .outcome send receiver reply draws ∧
        t.rows[send]? = some (some m.id) ∧ m'.status = reply.status

variable {P}

theorem Tracked.step {first : App B} {t : Traffic B} {e : Event B} (h : Tracked first t)
    (henabled : Enabled t e) (hown : ∀ s ∈ settlements t e, s.written = s.own) :
    Tracked first (step P t e) := by
  cases e with
  | input input =>
    obtain ⟨hreturned, hinput⟩ := henabled
    have hrooted := RunLoop.rooted_turn P t.loop.state input
    rw [← loop_step_eq P hreturned] at hrooted
    exact h.grow hrooted.running (grows_input P hreturned hinput)
  | outcome send receiver reply draws =>
    obtain ⟨hreturned, hsend, honce⟩ := henabled
    have happ := app_outcome P hreturned receiver reply draws
    refine h.settle ?_ ?_ ?_ hsend honce
      (row_of_settlement hsend (hown _ (List.mem_singleton.mpr rfl)))
    · rw [happ]
      exact (App.rooted_settle reply.status t.app).running
    · rw [happ]
      exact App.messages_settle reply.status t.app
    · rw [happ]
      exact App.lastRowId_settle reply.status t.app

theorem Tracked.ownOutcome {first : App B} {t : Traffic B} {e : Event B} (h : Tracked first t)
    (henabled : Enabled t e) (hown : ∀ s ∈ settlements t e, s.written = s.own) :
    OwnOutcome P t e := by
  intro m hm m' hm' hid hchanged
  cases e with
  | input input =>
    obtain ⟨hreturned, hinput⟩ := henabled
    obtain ⟨direction, hextends⟩ := (grows_input P hreturned hinput).table
    have hbound := h.sequenced.bounded m hm
    have hold := hextends.mem_of_le hm' (by rw [hid]; exact hbound)
    rw [h.sequenced.eq_of_id hold hm hid] at hchanged
    exact absurd rfl hchanged
  | outcome send receiver reply draws =>
    obtain ⟨hreturned, hsend, -⟩ := henabled
    have hrow := row_of_settlement hsend (hown _ (List.mem_singleton.mpr rfl))
    replace hm' : m' ∈ (RunLoop.step P t.loop
      (.event (reply.event receiver) draws)).state.app.store.db.messages := hm'
    rw [app_outcome P hreturned, App.messages_settle] at hm'
    obtain ⟨m₀, hm₀, rfl⟩ := List.mem_map.mp hm'
    rw [MessageRecord.stamp_id] at hid
    obtain rfl := h.sequenced.eq_of_id hm₀ hm hid
    by_cases htarget : t.app.lastOutgoing = some m₀.id
    · rw [htarget] at hrow
      exact ⟨send, receiver, reply, draws, rfl, hrow,
        MessageRecord.stamp_self reply.status htarget⟩
    · rw [MessageRecord.stamp_ne reply.status htarget] at hchanged
      exact absurd rfl hchanged

end Runs

end Traffic

section Theorem

variable (P : Primitives B) [Serde (HybridSignature B)] [Serde (RatchetMessageHeader B)]
  [Serde (PreKeyBundle B)] [Serde (PqxdhPrekeyMessage B)] [Serde (GroupKeyDistribution B)]
  [Serde (SessionKeys B)] [Serde (RatchetSnapshot B)] [Serde SenderKeyMessage]
  [DecidableEq (B X25519_PUBLIC_KEY_SIZE)]

/-- In a run in which every outcome finds the row of its own send in
`last_outgoing`, a row changes its status by the outcome of its own send only, and
when all outcomes have come in, every outgoing row has the status of its own. -/
theorem delivery_status_attributed {first : App B} (hsequenced : first.store.db.Sequenced)
    (events : List (Traffic.Event B))
    (hvalid : (Traffic.machine P).Valid (.start first) events)
    (hown : ∀ s ∈ (Traffic.machine P).trace Traffic.settlements (.start first) events,
      s.written = s.own) :
    (∀ before e after, events = before ++ e :: after →
        Traffic.OwnOutcome P ((Traffic.machine P).run (.start first) before) e) ∧
      (((Traffic.machine P).run (.start first) events).Complete →
        ((Traffic.machine P).run (.start first) events).Accounted first) := by
  have htracked : ∀ es, (Traffic.machine P).Valid (.start first) es →
      (∀ s ∈ (Traffic.machine P).trace Traffic.settlements (.start first) es,
        s.written = s.own) → ((Traffic.machine P).run (.start first) es).Tracked first :=
    fun es => Machine.invariant_of_trace (fun _ _ => .step) (.start hsequenced)
  refine ⟨?_, (htracked events hvalid hown).accounted⟩
  rintro before e after rfl
  rw [Machine.trace_append] at hown
  obtain ⟨hbefore, henabled, -⟩ := Machine.valid_append.mp hvalid
  refine (htracked before hbefore fun s hs => ?_).ownOutcome henabled fun s hs => ?_
  · exact hown s (List.mem_append_left _ hs)
  · exact hown s (List.mem_append_right _ (List.mem_append_left _ hs))

end Theorem

namespace Sym

/-- The remote has accepted a message. -/
def accepted : SendReply := .delivered [98, 50] { status := Network.STATUS_OK, ackId := [5] }

/-- The remote did not answer. -/
def timedOut : SendReply := .failed "Timeout while waiting for a response"

/-- The handshake of the initiator, with the outcomes of its three messages. -/
def handshakeEvents : List (Traffic.Event Sym) :=
  [.input (.event (.directMessage [1] bundleEnvelope) draws),
    .input (.event (.directMessage [1] (syncEnvelope primitives firstBoot.identity "b2"
      MARKER_RATCHET_PUB [66] 9)) draws),
    .outcome 0 [1] accepted draws, .outcome 1 [1] accepted draws, .outcome 2 [1] accepted draws]

/-- Two lines, each with its outcome before the next. -/
def turnsEvents : List (Traffic.Event Sym) :=
  handshakeEvents ++
    [.input (.line "hi" draws), .outcome 3 [1] accepted draws,
      .input (.line "ho" { draws with messageNonce := 6 }), .outcome 4 [1] timedOut draws]

/-- Two lines, without an outcome yet. -/
def flightEvents : List (Traffic.Event Sym) :=
  handshakeEvents ++
    [.input (.line "hi" draws), .input (.line "ho" { draws with messageNonce := 6 })]

/-- The first line is delivered. -/
def firstDelivered : Traffic.Event Sym := .outcome 3 [1] accepted draws

/-- The second line is not. -/
def secondFailed : Traffic.Event Sym := .outcome 4 [1] timedOut draws

/-- The rows of the sends, the outcomes, and the rows of the table. -/
def ledger (t : Traffic Sym) : List (Option Int) × List (Nat × MessageStatus) ×
    List (Int × MessageDirection × MessageStatus) :=
  (t.rows, t.outcomes, t.app.store.db.messages.map fun m => (m.id, m.direction, m.status))

theorem sequenced_freshInitiator : freshInitiator.store.db.Sequenced := by
  have hempty : freshInitiator.store.db.messages = [] := rfl
  refine ⟨fun m hm => ?_, ?_⟩
  · rw [hempty] at hm
    cases hm
  · rw [hempty]
    exact List.Pairwise.nil

open scoped Presidium.Sym in
theorem ledger_turnsEvents :
    ledger ((Traffic.machine primitives).run (.start freshInitiator) turnsEvents) =
      ([none, none, none, some 1, some 2],
        [(0, .delivered), (1, .delivered), (2, .delivered), (3, .delivered), (4, .failed)],
        [(1, .outgoing, .delivered), (2, .outgoing, .failed)]) := by
  decide +kernel

open scoped Presidium.Sym in
theorem ledger_flightEvents :
    ledger ((Traffic.machine primitives).run (.start freshInitiator) flightEvents) =
      ([none, none, none, some 1, some 2],
        [(0, .delivered), (1, .delivered), (2, .delivered)],
        [(1, .outgoing, .sent), (2, .outgoing, .sent)]) := by
  decide +kernel

open scoped Presidium.Sym in
theorem ledger_firstDelivered :
    ledger ((Traffic.machine primitives).run (.start freshInitiator)
      (flightEvents ++ [firstDelivered])) =
      ([none, none, none, some 1, some 2],
        [(0, .delivered), (1, .delivered), (2, .delivered), (3, .delivered)],
        [(1, .outgoing, .sent), (2, .outgoing, .delivered)]) := by
  decide +kernel

open scoped Presidium.Sym in
theorem ledger_secondFailed :
    ledger ((Traffic.machine primitives).run (.start freshInitiator)
      (flightEvents ++ [firstDelivered, secondFailed])) =
      ([none, none, none, some 1, some 2],
        [(0, .delivered), (1, .delivered), (2, .delivered), (3, .delivered), (4, .failed)],
        [(1, .outgoing, .sent), (2, .outgoing, .delivered)]) := by
  decide +kernel

section Ledger

variable {t : Traffic Sym} {rows : List (Option Int)} {outcomes : List (Nat × MessageStatus)}
  {messages : List (Int × MessageDirection × MessageStatus)}

theorem complete_of_ledger (h : ledger t = (rows, outcomes, messages))
    (hall : ∀ send < rows.length, send ∈ outcomes.map Prod.fst) : t.Complete := by
  have hrows : t.rows = rows := congrArg Prod.fst h
  have houtcomes : t.outcomes = outcomes := congrArg (·.2.1) h
  intro send hsend
  rw [hrows] at hsend
  rw [houtcomes]
  obtain ⟨p, hp, rfl⟩ := List.mem_map.mp (hall send hsend)
  exact ⟨p.2, hp⟩

/-- A row that the ledger shows. -/
theorem exists_of_ledger (h : ledger t = (rows, outcomes, messages))
    {row : Int × MessageDirection × MessageStatus} (hmem : row ∈ messages) :
    ∃ m ∈ t.app.store.db.messages, (m.id, m.direction, m.status) = row := by
  have hmessages : (t.app.store.db.messages.map fun m => (m.id, m.direction, m.status)) =
      messages := congrArg (·.2.2) h
  rw [← hmessages] at hmem
  exact List.mem_map.mp hmem

/-- An event that changes the status of a row without being the outcome of its
send. -/
theorem not_ownOutcome_of_ledger {send : Nat} {receiver : PeerId} {reply : SendReply}
    {drawn : Draws Sym} {rows' : List (Option Int)} {outcomes' : List (Nat × MessageStatus)}
    {messages' : List (Int × MessageDirection × MessageStatus)} {id : Int}
    {status status' : MessageStatus} (h : ledger t = (rows, outcomes, messages))
    (h' : ledger (t.step primitives (.outcome send receiver reply drawn)) =
      (rows', outcomes', messages'))
    (hbefore : (id, .outgoing, status) ∈ messages) (hafter : (id, .outgoing, status') ∈ messages')
    (hchanged : status' ≠ status) (hother : rows[send]? ≠ some (some id)) :
    ¬ Traffic.OwnOutcome primitives t (.outcome send receiver reply drawn) := by
  intro hown
  have hrows : t.rows = rows := congrArg Prod.fst h
  obtain ⟨m, hm, hrow⟩ := exists_of_ledger h hbefore
  obtain ⟨m', hm', hrow'⟩ := exists_of_ledger h' hafter
  simp only [Prod.mk.injEq] at hrow hrow'
  obtain ⟨rfl, -, rfl⟩ := hrow
  obtain ⟨hid, -, rfl⟩ := hrow'
  obtain ⟨_, _, _, _, hevent, hsend, -⟩ := hown m hm m' hm' hid hchanged
  cases hevent
  rw [hrows] at hsend
  exact hother hsend

/-- A row whose status is not the outcome of its send. -/
theorem not_accounted_of_ledger {first : App Sym} {send : Nat} {id : Int}
    {status : MessageStatus} (h : ledger t = (rows, outcomes, messages))
    (hmem : (id, .outgoing, status) ∈ messages) (hnew : first.store.db.lastRowId < id)
    (hsend : rows[send]? = some (some id)) (hother : (send, status) ∉ outcomes) :
    ¬ t.Accounted first := by
  intro haccounted
  have hrows : t.rows = rows := congrArg Prod.fst h
  have houtcomes : t.outcomes = outcomes := congrArg (·.2.1) h
  obtain ⟨m, hm, hrow⟩ := exists_of_ledger h hmem
  simp only [Prod.mk.injEq] at hrow
  obtain ⟨rfl, hdirection, rfl⟩ := hrow
  rw [← hrows] at hsend
  obtain ⟨_, houtcome, rfl⟩ := (haccounted m hm hdirection hnew).2 send hsend
  rw [houtcomes] at houtcome
  exact hother houtcome

end Ledger

end Sym

open scoped Presidium.Sym in
/-- Two lines, each of them answered before the next one. -/
theorem delivery_status_turns :
    (∀ before e after, Sym.turnsEvents = before ++ e :: after →
        Traffic.OwnOutcome Sym.primitives
          ((Traffic.machine Sym.primitives).run (.start Sym.freshInitiator) before) e) ∧
      ((Traffic.machine Sym.primitives).run (.start Sym.freshInitiator)
        Sym.turnsEvents).Accounted Sym.freshInitiator := by
  obtain ⟨hown, haccounted⟩ := delivery_status_attributed Sym.primitives
    Sym.sequenced_freshInitiator Sym.turnsEvents (by decide +kernel) (by decide +kernel)
  exact ⟨hown, haccounted (Sym.complete_of_ledger Sym.ledger_turnsEvents (by decide))⟩

open scoped Presidium.Sym in
/-- Two lines are in flight.  The outcome of the first is written to the row of
the second, and the outcome of the second to no row. -/
theorem outcomes_cross :
    App.startInitiator Sym.initiatorStore [1] = .ok Sym.freshInitiator ∧
      (Traffic.machine Sym.primitives).Valid (.start Sym.freshInitiator)
        (Sym.flightEvents ++ [Sym.firstDelivered, Sym.secondFailed]) ∧
      ¬ Traffic.OwnOutcome Sym.primitives
        ((Traffic.machine Sym.primitives).run (.start Sym.freshInitiator) Sym.flightEvents)
        Sym.firstDelivered ∧
      ((Traffic.machine Sym.primitives).run (.start Sym.freshInitiator)
        (Sym.flightEvents ++ [Sym.firstDelivered, Sym.secondFailed])).Complete ∧
      ¬ ((Traffic.machine Sym.primitives).run (.start Sym.freshInitiator)
        (Sym.flightEvents ++ [Sym.firstDelivered, Sym.secondFailed])).Accounted
          Sym.freshInitiator := by
  refine ⟨Sym.startInitiator_initiatorStore, by decide +kernel, ?_,
    Sym.complete_of_ledger Sym.ledger_secondFailed (by decide), ?_⟩
  · have hafter := Sym.ledger_firstDelivered
    rw [Machine.run_append] at hafter
    exact Sym.not_ownOutcome_of_ledger Sym.ledger_flightEvents hafter
      (.tail _ (.head _)) (.tail _ (.head _)) (by decide) (by decide)
  · exact Sym.not_accounted_of_ledger Sym.ledger_secondFailed (.head _) (by decide)
      (show [none, none, none, some 1, some 2][3]? = some (some 1) from rfl) (by decide)

end Presidium
