import Mathlib.Data.List.TakeWhile
import Presidium.Lib.Coupled
import Presidium.Network.DirectMessages

/-!
# The node's task and its two channels

The application talks to the node's task through an `mpsc` channel with room for
64 commands, and the task reports events through one with room for 256.  Both
sides wait while the channel they send into is full: `emit` in the middle of
handling a swarm event, and the methods of `P2pNode` in the middle of whatever
the application does.

`nodeTask` is the loop of `run_loop` cut at these waits.  What needs no waiting
is done at once: between two waits the task is about to emit, or it is back at
its `select!`.  The application may be any task that uses the node.

`channels_exact` says that this makes no difference to what happens: in every
interleaving the task does what `runLoop` says for the turns it has taken, and
commands and events arrive once and in order.
-/

namespace Presidium.Network

open Coupled (Task Move)

/-- `mpsc::channel(64)`. -/
def CONTROL_CAPACITY : Nat := 64

/-- `mpsc::channel(256)`. -/
def EVENTS_CAPACITY : Nat := 256

/-! ## The task, cut at its waits -/

/-- The state of the task between two waits. -/
structure NodeTask where
  pending : Pending
  /-- What is left to do of the turn. -/
  todo : List Action
  /-- What the task has done. -/
  performed : List Action
  stopped : Bool

namespace NodeTask

/-- Do everything up to the next event to report. -/
def advance (t : NodeTask) : NodeTask :=
  { t with
    performed := t.performed ++ t.todo.takeWhile fun a => a.event.isNone
    todo := t.todo.dropWhile fun a => a.event.isNone }

/-- Take a turn. -/
def take (t : NodeTask) (round : List Action × Pending) : NodeTask :=
  { t with todo := round.1, pending := round.2 }.advance

/-- The event is out. -/
def emitted (t : NodeTask) : NodeTask :=
  { t with performed := t.performed ++ t.todo.take 1, todo := t.todo.drop 1 }.advance

end NodeTask

section Task

variable (config : NodeConfig) (codec : EnvelopeCodec)

/-- The task before its loop. -/
def NodeTask.start : NodeTask :=
  NodeTask.advance { pending := ∅, todo := startup config, performed := [], stopped := false }

/-- The loop of `run_loop` as a task.  An event whose receiver is gone is only
logged. -/
def nodeTask : Task Control NodeEvent RequestId SwarmEvent NodeTask where
  intent t :=
    match t.todo.head?.bind Action.event with
    | some event => .send event
    | none => if t.stopped then .finished else .select
  sent := NodeTask.emitted
  closed := NodeTask.emitted
  receive t command requestId :=
    { t.take (handle config codec t.pending (.control command requestId)) with
      stopped := (Turn.control command requestId).isShutdown }
  outside t event := t.take (handle config codec t.pending (.swarm event))

/-- The turn that a move takes. -/
def turnOf : Move Control RequestId SwarmEvent → Option Turn
  | .received command requestId => some (.control command requestId)
  | .outside event => some (.swarm event)
  | _ => none

def Turn.command : Turn → Option Control
  | .control command _ => some command
  | .swarm _ => none

theorem command_turnOf (move : Move Control RequestId SwarmEvent) :
    (turnOf move).bind Turn.command = move.message := by
  cases move <;> rfl

/-! ## The task alone -/

variable {config codec}

/-- Nothing is reported before the loop. -/
theorem event_startup {a : Action} (ha : a ∈ startup config) : a.event = none := by
  unfold startup at ha
  simp only [List.mem_append, List.mem_map, List.mem_flatMap] at ha
  rcases ha with (⟨addr, -, rfl⟩ | ⟨topic, -, rfl⟩) | ⟨addr, -, ha⟩
  · rfl
  · rfl
  · cases hparse : parseBootstrapPeer addr with
    | error e =>
      rw [hparse] at ha
      cases ha
    | ok parsed =>
      rw [hparse] at ha
      rcases List.mem_append.mp ha with ha | ha
      · obtain ⟨id, -, rfl⟩ := List.mem_map.mp ha
        rfl
      · rw [List.mem_singleton.mp ha]
        rfl

theorem performed_advance (t : NodeTask) :
    t.advance.performed ++ t.advance.todo = t.performed ++ t.todo := by
  show t.performed ++ t.todo.takeWhile _ ++ t.todo.dropWhile _ = _
  rw [List.append_assoc, List.takeWhile_append_dropWhile]

theorem performed_emitted (t : NodeTask) :
    t.emitted.performed ++ t.emitted.todo = t.performed ++ t.todo := by
  rw [NodeTask.emitted, performed_advance]
  show t.performed ++ t.todo.take 1 ++ t.todo.drop 1 = _
  rw [List.append_assoc, List.take_append_drop]

/-- After the work that needs no waiting, the task is about to emit or done. -/
theorem head_advance (t : NodeTask) : ∀ a, t.advance.todo.head? = some a → a.event.isSome = true := by
  intro a ha
  have hhead := List.head?_dropWhile_not (fun a : Action => a.event.isNone) t.todo
  rw [show (t.todo.dropWhile fun a => a.event.isNone).head? = some a from ha] at hhead
  simpa using hhead

/-- The task has done what `runLoop` says for its turns, but for what is left of
the last one. -/
structure Reflects (config : NodeConfig) (codec : EnvelopeCodec) (turns : List Turn)
    (t : NodeTask) : Prop where
  actions : t.performed ++ t.todo = (runLoop config codec turns).1
  pending : t.pending = (runLoop config codec turns).2
  waits : ∀ a, t.todo.head? = some a → a.event.isSome = true
  stopped : t.stopped = turns.any Turn.isShutdown

theorem reflects_start : Reflects config codec [] (NodeTask.start config) where
  actions := by
    rw [NodeTask.start, performed_advance]
    exact (List.append_nil (startup config)).symm
  pending := rfl
  waits := head_advance _
  stopped := rfl

theorem exists_eq_shutdown {turn : Turn} (h : turn.isShutdown = true) :
    ∃ requestId, turn = .control .shutdown requestId := by
  cases turn with
  | swarm event => cases h
  | control command requestId =>
    cases command with
    | shutdown => exact ⟨requestId, rfl⟩
    | _ => cases h

/-- One more turn of a loop that has not ended.  A `Shutdown` does nothing
more. -/
theorem runLoop_concat {turns : List Turn} (h : turns.any Turn.isShutdown = false) (turn : Turn) :
    runLoop config codec (turns ++ [turn]) =
      ((runLoop config codec turns).1 ++
          (handle config codec (runLoop config codec turns).2 turn).1,
        (handle config codec (runLoop config codec turns).2 turn).2) := by
  have hall : handled turns = turns := by
    refine List.takeWhile_eq_self_iff.mpr fun x hx => ?_
    have hnot := List.any_eq_false.mp h x hx
    simpa using hnot
  have hhandled : handled (turns ++ [turn]) = turns ++ handled [turn] := by
    unfold handled at hall ⊢
    rw [List.takeWhile_append, hall]
    simp
  unfold runLoop
  rw [hhandled, hall, Machine.trace_append, Machine.run_append]
  cases hturn : turn.isShutdown with
  | false =>
    have hone : handled [turn] = [turn] := by simp [handled, hturn]
    rw [hone, List.append_assoc]
    show (_ ++ (_ ++ (_ ++ [])), _) = _
    rw [List.append_nil]
    rfl
  | true =>
    have hone : handled [turn] = [] := by simp [handled, hturn]
    obtain ⟨requestId, rfl⟩ := exists_eq_shutdown hturn
    rw [hone, List.append_assoc]
    rfl

/-- A task that waits at its `select!` has nothing left to do. -/
theorem Reflects.of_select {turns : List Turn} {t : NodeTask} (h : Reflects config codec turns t)
    (hselect : (nodeTask config codec).intent t = .select) :
    t.todo = [] ∧ turns.any Turn.isShutdown = false := by
  have hevent : t.todo.head?.bind Action.event = none := by
    cases hhead : t.todo.head?.bind Action.event with
    | none => rfl
    | some event =>
      simp only [nodeTask, hhead] at hselect
      cases hselect
  have hstopped : t.stopped = false := by
    cases hstopped : t.stopped with
    | false => rfl
    | true =>
      simp only [nodeTask, hevent, hstopped, if_true] at hselect
      cases hselect
  refine ⟨?_, h.stopped.symm.trans hstopped⟩
  cases htodo : t.todo with
  | nil => rfl
  | cons a rest =>
    have hwaits := h.waits a (by rw [htodo]; rfl)
    rw [htodo] at hevent
    rw [show a.event = none from hevent] at hwaits
    cases hwaits

/-- A turn is taken. -/
theorem Reflects.take {turns : List Turn} {t : NodeTask} (h : Reflects config codec turns t)
    (hselect : (nodeTask config codec).intent t = .select) (turn : Turn) :
    Reflects config codec (turns ++ [turn])
      { t.take (handle config codec t.pending turn) with stopped := turn.isShutdown } := by
  obtain ⟨htodo, hopen⟩ := h.of_select hselect
  have hperformed : t.performed = (runLoop config codec turns).1 := by
    rw [← h.actions, htodo, List.append_nil]
  refine ⟨?_, ?_, head_advance _, ?_⟩
  · rw [runLoop_concat hopen, ← h.pending, ← hperformed]
    exact performed_advance { t with
      todo := (handle config codec t.pending turn).1
      pending := (handle config codec t.pending turn).2 }
  · rw [runLoop_concat hopen, ← h.pending]
    rfl
  · rw [List.any_append, hopen]
    simp

/-- An event is out. -/
theorem Reflects.emitted {turns : List Turn} {t : NodeTask} (h : Reflects config codec turns t) :
    Reflects config codec turns t.emitted where
  actions := by rw [performed_emitted, h.actions]
  pending := h.pending
  waits := head_advance _
  stopped := h.stopped

/-- The turns of a run of the task alone. -/
theorem reflects_run {moves : List (Move Control RequestId SwarmEvent)} {turns : List Turn}
    {t : NodeTask} (h : Reflects config codec turns t)
    (hvalid : (nodeTask config codec).solo.Valid t moves) :
    Reflects config codec (turns ++ moves.filterMap turnOf)
      ((nodeTask config codec).solo.run t moves) := by
  induction moves generalizing t turns with
  | nil =>
    rw [List.filterMap_nil, List.append_nil]
    exact h
  | cons move moves ih =>
    obtain ⟨henabled, hrest⟩ := hvalid
    cases move with
    | sent => exact ih h.emitted hrest
    | closed => exact ih h.emitted hrest
    | received command requestId =>
      have hnext := ih (h.take henabled (.control command requestId)) hrest
      rwa [List.append_assoc] at hnext
    | outside event =>
      have hstopped : t.stopped = (Turn.swarm event).isShutdown :=
        h.stopped.trans (h.of_select henabled).2
      have htake := h.take henabled (.swarm event)
      rw [← hstopped] at htake
      have hnext := ih htake hrest
      rwa [List.append_assoc] at hnext

/-- What is done without waiting reports nothing. -/
theorem events_advance (t : NodeTask) :
    t.advance.performed.filterMap Action.event = t.performed.filterMap Action.event := by
  have hsilent : (t.todo.takeWhile fun a => a.event.isNone).filterMap Action.event = [] := by
    rw [List.filterMap_eq_nil_iff]
    intro a ha
    simpa using List.mem_takeWhile_imp ha
  show (t.performed ++ t.todo.takeWhile _).filterMap Action.event = _
  rw [List.filterMap_append, hsilent, List.append_nil]

/-- A move that does not find the channel closed. -/
theorem puts_step {move : Move Control RequestId SwarmEvent} {t : NodeTask}
    (henabled : (nodeTask config codec).solo.Enabled t move) (hopen : move ≠ .closed) :
    t.performed.filterMap Action.event ++ (nodeTask config codec).puts t move =
      ((nodeTask config codec).solo.step t move).performed.filterMap Action.event := by
  cases move with
  | closed => exact absurd rfl hopen
  | sent =>
    obtain ⟨event, hevent⟩ := henabled
    rw [(nodeTask config codec).puts_sent hevent]
    show _ = t.emitted.performed.filterMap Action.event
    rw [NodeTask.emitted, events_advance]
    show _ = (t.performed ++ t.todo.take 1).filterMap Action.event
    rw [List.filterMap_append]
    cases htodo : t.todo with
    | nil =>
      simp only [nodeTask, htodo, List.head?_nil, Option.bind_none] at hevent
      split at hevent <;> cases hevent
    | cons a rest =>
      have ha : a.event = some event := by
        cases ha : a.event with
        | none =>
          simp only [nodeTask, htodo, List.head?_cons, Option.bind_some, ha] at hevent
          split at hevent <;> cases hevent
        | some event' =>
          simp only [nodeTask, htodo, List.head?_cons, Option.bind_some, ha] at hevent
          cases hevent
          rfl
      simp [ha]
  | received command requestId =>
    exact (List.append_nil _).trans (events_advance { t with
      todo := (handle config codec t.pending (.control command requestId)).1
      pending := (handle config codec t.pending (.control command requestId)).2 }).symm
  | outside event =>
    exact (List.append_nil _).trans (events_advance { t with
      todo := (handle config codec t.pending (.swarm event)).1
      pending := (handle config codec t.pending (.swarm event)).2 }).symm

/-- What the task puts into the channel are the events that it has emitted, as
long as somebody receives them. -/
theorem puts_run {moves : List (Move Control RequestId SwarmEvent)} {t : NodeTask}
    (hvalid : (nodeTask config codec).solo.Valid t moves) (hopen : Move.closed ∉ moves) :
    t.performed.filterMap Action.event ++
        (nodeTask config codec).solo.trace (nodeTask config codec).puts t moves =
      ((nodeTask config codec).solo.run t moves).performed.filterMap Action.event := by
  induction moves generalizing t with
  | nil => exact List.append_nil _
  | cons move moves ih =>
    obtain ⟨henabled, hrest⟩ := hvalid
    have hstep := puts_step henabled fun h => hopen (h ▸ List.mem_cons_self)
    have hnext := ih hrest fun hmem => hopen (List.mem_cons_of_mem _ hmem)
    show _ ++ ((nodeTask config codec).puts t move ++ _) = _
    rw [← List.append_assoc, hstep]
    exact hnext

end Task

/-! ## The node and an application -/

section Channels

variable {δ χ σ : Type} (config : NodeConfig) (codec : EnvelopeCodec)
  (app : Task NodeEvent Control δ χ σ)

/-- The application on the left, the node's task on the right. -/
def channels : Machine (Coupled.State σ NodeTask NodeEvent Control)
    (Coupled.Event δ χ RequestId SwarmEvent) :=
  Coupled.system app (nodeTask config codec) CONTROL_CAPACITY EVENTS_CAPACITY

/-- The application has started the node. -/
def channels.start (s : σ) : Coupled.State σ NodeTask NodeEvent Control :=
  { left := s, right := .start config, toRight := [], toLeft := [] }

/-- What the application has done and seen. -/
def appMoves (s : σ) (es : List (Coupled.Event δ χ RequestId SwarmEvent)) :
    List (Move NodeEvent δ χ) :=
  (channels config codec app).trace (Coupled.leftMoves (nodeTask config codec))
    (channels.start config s) es

/-- The turns that the node's task has taken. -/
def nodeTurns (s : σ) (es : List (Coupled.Event δ χ RequestId SwarmEvent)) : List Turn :=
  ((channels config codec app).trace (Coupled.rightMoves app) (channels.start config s) es).filterMap
    turnOf

/-- What the channels come to, in a state that was reached with the given turns
of the node and moves of the application. -/
structure ChannelsExact (start : σ) (moves : List (Move NodeEvent δ χ)) (turns : List Turn)
    (s : Coupled.State σ NodeTask NodeEvent Control) : Prop where
  /-- The application is where its own run leads to. -/
  application : s.left = app.solo.run start moves
  /-- The task has done what `runLoop` says, up to the event it waits with. -/
  node : s.right.performed ++ s.right.todo = (runLoop config codec turns).1
  pending : s.right.pending = (runLoop config codec turns).2
  /-- Commands arrive once and in order. -/
  commands : app.solo.trace app.puts start moves = turns.filterMap Turn.command ++ s.toRight
  /-- So do events. -/
  events : moves.filterMap Move.message ++ s.toLeft ++ s.right.todo.filterMap Action.event =
    (runLoop config codec turns).1.filterMap Action.event
  commandRoom : s.toRight.length ≤ CONTROL_CAPACITY
  eventRoom : s.toLeft.length ≤ EVENTS_CAPACITY

/-- Whatever the application is and however the two are scheduled: as long as
the application has not ended, the node's task has behaved as its loop alone on
the turns it has taken, and both channels are exact. -/
theorem channels_exact {s : σ} {es : List (Coupled.Event δ χ RequestId SwarmEvent)}
    (hvalid : (channels config codec app).Valid (channels.start config s) es)
    (happ : app.intent ((channels config codec app).run (channels.start config s) es).left ≠ .finished) :
    ChannelsExact config codec app s (appMoves config codec app s es)
      (nodeTurns config codec app s es)
      ((channels config codec app).run (channels.start config s) es) := by
  obtain ⟨-, hleft⟩ := Coupled.left_run hvalid
  obtain ⟨hvalidRight, hright⟩ := Coupled.right_run hvalid
  have hreflects : Reflects config codec (nodeTurns config codec app s es)
      ((channels config codec app).run (channels.start config s) es).right :=
    Eq.mpr (congrArg _ hright) (reflects_run reflects_start hvalidRight)
  -- nothing was emitted before the loop
  have hstart : (NodeTask.start config).performed.filterMap Action.event = [] :=
    events_advance _
  have hemitted := puts_run hvalidRight (Coupled.closed_not_mem_right hvalid happ)
  rw [← hright] at hemitted
  have hevents := Coupled.toLeft_run hvalid
  refine ⟨hleft, hreflects.actions, hreflects.pending, ?_, ?_, ?_, ?_⟩
  · rw [nodeTurns, List.filterMap_filterMap]
    simp only [command_turnOf]
    exact Coupled.toRight_run hvalid
  · rw [← hreflects.actions, List.filterMap_append]
    refine congrArg (· ++ _) (hevents.symm.trans ?_)
    exact (congrArg (· ++ _) hstart.symm).trans hemitted
  · exact Coupled.length_toRight_run hvalid (Nat.zero_le _)
  · exact Coupled.length_toLeft_run hvalid (Nat.zero_le _)

/-- As long as neither has ended, somebody can take a step, unless both wait to
send into a full channel. -/
theorem halted_iff [Nonempty χ] {s : Coupled.State σ NodeTask NodeEvent Control}
    (happ : app.intent s.left ≠ .finished)
    (hnode : (nodeTask config codec).intent s.right ≠ .finished) :
    (∀ e, ¬ (channels config codec app).Enabled s e) ↔
      Coupled.Stuck app (nodeTask config codec) CONTROL_CAPACITY EVENTS_CAPACITY s :=
  have : Nonempty SwarmEvent := ⟨.other⟩
  Coupled.stuck_iff happ hnode

end Channels

/-! ## An application with one command -/

/-- Hand over a command, then wait. -/
def oneCommand : Task NodeEvent Control Unit Unit (Option Control) where
  intent
    | some command => .send command
    | none => .select
  sent _ := none
  closed _ := none
  receive s _ _ := s
  outside s _ := s

theorem channels_exact_dial :
    let es : List (Coupled.Event Unit Unit RequestId SwarmEvent) :=
      [.leftSend, .rightOutside (.connectionEstablished [1]), .rightSend, .rightReceive 5,
        .leftReceive ()]
    ChannelsExact {} noGossip oneCommand (some (.dial []))
      (appMoves {} noGossip oneCommand (some (.dial [])) es)
      (nodeTurns {} noGossip oneCommand (some (.dial [])) es)
      ((channels {} noGossip oneCommand).run (channels.start {} (some (.dial []))) es) := by
  refine channels_exact {} noGossip oneCommand ?_ nofun
  refine ⟨⟨⟨_, rfl⟩, .inr (by decide)⟩, rfl, ⟨⟨_, rfl⟩, .inr (by decide)⟩, ⟨rfl, nofun⟩, ⟨rfl, nofun⟩,
    trivial⟩

end Presidium.Network
