import Presidium.Demo.Serving
import Presidium.Network.Channels
import Presidium.Network.Topics

/-!
# The demo on top of its node

`demoTask` is the event loop of the demo as a task that uses the node.  A
handler hands its commands to the node one after the other and waits while the
channel is full; only then is the loop back at its `select!`.  The state of the
application is that at the end of the handler: nobody else sees it.

Neither task turns to the channel it reads while it waits to send.  The loop of
the node takes a swarm event or a command, whichever it likes, and it may well
take swarm events only.  A peer that keeps asking a responder for its bundle then
fills both channels: the application waits to hand over a reply, the node's task
waits to report a request, and neither gets on (`flood_deadlocks`).
-/

namespace Presidium

open Network (Control NodeTask RequestId SwarmEvent nodeTask channels)
open Coupled (Task)

variable {B : Nat → Type}

section Reply

variable (P : Primitives B) [Serde (HybridSignature B)] [Serde (PreKeyBundle B)]

/-- The application has handed over its reply to a bundle request. -/
def App.repliedBundle (app : App B) (driver : ResponderHandshake B) (sender : PeerId) (now : Int) :
    App B :=
  ({ app with peer := app.peer.or (some sender) } : App B).handedOver sender
    (syncEnvelope P app.store.identity app.store.deviceId MARKER_BUNDLE
      (Serde.toVec (driver.bundle P)) now)

theorem App.onBundleReq_of_some {app : App B} {driver : ResponderHandshake B}
    (hresponder : app.responder = some driver) (hrunning : app.node.running = true)
    (sender : PeerId) (now : Int) :
    App.onBundleReq P sender now app = .ok () (app.handedOver sender
      (syncEnvelope P app.store.identity app.store.deviceId MARKER_BUNDLE
        (Serde.toVec (driver.bundle P)) now)) := by
  rw [App.onBundleReq_eq]
  simp only [hresponder]
  exact App.sendSync_ok P hrunning sender MARKER_BUNDLE _ now

end Reply

/-- The event loop of the demo, with the commands it has still to hand over. -/
structure DemoTask (B : Nat → Type) where
  loop : RunLoop B
  outbox : List Control

section Demo

variable (P : Primitives B) [Serde (HybridSignature B)] [Serde (RatchetMessageHeader B)]
  [Serde (PreKeyBundle B)] [Serde (PqxdhPrekeyMessage B)] [Serde (GroupKeyDistribution B)]
  [Serde (SessionKeys B)] [Serde (RatchetSnapshot B)] [Serde SenderKeyMessage]
  [DecidableEq (B X25519_PUBLIC_KEY_SIZE)]

/-- What a line of input gives the node to publish. -/
def published (app : App B) : Input B → List Control
  | .line line draws =>
    match Command.ofLine line, Network.groupTopic (asBytes DEMO_GROUP) with
    | .group text, .ok topic =>
      match app.group.publish P app.node.running app.store.identity app.store.deviceId
          (asBytes text) draws.now with
      | .ok envelope _ => [.publish topic envelope]
      | .error _ _ => []
    | _, _ => []
  | _ => []

/-- The loop takes an input. -/
def DemoTask.take (t : DemoTask B) (input : Input B) : DemoTask B :=
  let loop := RunLoop.step P t.loop input
  { loop
    outbox := (loop.state.app.node.sent.drop t.loop.state.app.node.sent.length).map
        (fun out => .sendDirect out.peer out.envelope) ++
      published P t.loop.state.app input }

/-- The demo as a task.  A node that is gone ends the loop. -/
def demoTask : Task Network.NodeEvent Control (Draws B) (Input B) (DemoTask B) where
  intent t :=
    match t.outbox with
    | command :: _ => .send command
    | [] => if t.loop.returned.isSome then .finished else .select
  sent t := { t with outbox := t.outbox.tail }
  closed t := { loop := { t.loop with returned := some (.error .notRunning) }, outbox := [] }
  receive t event draws := t.take P (.event event draws)
  outside t input := t.take P input

/-- A responder at the start of its loop, or back at its `select!`. -/
structure DemoTask.Waiting (t : DemoTask B) : Prop where
  outbox : t.outbox = []
  returned : t.loop.returned = none
  running : t.loop.state.app.node.running = true
  responder : t.loop.state.app.responder.isSome = true

/-! ## A bundle request -/

omit [Serde SenderKeyMessage] in
theorem App.handleDirect_bundleReq {app : App B} {driver : ResponderHandshake B}
    (hresponder : app.responder = some driver) (hrunning : app.node.running = true)
    {envelope : NetworkEnvelope} (harm : envelope.arm = .bundleReq) (sender : PeerId)
    (draws : Draws B) :
    App.handleDirect P sender envelope draws app =
      .ok () (app.repliedBundle P driver sender draws.now) := by
  refine (Outcome.bind_ok rfl).trans ?_
  rw [harm]
  refine App.onBundleReq_of_some P ?_ ?_ sender draws.now
  · exact hresponder
  · exact hrunning

theorem RunLoop.step_bundleReq {loop : RunLoop B} {driver : ResponderHandshake B}
    (hreturned : loop.returned = none) (hresponder : loop.state.app.responder = some driver)
    (hrunning : loop.state.app.node.running = true) {envelope : NetworkEnvelope}
    (harm : envelope.arm = .bundleReq) (sender : PeerId) (draws : Draws B) :
    RunLoop.step P loop (.event (.directMessage sender envelope) draws) =
      { state := { loop.state with
          app := loop.state.app.repliedBundle P driver sender draws.now }
        returned := none } := by
  have hdispatch : dispatch P draws (.directMessage sender envelope) loop.state =
      .ok () { loop.state with app := loop.state.app.repliedBundle P driver sender draws.now } := by
    unfold dispatch onApp
    simp only [App.handleDirect_bundleReq P hresponder hrunning harm]
  have hevent : handleEvent P (.directMessage sender envelope) draws loop.state =
      .ok true { loop.state with app := loop.state.app.repliedBundle P driver sender draws.now } :=
    Outcome.bind_ok hdispatch
  unfold RunLoop.step
  simp only [hreturned]
  unfold RunLoop.turn
  simp only [hevent]
  rfl

theorem DemoTask.Waiting.take {t : DemoTask B} (h : t.Waiting) {envelope : NetworkEnvelope}
    (harm : envelope.arm = .bundleReq) (sender : PeerId) (draws : Draws B) :
    ∃ command loop, t.take P (.event (.directMessage sender envelope) draws) =
        { loop, outbox := [command] } ∧ DemoTask.Waiting { loop, outbox := [] } := by
  obtain ⟨driver, hdriver⟩ := Option.isSome_iff_exists.mp h.responder
  have hstep := RunLoop.step_bundleReq P h.returned hdriver h.running harm sender draws
  refine ⟨.sendDirect sender (syncEnvelope P t.loop.state.app.store.identity
    t.loop.state.app.store.deviceId MARKER_BUNDLE (Serde.toVec (driver.bundle P)) draws.now),
    RunLoop.step P t.loop (.event (.directMessage sender envelope) draws), ?_, ?_⟩
  · refine congrArg (DemoTask.mk _) ?_
    rw [hstep]
    show ((t.loop.state.app.node.sent ++ [_]).drop _).map _ ++ [] = _
    rw [List.drop_left, List.append_nil]
    rfl
  · rw [hstep]
    exact ⟨rfl, rfl, h.running, h.responder⟩

theorem intent_of_waiting {t : DemoTask B} (h : t.Waiting) : (demoTask P).intent t = .select := by
  obtain ⟨loop, outbox⟩ := t
  obtain ⟨rfl, hreturned, -, -⟩ := h
  show (if loop.returned.isSome then Coupled.Intent.finished else .select) = .select
  rw [show loop.returned = none from hreturned]
  rfl

/-- A responder answers a bundle request with one command, and waits again. -/
theorem responds_bundleReq {envelope : NetworkEnvelope} (harm : envelope.arm = .bundleReq)
    (sender : PeerId) (draws : Draws B) :
    Coupled.Responds (demoTask P) DemoTask.Waiting (.directMessage sender envelope) draws where
  idle := fun _ ht => intent_of_waiting P ht
  sends := by
    intro t ht
    obtain ⟨command, loop, htake, -⟩ := ht.take P harm sender draws
    refine ⟨command, ?_⟩
    show (demoTask P).intent (t.take P (.event (.directMessage sender envelope) draws)) = _
    rw [htake]
    rfl
  again := by
    intro t ht
    obtain ⟨command, loop, htake, hwaiting⟩ := ht.take P harm sender draws
    show DemoTask.Waiting ((demoTask P).sent
      (t.take P (.event (.directMessage sender envelope) draws)))
    rw [htake]
    exact hwaiting

end Demo

/-! ## The node's side -/

section Node

variable {config : Network.NodeConfig} {codec : Network.EnvelopeCodec}

/-- The node's task at its `select!`. -/
structure Idle (t : NodeTask) : Prop where
  todo : t.todo = []
  stopped : t.stopped = false

/-- Nothing is reported before the loop. -/
theorem idle_start : Idle (.start config) where
  todo := by
    show (Network.startup config).dropWhile (fun a => a.event.isNone) = []
    rw [List.dropWhile_eq_nil_iff]
    intro a ha
    rw [Network.event_startup ha]
    rfl
  stopped := rfl

/-- A direct message is acknowledged at once and then reported. -/
theorem reports_request (peer : PeerId) (envelope : NetworkEnvelope)
    (channel : Network.ResponseChannel) :
    Coupled.Reports (nodeTask config codec) Idle (.request peer ⟨some envelope⟩ channel)
      (.directMessage peer envelope) where
  idle := by
    rintro ⟨pending, todo, performed, stopped⟩ ⟨rfl, rfl⟩
    rfl
  sends := by
    rintro ⟨pending, todo, performed, stopped⟩ ⟨rfl, rfl⟩
    rfl
  again := by
    rintro ⟨pending, todo, performed, stopped⟩ ⟨rfl, rfl⟩
    exact ⟨rfl, rfl⟩

end Node

/-! ## The flood -/

/-- A peer that keeps asking a responder for its bundle can bring both tasks to
a halt: there is a run in which the swarm brings nothing but this one request,
and after which both the application and the node's task wait to send into a full
channel, so that neither can take a step. -/
theorem flood_deadlocks (P : Primitives B) [Serde (HybridSignature B)]
    [Serde (RatchetMessageHeader B)] [Serde (PreKeyBundle B)] [Serde (PqxdhPrekeyMessage B)]
    [Serde (GroupKeyDistribution B)] [Serde (SessionKeys B)] [Serde (RatchetSnapshot B)]
    [Serde SenderKeyMessage] [DecidableEq (B X25519_PUBLIC_KEY_SIZE)]
    (config : Network.NodeConfig) (codec : Network.EnvelopeCodec) {app : App B}
    (hresponder : app.responder.isSome = true) (hrunning : app.node.running = true)
    {envelope : NetworkEnvelope} (harm : envelope.arm = .bundleReq) (peer : PeerId)
    (channel : Network.ResponseChannel) (draws : Draws B) :
    ∃ es, (∀ event, .rightOutside event ∈ es → event = .request peer ⟨some envelope⟩ channel) ∧
      (channels config codec (demoTask P)).Valid
        (channels.start config { loop := .start app, outbox := [] }) es ∧
      Coupled.Stuck (demoTask P) (nodeTask config codec) Network.CONTROL_CAPACITY
        Network.EVENTS_CAPACITY
        ((channels config codec (demoTask P)).run
          (channels.start config { loop := .start app, outbox := [] }) es) ∧
      ∀ e, ¬ (channels config codec (demoTask P)).Enabled
        ((channels config codec (demoTask P)).run
          (channels.start config { loop := .start app, outbox := [] }) es) e := by
  have hwaiting : DemoTask.Waiting { loop := .start app, outbox := [] } :=
    ⟨rfl, rfl, hrunning, hresponder⟩
  have hreached : ∃ s, (channels config codec (demoTask P)).Reaches
      (Coupled.Event.Floods (.request peer ⟨some envelope⟩ channel))
      (channels.start config { loop := .start app, outbox := [] }) s ∧
      Coupled.Stuck (demoTask P) (nodeTask config codec) Network.CONTROL_CAPACITY
        Network.EVENTS_CAPACITY s :=
    Coupled.exists_stuck (responds_bundleReq P harm peer draws)
      (reports_request peer envelope channel) hwaiting idle_start rfl rfl (by decide)
  obtain ⟨s, ⟨es, hflood, hvalid, rfl⟩, hstuck⟩ := hreached
  have : Nonempty (Input B) := ⟨.line "" draws⟩
  obtain ⟨m, hm⟩ := hstuck.left
  obtain ⟨m', hm'⟩ := hstuck.right
  refine ⟨es, fun event hevent => hflood _ hevent, hvalid, hstuck, ?_⟩
  refine (Network.halted_iff config codec (demoTask P) ?_ ?_).mpr hstuck
  · rw [hm]
    exact nofun
  · rw [hm']
    exact nofun

/-- The responder after its first start. -/
def Sym.freshResponder : App Sym :=
  App.startResponder (NodeDatabase.first Sym.primitives Sym.firstBoot).store
    (firstPrekey Sym.primitives Sym.firstBoot)

open scoped Presidium.Sym in
theorem flood_deadlocks_responder :
    ∃ es, (∀ event, .rightOutside event ∈ es →
        event = .request [7] ⟨some Sym.oneByte⟩ 0) ∧
      (channels {} Network.noGossip (demoTask Sym.primitives)).Valid
        (channels.start {} { loop := .start Sym.freshResponder, outbox := [] }) es ∧
      Coupled.Stuck (demoTask Sym.primitives) (nodeTask {} Network.noGossip)
        Network.CONTROL_CAPACITY Network.EVENTS_CAPACITY
        ((channels {} Network.noGossip (demoTask Sym.primitives)).run
          (channels.start {} { loop := .start Sym.freshResponder, outbox := [] }) es) ∧
      ∀ e, ¬ (channels {} Network.noGossip (demoTask Sym.primitives)).Enabled
        ((channels {} Network.noGossip (demoTask Sym.primitives)).run
          (channels.start {} { loop := .start Sym.freshResponder, outbox := [] }) es) e :=
  flood_deadlocks Sym.primitives {} Network.noGossip rfl rfl rfl [7] 0 Sym.draws

end Presidium
