import Presidium.Demo.Taken

/-!
# Events that the loop survives

A handler that returns an error ends the process.  The gossip arm of
`handle_event` reports a message that does not decrypt and goes on, while the
direct arm hands every error of `handle_direct` to the loop.  A peer that sends
anything an arm does not take stops the node.

`Survives` is the exact condition on one event, and `events_keep_serving` puts
it together for sequences of events.
-/

namespace Presidium

variable {B : Nat → Type}

open Outcome (IsOk)

namespace App

section Gossip

variable (P : Primitives B) [Serde (HybridSignature B)] [Serde SenderKeyMessage]

omit [Serde (HybridSignature B)] [Serde SenderKeyMessage] in
theorem isOk_storeGroup (envelope : NetworkEnvelope) (draws : Draws B) (app : App B) :
    IsOk (storeGroup P envelope draws app) ↔
      Database.Bindable app.group.conversationId ∧
        app.store.db.Fits app.group.conversationId
          (messageIdBytes envelope.timestamp draws.messageNonce) envelope.nonce := by
  by_cases hid : Database.Bindable app.group.conversationId
  · let recorded : App B := { app with
      store := app.store.recorded P app.group.conversationId (app.groupSender P) true draws.now }
    have hrun : storeGroup P envelope draws app =
        (insertMessage P app.group.conversationId (app.groupSender P) envelope .incoming
          draws.messageNonce draws.now >>= fun _ => pure ()) recorded :=
      (Outcome.bind_ok rfl).trans (Outcome.bind_ok (onStore_upsertConversation_ok P hid ..))
    have hconversation : recorded.store.db.hasConversation app.group.conversationId = true := by
      rw [NodeStore.hasConversation_recorded]
      simp
    rw [hrun, Outcome.isOk_bind_pure, isOk_insertMessage P hid hconversation]
    simp only [hid, true_and]
    exact Database.fits_congr rfl
  · have hrun : storeGroup P envelope draws app = .error NodeStore.unbindable app :=
      (Outcome.bind_ok rfl).trans (Outcome.bind_error (onStore_upsertConversation_error P hid ..))
    simp [hrun, hid]

theorem isOk_onGossip (envelope : NetworkEnvelope) (draws : Draws B) (app : App B) :
    IsOk (onGossip P envelope draws app) ↔ app.GossipTaken P envelope draws := by
  unfold onGossip GossipTaken
  rw [← GroupChat.isOk_decrypt_iff]
  rcases app.group.decrypt_cases P envelope with ⟨e, hrejected⟩ | ⟨plaintext, receiver, hopened⟩
  · rw [hrejected]
    simp
  · rw [hopened]
    simp only [Outcome.isOk_ok, forall_const]
    exact isOk_storeGroup P envelope draws _

end Gossip

end App

section Events

variable (P : Primitives B) [Serde (HybridSignature B)]

omit [Serde (HybridSignature B)] in
theorem isOk_onApp {α : Type} (step : AppM B α) (s : LoopState B) :
    IsOk (onApp step s) ↔ IsOk (step s.app) := by
  unfold onApp
  cases step s.app <;> rfl

theorem isOk_onPeerConnected {s : LoopState B} (hrunning : s.app.node.running = true)
    (peer : PeerId) (now : Int) : IsOk (onPeerConnected P peer now s) := by
  let noted : LoopState B := { s with app := { s.app with peer := s.app.peer.or (some peer) } }
  have hnote : onApp (App.notePeer peer) s = .ok () noted := rfl
  have hget : (get : LoopM B (LoopState B)) noted = .ok noted noted := rfl
  unfold onPeerConnected
  rw [Outcome.bind_ok hnote, Outcome.bind_ok hget]
  cases noted.app.initiator with
  | none => trivial
  | some driver =>
    simp only
    split
    next =>
      let started : LoopState B := { noted with handshakeStarted := true }
      have hset : (set started : LoopM B Unit) noted = .ok () started := rfl
      rw [Outcome.bind_ok hset, isOk_onApp, App.isOk_withContext]
      exact App.isOk_sendDirect (by exact hrunning) _ _
    next => trivial

variable [Serde (RatchetMessageHeader B)] [Serde (PreKeyBundle B)] [Serde (PqxdhPrekeyMessage B)]
  [Serde (GroupKeyDistribution B)] [Serde (SessionKeys B)] [Serde (RatchetSnapshot B)]
  [Serde SenderKeyMessage] [DecidableEq (B X25519_PUBLIC_KEY_SIZE)]

/-- The event is one that the handler takes in this state.  What is not a message
is always taken. -/
def Survives (s : LoopState B) (event : Network.NodeEvent) (draws : Draws B) : Prop :=
  match event with
  | .directMessage _ envelope => s.app.Taken P envelope draws
  | .gossipMessage _ _ envelope => s.app.GossipTaken P envelope draws
  | _ => True

instance (s : LoopState B) (event : Network.NodeEvent) (draws : Draws B) :
    Decidable (Survives P s event draws) :=
  match event with
  | .directMessage _ envelope => inferInstanceAs (Decidable (s.app.Taken P envelope draws))
  | .gossipMessage _ _ envelope => inferInstanceAs (Decidable (s.app.GossipTaken P envelope draws))
  | .listen _ | .peerConnected _ | .peerDisconnected _ | .peerDiscovered _ _
  | .directDelivered _ _ _ | .directFailed _ _ => inferInstanceAs (Decidable True)

theorem isOk_dispatch {s : LoopState B} (hrunning : s.app.node.running = true)
    (event : Network.NodeEvent) (draws : Draws B) :
    IsOk (dispatch P draws event s) ↔ Survives P s event draws := by
  cases event with
  | listen address => exact iff_of_true trivial trivial
  | peerConnected peer => exact iff_of_true (isOk_onPeerConnected P hrunning peer _) trivial
  | peerDisconnected peer => exact iff_of_true trivial trivial
  | peerDiscovered peer address => exact iff_of_true trivial trivial
  | directMessage sender envelope =>
    rw [Survives, ← App.accepted_iff]
    exact (isOk_onApp _ s).trans (App.isOk_handleDirect P hrunning sender envelope draws)
  | directDelivered receiver conversationId status => exact iff_of_true trivial trivial
  | directFailed receiver error => exact iff_of_true trivial trivial
  | gossipMessage sender topic envelope =>
    exact (isOk_onApp _ s).trans (App.isOk_onGossip P envelope draws s.app)

/-- `handle_event` returns `Ok(true)` for the events that it survives. -/
theorem handleEvent_ok_iff {s : LoopState B} (hrunning : s.app.node.running = true)
    (event : Network.NodeEvent) (draws : Draws B) :
    (∃ s', handleEvent P event draws s = .ok true s') ↔ Survives P s event draws := by
  rw [← isOk_dispatch P hrunning]
  unfold handleEvent
  rw [Outcome.bind_eq]
  cases dispatch P draws event s with
  | ok a s' => exact iff_of_true ⟨s', rfl⟩ trivial
  | error e s' => exact iff_of_false (fun ⟨_, h⟩ => nomatch h) id

end Events

/-- A call of `handle_event` with its arguments. -/
structure EventCall (B : Nat → Type) where
  state : LoopState B
  event : Network.NodeEvent
  draws : Draws B

/-- The call that an input makes. -/
def RunLoop.eventCalls (loop : RunLoop B) : Input B → List (EventCall B)
  | .event event draws =>
    match loop.returned with
    | none => [{ state := loop.state, event, draws }]
    | some _ => []
  | _ => []

section Runs

variable (P : Primitives B) [Serde (HybridSignature B)] [Serde (RatchetMessageHeader B)]
  [Serde (PreKeyBundle B)] [Serde (PqxdhPrekeyMessage B)] [Serde (GroupKeyDistribution B)]
  [Serde (SessionKeys B)] [Serde (RatchetSnapshot B)] [Serde SenderKeyMessage]
  [DecidableEq (B X25519_PUBLIC_KEY_SIZE)]

/-- A loop that serves, about to take some events. -/
abbrev serving (s : LoopState B) : RunLoop B := { state := s, returned := none }

/-- The node is handed a list of events.  It gets to each of them, `handle_event`
returns `Ok(true)` for each, and the loop goes on, exactly when each one is taken
in the state in which it comes. -/
theorem events_keep_serving {s : LoopState B} (hrunning : s.app.node.running = true)
    (events : List (Network.NodeEvent × Draws B)) :
    let inputs := events.map fun e => Input.event e.1 e.2
    let calls := (RunLoop.machine P).trace RunLoop.eventCalls (serving s) inputs
    (calls.map (fun call => (call.event, call.draws)) = events ∧
        (∀ call ∈ calls, ∃ s', handleEvent P call.event call.draws call.state = .ok true s') ∧
        ((RunLoop.machine P).run (serving s) inputs).returned = none) ↔
      ∀ call ∈ calls, Survives P call.state call.event call.draws := by
  intro inputs calls
  induction events generalizing s with
  | nil =>
    have hnone : ∀ call, call ∉ calls := fun call => List.not_mem_nil
    exact iff_of_true ⟨rfl, fun call hcall => absurd hcall (hnone call), rfl⟩
      fun call hcall => absurd hcall (hnone call)
  | cons e events ih =>
    have hcalls : calls = { state := s, event := e.1, draws := e.2 } ::
        (RunLoop.machine P).trace RunLoop.eventCalls
          (RunLoop.follow (handleEvent P e.1 e.2 s)) (events.map fun e => Input.event e.1 e.2) :=
      rfl
    have hrun : (RunLoop.machine P).run (serving s) inputs =
        (RunLoop.machine P).run (RunLoop.follow (handleEvent P e.1 e.2 s))
          (events.map fun e => Input.event e.1 e.2) := rfl
    have hfirst := handleEvent_ok_iff P hrunning e.1 e.2
    rw [hcalls, hrun, List.forall_mem_cons, List.forall_mem_cons, List.map_cons, List.cons.injEq,
      hfirst]
    by_cases hsurvives : Survives P s e.1 e.2
    · obtain ⟨s', hok⟩ := hfirst.mpr hsurvives
      have hrooted := rooted_handleEvent P e.1 e.2 s
      rw [hok] at hrooted ⊢
      have hrest := ih (s := s') (hrooted.running.trans hrunning)
      simp only [hsurvives, true_and]
      exact hrest
    · simp [hsurvives]

end Runs

namespace Sym

/-- A payload of one byte, from anybody: a bundle request. -/
def oneByte : NetworkEnvelope :=
  { kind := 0
    conversationId := []
    encryptedPayload := [MARKER_BUNDLE_REQ]
    nonce := []
    mac := []
    senderDeviceId := []
    timestamp := 0
    protocolVersion := 0
    signature := [] }

/-- The two answers of the responder in the handshake. -/
def answers : List NetworkEnvelope :=
  [syncEnvelope hashed firstBoot.identity "3334" MARKER_BUNDLE
      (Serde.toVec ((firstPrekey hashed firstBoot).toBundle hashed firstBoot.identity)) 8,
    syncEnvelope hashed firstBoot.identity "3334" MARKER_RATCHET_PUB
      (hashed.x25519Public draws.responderRatchet) 9]

/-- The initiator once it has connected and got both. -/
def greeter : App Sym :=
  ((RunLoop.machine hashed).run (.start hashedInitiator)
    (.event (.peerConnected [1]) draws ::
      answers.map fun envelope => .event (.directMessage [1] envelope) draws)).state.app

/-- What it publishes in the group next. -/
def groupText : Option NetworkEnvelope :=
  match greeter.group.publish hashed true alice "4647" (asBytes "hi all") 50 with
  | .ok envelope _ => some envelope
  | .error _ _ => none

/-- The topic of the demo's group. -/
def groupTopic : String := "/presidium/group/70726573696469756d2d64656d6f2d67726f7570"

/-- All of that, as it reaches the responder. -/
def meeting : List (Network.NodeEvent × Draws Sym) :=
  greeter.node.sent.map (fun out => (.directMessage [7] out.envelope, draws)) ++
    groupText.toList.map fun envelope => (.gossipMessage [7] groupTopic envelope, draws)

end Sym

/-- The arms that events go to; there is none for what is not a direct message. -/
def directArms (events : List (Network.NodeEvent × Draws B)) : List (Option Arm) :=
  events.map fun e =>
    match e.1 with
    | .directMessage _ envelope => some envelope.arm
    | _ => none

open scoped Presidium.Sym in
/-- The responder is asked for its bundle and gets the prekey message, the group
key, the greeting and a text in the group.  It stores both texts. -/
theorem events_keep_serving_meeting :
    let inputs := Sym.meeting.map fun e => Input.event e.1 e.2
    let calls := (RunLoop.machine Sym.hashed).trace RunLoop.eventCalls
      (serving ⟨Sym.hashedResponder, false⟩) inputs
    directArms Sym.meeting =
        [some .bundleReq, some .prekey, some .groupKey, some .chat, none] ∧
      ((RunLoop.machine Sym.hashed).run (serving ⟨Sym.hashedResponder, false⟩)
        inputs).state.app.store.db.messages.map MessageRecord.conversationId =
          ["4647", "group:presidium-demo-group"] ∧
      calls.map (fun call => (call.event, call.draws)) = Sym.meeting ∧
      (∀ call ∈ calls,
        ∃ s', handleEvent Sym.hashed call.event call.draws call.state = .ok true s') ∧
      ((RunLoop.machine Sym.hashed).run (serving ⟨Sym.hashedResponder, false⟩) inputs).returned =
        none := by
  intro inputs calls
  have harms : directArms Sym.meeting =
      [some .bundleReq, some .prekey, some .groupKey, some .chat, none] := by decide +kernel
  have hstored : ((RunLoop.machine Sym.hashed).run (serving ⟨Sym.hashedResponder, false⟩)
      inputs).state.app.store.db.messages.map MessageRecord.conversationId =
        ["4647", "group:presidium-demo-group"] := by decide +kernel
  have htaken : ∀ call ∈ calls, Survives Sym.hashed call.state call.event call.draws := by
    decide +kernel
  exact ⟨harms, hstored, (events_keep_serving Sym.hashed rfl Sym.meeting).mpr htaken⟩

open scoped Presidium.Sym in
/-- One byte from anybody ends the loop of an initiator, with its node running.
The responder's bundle, which comes next, is not taken any more. -/
theorem one_byte_stops_node :
    App.startInitiator Sym.initiatorStore [1] = .ok Sym.freshInitiator ∧
      Sym.freshInitiator.node.running = true ∧
      ((RunLoop.machine Sym.primitives).run (RunLoop.start Sym.freshInitiator)
        [.event (.directMessage [7] Sym.oneByte) Sym.draws,
          .event (.directMessage [1] Sym.bundleEnvelope) Sym.draws]).returned =
        some (.error (.message "bundle request on initiator")) :=
  ⟨Sym.startInitiator_initiatorStore, rfl, rfl⟩

end Presidium
