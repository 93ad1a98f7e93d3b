import Presidium.Lib.Ledger
import Presidium.Network.Node

/-!
# The bookkeeping of direct messages

`handle_round` says once what a turn of the loop does.  A `SendDirect` opens an
entry under its request id, and a `Response` or an `OutboundFailure` closes it.
No other turn touches the pending map, so the map is the balance of that journal
(`run_eq_balance`).

libp2p's part is that the journal is orderly: ids are fresh, and a request is
concluded once, after it was sent.  Then the map holds exactly the requests
without a conclusion, each conclusion is reported once and for the send it
belongs to, and each inbound request with an envelope is acknowledged and
reported once (`direct_messages_exact`).
-/

namespace Presidium.Network

/-! ## The journal of a run -/

/-- A `SendDirect` and the id of its request. -/
structure DirectSend where
  requestId : RequestId
  peer : PeerId
  envelope : NetworkEnvelope
  deriving DecidableEq

/-- An inbound request with an envelope. -/
structure InboundDirect where
  peer : PeerId
  envelope : NetworkEnvelope
  channel : ResponseChannel
  deriving DecidableEq

namespace Turn

def sends : Turn → Option DirectSend
  | control (.sendDirect peer envelope) requestId => some ⟨requestId, peer, envelope⟩
  | _ => none

/-- The request that the turn brings the conclusion of. -/
def concludes : Turn → Option RequestId
  | swarm (.response _ _ requestId) => some requestId
  | swarm (.outboundFailure _ requestId _) => some requestId
  | _ => none

def brings : Turn → Option InboundDirect
  | swarm (.request peer ⟨some envelope⟩ channel) => some ⟨peer, envelope, channel⟩
  | _ => none

def entry (turn : Turn) : Option (Ledger.Entry RequestId (PeerId × Bytes)) :=
  match turn.sends, turn.concludes with
  | some send, _ => some (.opened send.requestId (send.peer, send.envelope.conversationId))
  | none, some requestId => some (.closed requestId)
  | none, none => none

end Turn

/-- The outbound requests of a run. -/
def sends (turns : List Turn) : List DirectSend := turns.filterMap Turn.sends

/-- The requests that a run has concluded. -/
def concluded (turns : List Turn) : List RequestId := turns.filterMap Turn.concludes

/-- The inbound requests of a run that have an envelope. -/
def inbound (turns : List Turn) : List InboundDirect := turns.filterMap Turn.brings

def journal (turns : List Turn) : List (Ledger.Entry RequestId (PeerId × Bytes)) :=
  turns.filterMap Turn.entry

namespace Action

def event : Action → Option NodeEvent
  | emit event => some event
  | _ => none

def request : Action → Option (RequestId × PeerId × NetworkRequest)
  | sendRequest requestId peer request => some (requestId, peer, request)
  | _ => none

def response : Action → Option (ResponseChannel × NetworkResponse)
  | sendResponse channel response => some (channel, response)
  | _ => none

end Action

def NodeEvent.message : NodeEvent → Option (PeerId × NetworkEnvelope)
  | directMessage sender envelope => some (sender, envelope)
  | _ => none

/-- An action that has nothing to do with a direct message. -/
structure Action.Plain (a : Action) : Prop where
  request : a.request = none
  response : a.response = none
  outcome : a.event.bind NodeEvent.outcome = none
  message : a.event.bind NodeEvent.message = none

section Runs

variable (config : NodeConfig) (codec : EnvelopeCodec)

/-- What is reported on the conclusion of a request. -/
def report (pending : Pending) (turn : Turn) : List (RequestId × NodeEvent) :=
  match turn.concludes with
  | some requestId => ((handle config codec pending turn).1.filterMap Action.event).map (requestId, ·)
  | none => []

/-- The reports of a run. -/
def reports (turns : List Turn) : List (RequestId × NodeEvent) :=
  (loop config codec).trace (report config codec) ∅ turns

/-! ## One turn -/

/-- What a turn does: its actions and the pending map after it. -/
inductive Round (pending : Pending) : Turn → List Action × Pending → Prop where
  | sent (peer : PeerId) (envelope : NetworkEnvelope) (requestId : RequestId) :
    Round pending (.control (.sendDirect peer envelope) requestId)
      ([.sendRequest requestId peer ⟨some envelope⟩],
        pending.insert requestId (peer, envelope.conversationId))
  | delivered (peer : PeerId) (response : NetworkResponse) {requestId : RequestId}
    {receiver : PeerId} {conversationId : Bytes}
    (hlookup : pending.lookup requestId = some (receiver, conversationId)) :
    Round pending (.swarm (.response peer response requestId))
      ([.emit (.directDelivered receiver conversationId response)], pending.erase requestId)
  /-- A response to no pending request. -/
  | stray (peer : PeerId) (response : NetworkResponse) {requestId : RequestId}
    (hlookup : pending.lookup requestId = none) :
    Round pending (.swarm (.response peer response requestId)) ([], pending.erase requestId)
  | failed (peer : PeerId) (requestId : RequestId) (error : String) :
    Round pending (.swarm (.outboundFailure peer requestId error))
      ([.emit (.directFailed peer error)], pending.erase requestId)
  | answered (peer : PeerId) (envelope : NetworkEnvelope) (channel : ResponseChannel) :
    Round pending (.swarm (.request peer ⟨some envelope⟩ channel))
      ([.sendResponse channel ⟨STATUS_OK, envelope.conversationId⟩,
        .emit (.directMessage peer envelope)], pending)
  /-- Any other turn has nothing to do with direct messages. -/
  | plain {turn : Turn} {actions : List Action} (hsends : turn.sends = none)
    (hconcludes : turn.concludes = none) (hbrings : turn.brings = none)
    (hplain : ∀ a ∈ actions, a.Plain) : Round pending turn (actions, pending)

theorem plain_mdnsDiscovered (pending : Pending) {list : List (PeerId × Multiaddr)} {a : Action}
    (ha : a ∈ (handleSwarmEvent config codec pending (.mdnsDiscovered list)).1) : a.Plain := by
  unfold handleSwarmEvent at ha
  simp only at ha
  split at ha
  · obtain ⟨⟨peer, address⟩, -, ha⟩ := List.mem_flatMap.mp ha
    rcases List.mem_append.mp ha with ha | ha
    · simp only [List.mem_cons, List.not_mem_nil, or_false] at ha
      rcases ha with rfl | rfl
      · exact ⟨rfl, rfl, rfl, rfl⟩
      · exact ⟨rfl, rfl, rfl, rfl⟩
    · split at ha
      · obtain rfl := List.mem_singleton.mp ha
        exact ⟨rfl, rfl, rfl, rfl⟩
      · cases ha
  · cases ha

theorem plain_mdnsExpired (pending : Pending) {list : List (PeerId × Multiaddr)} {a : Action}
    (ha : a ∈ (handleSwarmEvent config codec pending (.mdnsExpired list)).1) : a.Plain := by
  unfold handleSwarmEvent at ha
  simp only at ha
  split at ha
  · obtain ⟨⟨peer, address⟩, -, rfl⟩ := List.mem_map.mp ha
    exact ⟨rfl, rfl, rfl, rfl⟩
  · cases ha

/-- A turn that does at most one thing, and that one plain. -/
theorem Round.of_singleton {pending : Pending} {turn : Turn} {a : Action}
    (hsends : turn.sends = none) (hconcludes : turn.concludes = none)
    (hbrings : turn.brings = none) (ha : a.Plain) : Round pending turn ([a], pending) := by
  refine .plain hsends hconcludes hbrings ?_
  intro a' ha'
  rw [List.mem_singleton.mp ha']
  exact ha

theorem handle_round (pending : Pending) (turn : Turn) :
    Round pending turn (handle config codec pending turn) := by
  rcases turn with ⟨command, id⟩ | ⟨event⟩
  · cases command with
    | sendDirect peer envelope => exact .sent peer envelope id
    | shutdown => exact .plain rfl rfl rfl (by simp)
    | _ => exact .of_singleton rfl rfl rfl ⟨rfl, rfl, rfl, rfl⟩
  · cases event with
    | mdnsDiscovered list =>
      exact .plain rfl rfl rfl fun a ha => plain_mdnsDiscovered config codec pending ha
    | mdnsExpired list =>
      exact .plain rfl rfl rfl fun a ha => plain_mdnsExpired config codec pending ha
    | gossipMessage source topic data =>
      simp only [handle, handleSwarmEvent]
      cases codec.decode data with
      | none => exact .plain rfl rfl rfl (by simp)
      | some envelope => exact .of_singleton rfl rfl rfl ⟨rfl, rfl, rfl, rfl⟩
    | request peer request channel =>
      obtain ⟨_ | envelope⟩ := request
      · exact .plain rfl rfl rfl (by simp)
      · exact .answered peer envelope channel
    | response peer response requestId =>
      simp only [handle, handleSwarmEvent, AList.extract_eq_lookup_erase]
      cases hlookup : pending.lookup requestId with
      | none => exact .stray peer response hlookup
      | some entry => exact .delivered peer response hlookup
    | outboundFailure peer requestId error => exact .failed peer requestId error
    | inboundFailure => exact .plain rfl rfl rfl (by simp)
    | other => exact .plain rfl rfl rfl (by simp)
    | _ => exact .of_singleton rfl rfl rfl ⟨rfl, rfl, rfl, rfl⟩

/-! ## The pending map -/

theorem opened_journal (turns : List Turn) :
    Ledger.opened (journal turns) =
      (sends turns).map fun s => (s.requestId, s.peer, s.envelope.conversationId) := by
  unfold Ledger.opened journal sends
  rw [List.filterMap_filterMap, ← List.filterMap_eq_map, List.filterMap_filterMap]
  apply List.filterMap_congr
  intro turn _
  unfold Turn.entry
  cases turn.sends with
  | some send => rfl
  | none => cases turn.concludes <;> rfl

theorem closed_journal (turns : List Turn) : Ledger.closed (journal turns) = concluded turns := by
  unfold Ledger.closed journal concluded
  rw [List.filterMap_filterMap]
  apply List.filterMap_congr
  intro turn _
  unfold Turn.entry
  rcases turn with ⟨command, requestId⟩ | ⟨event⟩
  · cases command <;> rfl
  · cases event <;> rfl

/-- A turn posts its entry. -/
theorem step_eq (pending : Pending) (turn : Turn) :
    (loop config codec).step pending turn =
      match turn.entry with
      | some entry => Ledger.post pending entry
      | none => pending := by
  have hround := handle_round config codec pending turn
  show (handle config codec pending turn).2 = _
  generalize handle config codec pending turn = out at hround ⊢
  cases hround with
  | plain hsends hconcludes _ _ =>
    unfold Turn.entry
    rw [hsends, hconcludes]
  | _ => rfl

/-- The pending map is the balance of the journal. -/
theorem run_eq_balance (turns : List Turn) :
    (loop config codec).run ∅ turns = Ledger.balance (journal turns) := by
  induction turns using List.reverseRecOn with
  | nil => rfl
  | append_singleton turns turn ih =>
    rw [Machine.run_append, ih, Machine.run_cons, Machine.run_nil, step_eq]
    unfold journal
    rw [List.filterMap_append, List.filterMap_cons, List.filterMap_nil]
    cases turn.entry with
    | none => simp
    | some entry => exact (Ledger.balance_concat _ entry).symm

/-! ## What goes out -/

theorem plain_startup {a : Action} (ha : a ∈ startup config) : a.Plain := by
  unfold startup at ha
  simp only [List.mem_append, List.mem_map, List.mem_flatMap] at ha
  rcases ha with (⟨addr, -, rfl⟩ | ⟨topic, -, rfl⟩) | ⟨addr, -, ha⟩
  · exact ⟨rfl, rfl, rfl, rfl⟩
  · exact ⟨rfl, rfl, rfl, rfl⟩
  · cases hparse : parseBootstrapPeer addr with
    | error e =>
      rw [hparse] at ha
      cases ha
    | ok parsed =>
      rw [hparse] at ha
      rcases List.mem_append.mp ha with ha | ha
      · obtain ⟨id, -, rfl⟩ := List.mem_map.mp ha
        exact ⟨rfl, rfl, rfl, rfl⟩
      · obtain rfl := List.mem_singleton.mp ha
        exact ⟨rfl, rfl, rfl, rfl⟩

theorem request_handle (pending : Pending) (turn : Turn) :
    (handle config codec pending turn).1.filterMap Action.request =
      (turn.sends.map fun s => (s.requestId, s.peer, ⟨some s.envelope⟩)).toList := by
  have hround := handle_round config codec pending turn
  generalize handle config codec pending turn = out at hround ⊢
  cases hround with
  | plain hsends _ _ hplain =>
    rw [hsends]
    exact List.filterMap_eq_nil_iff.mpr fun a ha => (hplain a ha).request
  | _ => rfl

theorem response_handle (pending : Pending) (turn : Turn) :
    (handle config codec pending turn).1.filterMap Action.response =
      (turn.brings.map fun r => (r.channel, ⟨STATUS_OK, r.envelope.conversationId⟩)).toList := by
  have hround := handle_round config codec pending turn
  generalize handle config codec pending turn = out at hround ⊢
  cases hround with
  | plain _ _ hbrings hplain =>
    rw [hbrings]
    exact List.filterMap_eq_nil_iff.mpr fun a ha => (hplain a ha).response
  | _ => rfl

theorem message_handle (pending : Pending) (turn : Turn) :
    (handle config codec pending turn).1.filterMap (fun a => a.event.bind NodeEvent.message) =
      (turn.brings.map fun r => (r.peer, r.envelope)).toList := by
  have hround := handle_round config codec pending turn
  generalize handle config codec pending turn = out at hround ⊢
  cases hround with
  | plain _ _ hbrings hplain =>
    rw [hbrings]
    exact List.filterMap_eq_nil_iff.mpr fun a ha => (hplain a ha).message
  | _ => rfl

/-- A turn without a conclusion reports nothing. -/
theorem report_of_none {pending : Pending} {turn : Turn} (hturn : turn.concludes = none) :
    report config codec pending turn = [] := by
  unfold report
  rw [hturn]

/-- The outcomes are all reported on a conclusion. -/
theorem outcome_handle (pending : Pending) (turn : Turn) :
    (handle config codec pending turn).1.filterMap (fun a => a.event.bind NodeEvent.outcome) =
      (report config codec pending turn).map Prod.snd := by
  have hround := handle_round config codec pending turn
  unfold report
  generalize handle config codec pending turn = out at hround ⊢
  cases hround with
  | plain _ hconcludes _ hplain =>
    rw [hconcludes]
    exact List.filterMap_eq_nil_iff.mpr fun a ha => (hplain a ha).outcome
  | _ => rfl

/-- A conclusion that the map knows is reported once: a response under the peer
and the conversation of the map, a failure under the peer of the event. -/
theorem report_of_lookup {pending : Pending} {turn : Turn} {requestId : RequestId}
    (hturn : turn.concludes = some requestId) {peer : PeerId} {conversationId : Bytes}
    (hlookup : pending.lookup requestId = some (peer, conversationId)) :
    ∃ event, report config codec pending turn = [(requestId, event)] ∧
      ∀ receiver conversationId' status,
        event = .directDelivered receiver conversationId' status →
          receiver = peer ∧ conversationId' = conversationId := by
  have hround := handle_round config codec pending turn
  unfold report
  rw [hturn]
  generalize handle config codec pending turn = out at hround ⊢
  cases hround with
  | sent | answered => cases hturn
  | plain _ hconcludes =>
    rw [hconcludes] at hturn
    cases hturn
  | stray _ _ hnone =>
    cases hturn
    rw [hlookup] at hnone
    cases hnone
  | failed to' _ error =>
    cases hturn
    refine ⟨.directFailed to' error, rfl, ?_⟩
    intro receiver conversationId' status hevent
    cases hevent
  | delivered from' response hfound =>
    cases hturn
    rw [hlookup] at hfound
    cases hfound
    refine ⟨.directDelivered peer conversationId response, rfl, ?_⟩
    intro receiver conversationId' status hevent
    cases hevent
    exact ⟨rfl, rfl⟩

/-! ## Runs -/

/-- The actions of a run that `f` picks, if it picks nothing of the start and
on a turn what `g` gives. -/
theorem filterMap_runLoop {β : Type} {f : Action → Option β} {g : Turn → Option β}
    (hstart : ∀ a ∈ startup config, f a = none)
    (hturn : ∀ pending turn, (handle config codec pending turn).1.filterMap f = (g turn).toList)
    (turns : List Turn) :
    (runLoop config codec turns).1.filterMap f = (handled turns).filterMap g := by
  show (startup config ++ _).filterMap f = _
  rw [List.filterMap_append, List.filterMap_eq_nil_iff.mpr hstart, List.nil_append,
    Machine.filterMap_trace]
  exact Machine.trace_eq_filterMap hturn ∅ (handled turns)

theorem requests_runLoop (turns : List Turn) :
    (runLoop config codec turns).1.filterMap Action.request =
      (sends (handled turns)).map fun s => (s.requestId, s.peer, ⟨some s.envelope⟩) := by
  unfold sends
  rw [List.map_filterMap]
  exact filterMap_runLoop config codec (fun a ha => (plain_startup config ha).request)
    (request_handle config codec) turns

theorem responses_runLoop (turns : List Turn) :
    (runLoop config codec turns).1.filterMap Action.response =
      (inbound (handled turns)).map fun r =>
        (r.channel, ⟨STATUS_OK, r.envelope.conversationId⟩) := by
  unfold inbound
  rw [List.map_filterMap]
  exact filterMap_runLoop config codec (fun a ha => (plain_startup config ha).response)
    (response_handle config codec) turns

theorem messages_runLoop (turns : List Turn) :
    (runLoop config codec turns).1.filterMap (fun a => a.event.bind NodeEvent.message) =
      (inbound (handled turns)).map fun r => (r.peer, r.envelope) := by
  unfold inbound
  rw [List.map_filterMap]
  exact filterMap_runLoop config codec (fun a ha => (plain_startup config ha).message)
    (message_handle config codec) turns

theorem outcomes_runLoop (turns : List Turn) :
    (runLoop config codec turns).1.filterMap (fun a => a.event.bind NodeEvent.outcome) =
      (reports config codec (handled turns)).map Prod.snd := by
  have hstart : (startup config).filterMap (fun a => a.event.bind NodeEvent.outcome) = [] :=
    List.filterMap_eq_nil_iff.mpr fun a ha => (plain_startup config ha).outcome
  show (startup config ++ _).filterMap _ = _
  rw [List.filterMap_append, hstart, List.nil_append, Machine.filterMap_trace]
  simp only [outcome_handle]
  unfold reports
  rw [← List.filterMap_eq_map, Machine.filterMap_trace]

theorem lookup_run {turns : List Turn} (h : Ledger.Orderly (journal turns)) (requestId : RequestId)
    (peer : PeerId) (conversationId : Bytes) :
    ((loop config codec).run ∅ turns).lookup requestId = some (peer, conversationId) ↔
      (∃ s ∈ sends turns, s.requestId = requestId ∧ s.peer = peer ∧
        s.envelope.conversationId = conversationId) ∧ requestId ∉ concluded turns := by
  rw [run_eq_balance, Ledger.lookup_balance h, opened_journal, closed_journal, List.mem_map]
  simp only [Prod.mk.injEq]

/-- The report of `event` goes to a send. -/
def Credited (turns : List Turn) (requestId : RequestId) (event : NodeEvent) : Prop :=
  ∃ s ∈ sends turns, s.requestId = requestId ∧
    ∀ receiver conversationId status, event = .directDelivered receiver conversationId status →
      receiver = s.peer ∧ conversationId = s.envelope.conversationId

theorem Credited.concat {turns : List Turn} {requestId : RequestId} {event : NodeEvent}
    (h : Credited turns requestId event) (turn : Turn) :
    Credited (turns ++ [turn]) requestId event := by
  obtain ⟨s, hs, hcredit⟩ := h
  refine ⟨s, ?_, hcredit⟩
  unfold sends
  rw [List.filterMap_append]
  exact List.mem_append_left _ hs

/-- A conclusion is reported once, to its send. -/
theorem report_of_orderly {turns : List Turn} {turn : Turn} {requestId : RequestId}
    (h : Ledger.Orderly (journal (turns ++ [turn]))) (hturn : turn.concludes = some requestId) :
    ∃ event, report config codec ((loop config codec).run ∅ turns) turn = [(requestId, event)] ∧
      Credited turns requestId event := by
  have hentry : turn.entry = some (.closed requestId) := by
    rcases turn with ⟨command, id⟩ | ⟨event⟩
    · cases command <;> cases hturn
    · cases event <;> cases hturn <;> rfl
  unfold journal at h
  rw [List.filterMap_append, List.filterMap_cons, hentry, List.filterMap_nil] at h
  obtain ⟨⟨peer, conversationId⟩, hlookup, hopened⟩ := Ledger.lookup_of_closed h
  rw [← journal, ← run_eq_balance config codec] at hlookup
  rw [← journal, opened_journal] at hopened
  obtain ⟨s, hs, hsame⟩ := List.mem_map.mp hopened
  cases hsame
  obtain ⟨event, hreport, hcredit⟩ := report_of_lookup config codec hturn hlookup
  exact ⟨event, hreport, s, hs, rfl, hcredit⟩

theorem reports_concat (turns : List Turn) (turn : Turn) :
    reports config codec (turns ++ [turn]) = reports config codec turns ++
      report config codec ((loop config codec).run ∅ turns) turn := by
  unfold reports
  rw [Machine.trace_append]
  exact congrArg _ (List.append_nil _)

theorem concluded_concat (turns : List Turn) (turn : Turn) :
    concluded (turns ++ [turn]) = concluded turns ++ turn.concludes.toList := by
  unfold concluded
  rw [List.filterMap_append, List.filterMap_cons, List.filterMap_nil]
  cases turn.concludes <;> rfl

/-- The reports are the conclusions, in their order, each for its send. -/
theorem reports_eq {turns : List Turn} (h : Ledger.Orderly (journal turns)) :
    (reports config codec turns).map Prod.fst = concluded turns ∧
      ∀ r ∈ reports config codec turns, Credited turns r.1 r.2 := by
  induction turns using List.reverseRecOn with
  | nil => exact ⟨rfl, fun r hr => absurd hr List.not_mem_nil⟩
  | append_singleton turns turn ih =>
    have hbefore : Ledger.Orderly (journal turns) := by
      unfold journal at h
      rw [List.filterMap_append] at h
      exact h.of_append
    obtain ⟨hids, hcredited⟩ := ih hbefore
    rw [reports_concat, concluded_concat, List.map_append, hids]
    cases hturn : turn.concludes with
    | none =>
      rw [report_of_none config codec hturn, List.append_nil]
      exact ⟨rfl, fun r hr => (hcredited r hr).concat turn⟩
    | some requestId =>
      obtain ⟨event, hreport, hcredit⟩ := report_of_orderly config codec h hturn
      rw [hreport]
      refine ⟨rfl, ?_⟩
      intro r hr
      rcases List.mem_append.mp hr with hr | hr
      · exact (hcredited r hr).concat turn
      · rw [List.mem_singleton.mp hr]
        exact hcredit.concat turn

/-- Exact bookkeeping of direct messages over a run. -/
structure DirectExact (turns : List Turn) : Prop where
  /-- The requests that are sent and not yet concluded, with the peer and the
  conversation of their envelopes. -/
  pending : ∀ requestId peer conversationId,
    (runLoop config codec turns).2.lookup requestId = some (peer, conversationId) ↔
      (∃ s ∈ sends (handled turns), s.requestId = requestId ∧ s.peer = peer ∧
        s.envelope.conversationId = conversationId) ∧ requestId ∉ concluded (handled turns)
  /-- Each `SendDirect` sends its envelope. -/
  requests : (runLoop config codec turns).1.filterMap Action.request =
    (sends (handled turns)).map fun s => (s.requestId, s.peer, ⟨some s.envelope⟩)
  /-- The outcome events are the reports, one for each conclusion. -/
  outcomes : (runLoop config codec turns).1.filterMap (fun a => a.event.bind NodeEvent.outcome) =
    (reports config codec (handled turns)).map Prod.snd
  reported : (reports config codec (handled turns)).map Prod.fst = concluded (handled turns)
  once : ((reports config codec (handled turns)).map Prod.fst).Nodup
  credited : ∀ r ∈ reports config codec (handled turns), Credited (handled turns) r.1 r.2
  /-- One `Ok` response for each inbound request with an envelope. -/
  acknowledged : (runLoop config codec turns).1.filterMap Action.response =
    (inbound (handled turns)).map fun r => (r.channel, ⟨STATUS_OK, r.envelope.conversationId⟩)
  /-- One `DirectMessage` event for each, with the envelope. -/
  messages : (runLoop config codec turns).1.filterMap (fun a => a.event.bind NodeEvent.message) =
    (inbound (handled turns)).map fun r => (r.peer, r.envelope)

end Runs

/-- For every interleaving of commands and swarm events, up to a `Shutdown`, the
bookkeeping of direct messages is exact, provided that libp2p gives out fresh
request ids and concludes a request once, after it is sent. -/
theorem direct_messages_exact (config : NodeConfig) (codec : EnvelopeCodec) {turns : List Turn}
    (horderly : Ledger.Orderly (journal (handled turns))) : DirectExact config codec turns where
  pending := lookup_run config codec horderly
  requests := requests_runLoop config codec turns
  outcomes := outcomes_runLoop config codec turns
  reported := (reports_eq config codec horderly).1
  once := by
    rw [(reports_eq config codec horderly).1, ← closed_journal]
    exact horderly.once
  credited := (reports_eq config codec horderly).2
  acknowledged := responses_runLoop config codec turns
  messages := messages_runLoop config codec turns

/-- An envelope of a conversation. -/
def envelopeOf (conversationId : Bytes) : NetworkEnvelope :=
  { kind := 1
    conversationId
    senderDeviceId := []
    timestamp := 0
    encryptedPayload := []
    mac := []
    protocolVersion := 1
    nonce := []
    signature := [] }

/-- Two messages to one peer are concluded in the other order, with an inbound
request in between.  What comes after the shutdown is not taken. -/
def crossedTurns : List Turn :=
  [.control (.sendDirect [7] (envelopeOf [1])) 10,
    .control (.sendDirect [7] (envelopeOf [2])) 11,
    .swarm (.outboundFailure [7] 11 "timeout"),
    .swarm (.request [8] ⟨some (envelopeOf [3])⟩ 0),
    .swarm (.response [7] ⟨STATUS_OK, [1]⟩ 10),
    .control (.sendDirect [8] (envelopeOf [3])) 12,
    .control .shutdown 0,
    .swarm (.response [8] ⟨STATUS_OK, [3]⟩ 12)]

/-- A codec for runs without gossip. -/
def noGossip : EnvelopeCodec := ⟨fun _ => [], fun _ => none⟩

theorem direct_messages_exact_crossed :
    (runLoop {} noGossip crossedTurns).2.entries = [⟨12, [8], [3]⟩] ∧
      reports {} noGossip (handled crossedTurns) =
        [(11, .directFailed [7] "timeout"), (10, .directDelivered [7] [1] ⟨STATUS_OK, [1]⟩)] ∧
      DirectExact {} noGossip crossedTurns := by
  refine ⟨by decide, by decide, direct_messages_exact {} noGossip ?_⟩
  have hfirst : Ledger.Orderly [.opened 10 (([7], [1]) : PeerId × Bytes)] :=
    Ledger.Orderly.nil.concat_opened 10 (by decide) _
  have hsent := hfirst.concat_opened 11 (by decide) ([7], [2])
  have hfailed := hsent.concat_closed 11 (by decide) (by decide)
  have hanswered := hfailed.concat_closed 10 (by decide) (by decide)
  exact hanswered.concat_opened 12 (by decide) ([8], [3])

end Presidium.Network
