import Presidium.Network.DirectMessages

/-!
# Direct messages between nodes

Any number of nodes run `run_loop`, and the request-response protocol of libp2p
carries direct messages between them.  A `Letter` is one request on its way.
The protocol may deliver it once or lose it; the response of the receiver may
come back or be lost; and as long as there was no response the sender may be
told that the request has failed, also if it has arrived.

`Exchange` is what holds of every cluster.  `answers` is why a response means
that the message has arrived: a node responds only in the turn in which it
reports the message to its application.
-/

namespace Presidium.Network

structure Letter where
  sender : PeerId
  requestId : RequestId
  receiver : PeerId
  request : NetworkRequest
  deriving DecidableEq

/-- The nodes, and the requests and responses between them. -/
structure Cluster where
  pending : PeerId → Pending
  running : PeerId → Bool
  /-- What a node has reported to its application. -/
  emitted : PeerId → List NodeEvent
  sent : List Letter
  flying : List Letter
  arrived : List Letter
  /-- The requests that wait for the response of their receiver. -/
  channels : List (ResponseChannel × Letter)
  /-- Responses on their way back. -/
  answers : List (Letter × NetworkResponse)
  /-- The requests that their sender has heard nothing of. -/
  outstanding : List Letter
  /-- The reports on requests. -/
  reported : List (Letter × NodeEvent)

/-- What happens next. -/
inductive Happening where
  /-- A command of the application, with the id of its request if it sends one. -/
  | command (n : PeerId) (c : Control) (requestId : RequestId)
  | arrive (l : Letter) (channel : ResponseChannel)
  | lose (l : Letter)
  | answer (l : Letter) (response : NetworkResponse)
  | loseAnswer (l : Letter) (response : NetworkResponse)
  | fail (l : Letter) (error : String)
  /-- An event of the swarm that is none of these. -/
  | swarm (n : PeerId) (event : SwarmEvent)

namespace Cluster

def start : Cluster :=
  { pending := fun _ => ∅, running := fun _ => true, emitted := fun _ => [], sent := [],
    flying := [], arrived := [], channels := [], answers := [], outstanding := [],
    reported := [] }

/-- What the node `n` asks of the protocol. -/
def perform (n : PeerId) (s : Cluster) : Action → Cluster
  | .sendRequest requestId receiver request =>
    let l : Letter := { sender := n, requestId, receiver, request }
    { s with
      sent := s.sent ++ [l]
      flying := s.flying ++ [l]
      outstanding := s.outstanding ++ [l] }
  | .sendResponse channel response =>
    match s.channels.find? fun c => c.1 == channel && c.2.receiver == n with
    | some c =>
      { s with
        channels := s.channels.erase c
        answers := s.answers ++ [(c.2, response)] }
    | none => s
  | _ => s

section Steps

variable (config : PeerId → NodeConfig) (codec : EnvelopeCodec)

/-- What the node `n` reports in a turn. -/
def reports (s : Cluster) (n : PeerId) (turn : Turn) : List NodeEvent :=
  (handle (config n) codec (s.pending n) turn).1.filterMap Action.event

/-- A turn of the node `n`. -/
def round (s : Cluster) (n : PeerId) (turn : Turn) : Cluster :=
  let out := handle (config n) codec (s.pending n) turn
  { out.1.foldl (perform n) s with
    pending := Function.update s.pending n out.2
    emitted := Function.update s.emitted n (s.emitted n ++ s.reports config codec n turn) }

def step (s : Cluster) : Happening → Cluster
  | .command n c requestId =>
    { s.round config codec n (.control c requestId) with
      running := Function.update s.running n
        (s.running n && !(Turn.control c requestId).isShutdown) }
  | .arrive l channel =>
    let s' :=
      { s with
        flying := s.flying.erase l
        arrived := s.arrived ++ [l]
        channels := s.channels ++ [(channel, l)] }
    s'.round config codec l.receiver (.swarm (.request l.sender l.request channel))
  | .lose l => { s with flying := s.flying.erase l }
  | .answer l response =>
    let turn : Turn := .swarm (.response l.receiver response l.requestId)
    let s' :=
      { s with
        answers := s.answers.erase (l, response)
        outstanding := s.outstanding.erase l
        reported := s.reported ++ (s.reports config codec l.sender turn).map (l, ·) }
    s'.round config codec l.sender turn
  | .loseAnswer l response => { s with answers := s.answers.erase (l, response) }
  | .fail l error =>
    let turn : Turn := .swarm (.outboundFailure l.receiver l.requestId error)
    let s' :=
      { s with
        outstanding := s.outstanding.erase l
        reported := s.reported ++ (s.reports config codec l.sender turn).map (l, ·) }
    s'.round config codec l.sender turn
  | .swarm n event => s.round config codec n (.swarm event)

/-- Request ids are new, and a request is concluded once. -/
def Enabled (s : Cluster) : Happening → Prop
  | .command n _ requestId =>
    s.running n = true ∧ ∀ l ∈ s.sent, l.sender = n → l.requestId ≠ requestId
  | .arrive l _ => s.running l.receiver = true ∧ l ∈ s.flying
  | .lose l => l ∈ s.flying
  | .answer l response =>
    s.running l.sender = true ∧ (l, response) ∈ s.answers ∧ l ∈ s.outstanding
  | .loseAnswer l response => (l, response) ∈ s.answers
  | .fail l _ => s.running l.sender = true ∧ l ∈ s.outstanding
  | .swarm n event =>
    s.running n = true ∧ (Turn.swarm event).concludes = none ∧ (Turn.swarm event).brings = none

def machine : Machine Cluster Happening := { step := step config codec, Enabled }

end Steps

end Cluster

/-- The request of a `SendDirect`. -/
def Happening.sends : Happening → Option Letter
  | .command n (.sendDirect peer envelope) requestId =>
    some { sender := n, requestId, receiver := peer, request := { envelope := some envelope } }
  | _ => none

/-! ## Every cluster -/

/-- What a report says of its request: that it failed, or that it arrived and
was acknowledged with its own conversation id. -/
def Letter.ReportedBy (l : Letter) (arrived : List Letter) (event : NodeEvent) : Prop :=
  (∃ error, event = .directFailed l.receiver error) ∨
    l ∈ arrived ∧ ∃ envelope, l.request.envelope = some envelope ∧
      event = .directDelivered l.receiver envelope.conversationId
        { status := STATUS_OK, ackId := envelope.conversationId }

structure Exchange (s : Cluster) : Prop where
  ids : ∀ l ∈ s.sent, ∀ l' ∈ s.sent, l.sender = l'.sender → l.requestId = l'.requestId → l = l'
  enveloped : ∀ l ∈ s.sent, ∃ envelope, l.request.envelope = some envelope
  flying : ∀ l ∈ s.flying, l ∈ s.sent
  arrived : ∀ l ∈ s.arrived, l ∈ s.sent
  /-- A request arrives at most once. -/
  moving : (s.flying ++ s.arrived).Nodup
  /-- A node responds in the turn in which the request arrives. -/
  channels : s.channels = []
  answers : ∀ a ∈ s.answers, a.1 ∈ s.arrived ∧ ∃ envelope,
    a.1.request.envelope = some envelope ∧
      a.2 = { status := STATUS_OK, ackId := envelope.conversationId }
  outstanding : ∀ l ∈ s.outstanding, l ∈ s.sent
  unique : s.outstanding.Nodup
  pending : ∀ n requestId entry, (s.pending n).lookup requestId = some entry ↔
    ∃ l ∈ s.outstanding, l.sender = n ∧ l.requestId = requestId ∧ ∃ envelope,
      l.request.envelope = some envelope ∧ entry = (l.receiver, envelope.conversationId)
  /-- A request is outstanding, or reported on. -/
  settled : ∀ l ∈ s.sent, l ∈ s.outstanding ∨ l ∈ s.reported.map Prod.fst
  reported : ∀ r ∈ s.reported,
    r.1 ∈ s.sent ∧ r.1 ∉ s.outstanding ∧ r.1.ReportedBy s.arrived r.2
  once : (s.reported.map Prod.fst).Nodup
  messages : ∀ n, (s.emitted n).filterMap NodeEvent.message =
    (s.arrived.filter fun l => l.receiver == n).filterMap fun l =>
      l.request.envelope.map fun envelope => (l.sender, envelope)
  outcomes : ∀ n, (s.emitted n).filterMap NodeEvent.outcome =
    (s.reported.filter fun r => r.1.sender == n).map Prod.snd

theorem Exchange.start : Exchange Cluster.start where
  ids _ hl := nomatch hl
  enveloped _ hl := nomatch hl
  flying _ hl := nomatch hl
  arrived _ hl := nomatch hl
  moving := List.nodup_nil
  channels := rfl
  answers _ ha := nomatch ha
  outstanding _ hl := nomatch hl
  unique := List.nodup_nil
  pending n requestId entry := by simp [Cluster.start]
  settled _ hl := nomatch hl
  reported _ hr := nomatch hr
  once := List.nodup_nil
  messages _ := rfl
  outcomes _ := rfl

section Turns

variable {config : PeerId → NodeConfig} {codec : EnvelopeCodec} {s : Cluster}

theorem perform_of_plain {a : Action} (ha : a.Plain) (n : PeerId) (s : Cluster) :
    s.perform n a = s := by
  cases a with
  | sendRequest requestId peer request => exact absurd ha.request nofun
  | sendResponse channel response => exact absurd ha.response nofun
  | _ => rfl

theorem foldl_perform_of_plain {actions : List Action} (h : ∀ a ∈ actions, a.Plain) (n : PeerId)
    (s : Cluster) : actions.foldl (Cluster.perform n) s = s := by
  induction actions with
  | nil => rfl
  | cons a actions ih =>
    rw [List.forall_mem_cons] at h
    rw [List.foldl_cons, perform_of_plain h.1, ih h.2]

theorem filterMap_event_of_plain {β : Type} {actions : List Action} {f : NodeEvent → Option β}
    (h : ∀ a ∈ actions, a.event.bind f = none) :
    (actions.filterMap Action.event).filterMap f = [] := by
  rw [List.filterMap_filterMap]
  exact List.filterMap_eq_nil_iff.mpr h

/-- A turn that has nothing to do with direct messages. -/
theorem handle_of_plain (config : NodeConfig) (codec : EnvelopeCodec) (pending : Pending)
    {turn : Turn} (hsends : turn.sends = none) (hconcludes : turn.concludes = none)
    (hbrings : turn.brings = none) :
    (handle config codec pending turn).2 = pending ∧
      ∀ a ∈ (handle config codec pending turn).1, a.Plain := by
  have hround := handle_round config codec pending turn
  generalize handle config codec pending turn = out at hround ⊢
  cases hround with
  | plain _ _ _ hplain => exact ⟨rfl, hplain⟩
  | sent => cases hsends
  | delivered => cases hconcludes
  | stray => cases hconcludes
  | failed => cases hconcludes
  | answered => cases hbrings

/-- What the nodes have reported of one kind, after more reports of `n`. -/
theorem filterMap_update_emitted {β : Type} (f : NodeEvent → Option β) (s : Cluster) (n : PeerId)
    (events : List NodeEvent) (m : PeerId) :
    (Function.update s.emitted n (s.emitted n ++ events) m).filterMap f =
      (s.emitted m).filterMap f ++ if m = n then events.filterMap f else [] := by
  by_cases hm : m = n
  · subst hm
    rw [Function.update_self, List.filterMap_append, if_pos rfl]
  · rw [Function.update_of_ne hm, if_neg hm, List.append_nil]

namespace Exchange

/-- Reports that are not about direct messages. -/
theorem emit (h : Exchange s) {n : PeerId} {events : List NodeEvent}
    (hmessage : events.filterMap NodeEvent.message = [])
    (houtcome : events.filterMap NodeEvent.outcome = []) :
    Exchange { s with emitted := Function.update s.emitted n (s.emitted n ++ events) } :=
  { h with
    messages := fun m => by
      rw [filterMap_update_emitted, hmessage, ite_self, List.append_nil]
      exact h.messages m
    outcomes := fun m => by
      rw [filterMap_update_emitted, houtcome, ite_self, List.append_nil]
      exact h.outcomes m }

theorem round_plain (h : Exchange s) (n : PeerId) {turn : Turn} (hsends : turn.sends = none)
    (hconcludes : turn.concludes = none) (hbrings : turn.brings = none) :
    Exchange (s.round config codec n turn) := by
  obtain ⟨hpending, hplain⟩ :=
    handle_of_plain (config n) codec (s.pending n) hsends hconcludes hbrings
  have hround : s.round config codec n turn =
      { s with
        emitted := Function.update s.emitted n (s.emitted n ++ s.reports config codec n turn) } := by
    simp only [Cluster.round, foldl_perform_of_plain hplain, hpending, Function.update_eq_self]
  rw [hround]
  exact h.emit (filterMap_event_of_plain fun a ha => (hplain a ha).message)
    (filterMap_event_of_plain fun a ha => (hplain a ha).outcome)

theorem setRunning (h : Exchange s) (running : PeerId → Bool) :
    Exchange { s with running := running } := { h with }

theorem lose (h : Exchange s) (l : Letter) : Exchange { s with flying := s.flying.erase l } :=
  { h with
    flying := fun l' hl' => h.flying l' (List.mem_of_mem_erase hl')
    moving := h.moving.sublist (List.erase_sublist.append_right _) }

theorem loseAnswer (h : Exchange s) (a : Letter × NetworkResponse) :
    Exchange { s with answers := s.answers.erase a } :=
  { h with answers := fun a' ha' => h.answers a' (List.mem_of_mem_erase ha') }

section Send

variable {l : Letter} {envelope : NetworkEnvelope}

theorem ids_send (h : Exchange s)
    (hfresh : ∀ l' ∈ s.sent, l'.sender = l.sender → l'.requestId ≠ l.requestId) :
    ∀ a ∈ s.sent ++ [l], ∀ b ∈ s.sent ++ [l], a.sender = b.sender → a.requestId = b.requestId →
      a = b := by
  have hold : ∀ l' ∈ s.sent ++ [l], l' ∈ s.sent ∨ l' = l := fun l' hl' =>
    (List.mem_append.mp hl').imp_right List.mem_singleton.mp
  intro a ha b hb hsender hid
  rcases hold a ha with hasent | rfl
  · rcases hold b hb with hbsent | rfl
    · exact h.ids a hasent b hbsent hsender hid
    · exact absurd hid (hfresh a hasent hsender)
  · rcases hold b hb with hbsent | rfl
    · exact absurd hid.symm (hfresh b hbsent hsender.symm)
    · rfl

theorem moving_send (h : Exchange s) (hnew : l ∉ s.sent) :
    (s.flying ++ [l] ++ s.arrived).Nodup := by
  rw [List.append_assoc]
  refine (List.perm_middle.nodup_iff).mpr (List.nodup_cons.mpr ⟨fun hl => ?_, h.moving⟩)
  exact hnew ((List.mem_append.mp hl).elim (h.flying l) (h.arrived l))

theorem unique_send (h : Exchange s) (hnew : l ∉ s.sent) : (s.outstanding ++ [l]).Nodup := by
  refine List.nodup_append.mpr ⟨h.unique, List.nodup_singleton l, ?_⟩
  rintro a ha b hb rfl
  exact hnew (List.mem_singleton.mp hb ▸ h.outstanding a ha)

/-- The entry of the new request, and the others as they were. -/
theorem pending_send (h : Exchange s) (henvelope : l.request.envelope = some envelope)
    (hfresh : ∀ l' ∈ s.sent, l'.sender = l.sender → l'.requestId ≠ l.requestId) (n : PeerId)
    (requestId : RequestId) (entry : PeerId × Bytes) :
    (Function.update s.pending l.sender
        ((s.pending l.sender).insert l.requestId (l.receiver, envelope.conversationId))
        n).lookup requestId = some entry ↔
      ∃ l' ∈ s.outstanding ++ [l], l'.sender = n ∧ l'.requestId = requestId ∧ ∃ envelope,
        l'.request.envelope = some envelope ∧ entry = (l'.receiver, envelope.conversationId) := by
  simp only [List.mem_append, List.mem_singleton]
  by_cases hkey : n = l.sender ∧ requestId = l.requestId
  · obtain ⟨rfl, rfl⟩ := hkey
    rw [Function.update_self, AList.lookup_insert]
    constructor
    · intro hentry
      exact ⟨l, .inr rfl, rfl, rfl, envelope, henvelope, (Option.some.inj hentry).symm⟩
    · rintro ⟨l', hl' | rfl, hsender, hid, envelope', henvelope', rfl⟩
      · exact absurd hid (hfresh l' (h.outstanding l' hl') hsender)
      · rw [henvelope] at henvelope'
        cases henvelope'
        rfl
  · have hlookup : (Function.update s.pending l.sender
        ((s.pending l.sender).insert l.requestId (l.receiver, envelope.conversationId))
        n).lookup requestId = (s.pending n).lookup requestId := by
      by_cases hn : n = l.sender
      · subst hn
        rw [Function.update_self, AList.lookup_insert_ne fun hid => hkey ⟨rfl, hid⟩]
      · rw [Function.update_of_ne hn]
    rw [hlookup, h.pending]
    constructor
    · rintro ⟨l', hl', hrest⟩
      exact ⟨l', .inl hl', hrest⟩
    · rintro ⟨l', hl' | rfl, hsender, hid, hrest⟩
      · exact ⟨l', hl', hsender, hid, hrest⟩
      · exact absurd ⟨hsender.symm, hid.symm⟩ hkey

theorem reported_send (h : Exchange s) (hnew : l ∉ s.sent) :
    ∀ r ∈ s.reported,
      r.1 ∈ s.sent ++ [l] ∧ r.1 ∉ s.outstanding ++ [l] ∧ r.1.ReportedBy s.arrived r.2 := by
  intro r hr
  obtain ⟨hsent, hout, hreport⟩ := h.reported r hr
  refine ⟨List.mem_append_left _ hsent, fun hl => ?_, hreport⟩
  rcases List.mem_append.mp hl with hl | hl
  · exact hout hl
  · exact hnew (List.mem_singleton.mp hl ▸ hsent)

theorem send (h : Exchange s) (henvelope : l.request.envelope = some envelope)
    (hfresh : ∀ l' ∈ s.sent, l'.sender = l.sender → l'.requestId ≠ l.requestId) :
    Exchange
      { s with
        pending := Function.update s.pending l.sender
          ((s.pending l.sender).insert l.requestId (l.receiver, envelope.conversationId))
        sent := s.sent ++ [l]
        flying := s.flying ++ [l]
        outstanding := s.outstanding ++ [l] } := by
  have hnew : l ∉ s.sent := fun hl => hfresh l hl rfl rfl
  refine
    { h with
      ids := h.ids_send hfresh
      enveloped := ?_
      flying := fun l' hl' => List.mem_append.mpr ((List.mem_append.mp hl').imp_left (h.flying l'))
      arrived := fun l' hl' => List.mem_append_left _ (h.arrived l' hl')
      moving := h.moving_send hnew
      outstanding := fun l' hl' =>
        List.mem_append.mpr ((List.mem_append.mp hl').imp_left (h.outstanding l'))
      unique := h.unique_send hnew
      pending := h.pending_send henvelope hfresh
      settled := ?_
      reported := h.reported_send hnew }
  · intro l' hl'
    rcases List.mem_append.mp hl' with hl' | hl'
    · exact h.enveloped l' hl'
    · exact List.mem_singleton.mp hl' ▸ ⟨envelope, henvelope⟩
  · intro l' hl'
    rcases List.mem_append.mp hl' with hl' | hl'
    · exact (h.settled l' hl').imp_left (List.mem_append_left _)
    · exact .inl (List.mem_append_right _ hl')

end Send

/-- A request arrives: it is acknowledged and reported. -/
theorem arrive (h : Exchange s) {l : Letter} (hl : l ∈ s.flying) {envelope : NetworkEnvelope}
    (henvelope : l.request.envelope = some envelope) :
    Exchange
      { s with
        flying := s.flying.erase l
        arrived := s.arrived ++ [l]
        answers := s.answers ++ [(l, { status := STATUS_OK, ackId := envelope.conversationId })]
        emitted := Function.update s.emitted l.receiver
          (s.emitted l.receiver ++ [.directMessage l.sender envelope]) } := by
  refine
    { h with
      flying := fun l' hl' => h.flying l' (List.mem_of_mem_erase hl')
      arrived := ?_
      moving := ?_
      answers := ?_
      reported := ?_
      messages := ?_
      outcomes := ?_ }
  · intro l' hl'
    rcases List.mem_append.mp hl' with hl' | hl'
    · exact h.arrived l' hl'
    · exact List.mem_singleton.mp hl' ▸ h.flying l hl
  · -- the request only changes sides
    have hperm : (s.flying.erase l ++ (s.arrived ++ [l])).Perm (s.flying ++ s.arrived) := by
      refine List.Perm.trans ?_ ((List.perm_cons_erase hl).symm.append_right s.arrived)
      rw [← List.append_assoc]
      exact List.perm_append_singleton l _
    exact hperm.nodup_iff.mpr h.moving
  · intro a ha
    rcases List.mem_append.mp ha with ha | ha
    · obtain ⟨harrived, hanswer⟩ := h.answers a ha
      exact ⟨List.mem_append_left _ harrived, hanswer⟩
    · rw [List.mem_singleton.mp ha]
      exact ⟨List.mem_append_right _ List.mem_cons_self, envelope, henvelope, rfl⟩
  · intro r hr
    obtain ⟨hsent, hout, hreport⟩ := h.reported r hr
    refine ⟨hsent, hout, hreport.imp_right fun harrived => ?_⟩
    exact ⟨List.mem_append_left _ harrived.1, harrived.2⟩
  · intro n
    show _ = ((s.arrived ++ [l]).filter _).filterMap _
    rw [filterMap_update_emitted, h.messages, List.filter_append, List.filterMap_append]
    by_cases hn : n = l.receiver
    · simp [hn, NodeEvent.message, henvelope]
    · simp [hn, Ne.symm hn]
  · intro n
    rw [filterMap_update_emitted, h.outcomes]
    simp [NodeEvent.outcome]

section Conclude

variable {l : Letter} {event : NodeEvent}

/-- The entry of the request is gone, and the others are as they were. -/
theorem pending_conclude (h : Exchange s) (hl : l ∈ s.outstanding) (n : PeerId)
    (requestId : RequestId) (entry : PeerId × Bytes) :
    (Function.update s.pending l.sender ((s.pending l.sender).erase l.requestId) n).lookup
        requestId = some entry ↔
      ∃ l' ∈ s.outstanding.erase l, l'.sender = n ∧ l'.requestId = requestId ∧ ∃ envelope,
        l'.request.envelope = some envelope ∧ entry = (l'.receiver, envelope.conversationId) := by
  simp only [h.unique.mem_erase_iff]
  by_cases hkey : n = l.sender ∧ requestId = l.requestId
  · obtain ⟨rfl, rfl⟩ := hkey
    rw [Function.update_self, AList.lookup_erase]
    refine ⟨nofun, ?_⟩
    rintro ⟨l', ⟨hne, hl'⟩, hsender, hid, -⟩
    exact absurd (h.ids l' (h.outstanding l' hl') l (h.outstanding l hl) hsender hid) hne
  · have hlookup : (Function.update s.pending l.sender
        ((s.pending l.sender).erase l.requestId) n).lookup requestId =
        (s.pending n).lookup requestId := by
      by_cases hn : n = l.sender
      · subst hn
        rw [Function.update_self, AList.lookup_erase_ne fun hid => hkey ⟨rfl, hid⟩]
      · rw [Function.update_of_ne hn]
    rw [hlookup, h.pending]
    constructor
    · rintro ⟨l', hl', hsender, hid, hrest⟩
      refine ⟨l', ⟨?_, hl'⟩, hsender, hid, hrest⟩
      rintro rfl
      exact hkey ⟨hsender.symm, hid.symm⟩
    · rintro ⟨l', ⟨-, hl'⟩, hrest⟩
      exact ⟨l', hl', hrest⟩

theorem settled_conclude (h : Exchange s) (event : NodeEvent) :
    ∀ l' ∈ s.sent,
      l' ∈ s.outstanding.erase l ∨ l' ∈ (s.reported ++ [(l, event)]).map Prod.fst := by
  intro l' hl'
  rw [h.unique.mem_erase_iff, List.map_append]
  by_cases hsame : l' = l
  · exact .inr (List.mem_append_right _ (by simp [hsame]))
  · exact (h.settled l' hl').imp (fun hout => ⟨hsame, hout⟩) (List.mem_append_left _)

theorem reported_conclude (h : Exchange s) (hl : l ∈ s.outstanding)
    (hreport : l.ReportedBy s.arrived event) :
    ∀ r ∈ s.reported ++ [(l, event)],
      r.1 ∈ s.sent ∧ r.1 ∉ s.outstanding.erase l ∧ r.1.ReportedBy s.arrived r.2 := by
  intro r hr
  rcases List.mem_append.mp hr with hr | hr
  · obtain ⟨hsent, hout, hreported⟩ := h.reported r hr
    exact ⟨hsent, fun hl' => hout (List.mem_of_mem_erase hl'), hreported⟩
  · rw [List.mem_singleton.mp hr]
    exact ⟨h.outstanding l hl, fun hl' => (h.unique.mem_erase_iff.mp hl').1 rfl, hreport⟩

theorem once_conclude (h : Exchange s) (hl : l ∈ s.outstanding) (event : NodeEvent) :
    ((s.reported ++ [(l, event)]).map Prod.fst).Nodup := by
  rw [List.map_append]
  refine List.nodup_append.mpr ⟨h.once, List.nodup_singleton l, ?_⟩
  intro a ha b hb hsame
  obtain ⟨r, hr, rfl⟩ := List.mem_map.mp ha
  have hb : b = l := List.mem_singleton.mp hb
  refine (h.reported r hr).2.1 ?_
  rw [hsame, hb]
  exact hl

theorem outcomes_conclude (h : Exchange s) (houtcome : event.outcome = some event) (n : PeerId) :
    (Function.update s.emitted l.sender (s.emitted l.sender ++ [event]) n).filterMap
        NodeEvent.outcome =
      ((s.reported ++ [(l, event)]).filter fun r => r.1.sender == n).map Prod.snd := by
  rw [filterMap_update_emitted, h.outcomes, List.filter_append, List.map_append]
  by_cases hn : n = l.sender
  · simp [hn, houtcome]
  · simp [hn, Ne.symm hn]

/-- A request is concluded by a report of its sender. -/
theorem conclude (h : Exchange s) (hl : l ∈ s.outstanding)
    (hreport : l.ReportedBy s.arrived event) (hmessage : event.message = none)
    (houtcome : event.outcome = some event) :
    Exchange
      { s with
        pending := Function.update s.pending l.sender ((s.pending l.sender).erase l.requestId)
        emitted := Function.update s.emitted l.sender (s.emitted l.sender ++ [event])
        outstanding := s.outstanding.erase l
        reported := s.reported ++ [(l, event)] } :=
  { h with
    outstanding := fun l' hl' => h.outstanding l' (List.mem_of_mem_erase hl')
    unique := h.unique.erase l
    pending := h.pending_conclude hl
    settled := h.settled_conclude event
    reported := h.reported_conclude hl hreport
    once := h.once_conclude hl event
    messages := fun n => by
      rw [filterMap_update_emitted, h.messages]
      simp [hmessage]
    outcomes := h.outcomes_conclude houtcome }

end Conclude

theorem step_sendDirect (h : Exchange s) {n peer : PeerId} {envelope : NetworkEnvelope}
    {requestId : RequestId}
    (henabled : s.Enabled (.command n (.sendDirect peer envelope) requestId)) :
    Exchange (s.round config codec n (.control (.sendDirect peer envelope) requestId)) := by
  let l : Letter :=
    { sender := n, requestId, receiver := peer, request := { envelope := some envelope } }
  have hsend := h.send (l := l) rfl henabled.2
  have hround : s.round config codec n (.control (.sendDirect peer envelope) requestId) =
      { s with
        pending := Function.update s.pending n
          ((s.pending n).insert requestId (peer, envelope.conversationId))
        sent := s.sent ++ [l]
        flying := s.flying ++ [l]
        outstanding := s.outstanding ++ [l]
        emitted := Function.update s.emitted n (s.emitted n ++ []) } := rfl
  rw [hround, List.append_nil, Function.update_eq_self]
  exact hsend

theorem step_arrive (h : Exchange s) {l : Letter} {channel : ResponseChannel}
    (henabled : s.Enabled (.arrive l channel)) :
    Exchange (s.step config codec (.arrive l channel)) := by
  obtain ⟨envelope, henvelope⟩ := h.enveloped l (h.flying l henabled.2)
  have harrive := h.arrive henabled.2 henvelope
  obtain ⟨sender, requestId, receiver, ⟨request⟩⟩ := l
  cases henvelope
  have hround : s.step config codec
      (.arrive ⟨sender, requestId, receiver, ⟨some envelope⟩⟩ channel) =
      { s with
        pending := Function.update s.pending receiver (s.pending receiver)
        flying := s.flying.erase ⟨sender, requestId, receiver, ⟨some envelope⟩⟩
        arrived := s.arrived ++ [⟨sender, requestId, receiver, ⟨some envelope⟩⟩]
        answers := s.answers ++ [(⟨sender, requestId, receiver, ⟨some envelope⟩⟩,
          { status := STATUS_OK, ackId := envelope.conversationId })]
        emitted := Function.update s.emitted receiver
          (s.emitted receiver ++ [.directMessage sender envelope]) } := by
    simp [Cluster.step, Cluster.round, Cluster.reports, handle, handleSwarmEvent, Cluster.perform,
      h.channels, List.filterMap_cons, Action.event]
  rw [hround, Function.update_eq_self]
  exact harrive

/-- The answer concludes its request, which is still pending. -/
theorem step_answer (h : Exchange s) {l : Letter} {response : NetworkResponse}
    (henabled : s.Enabled (.answer l response)) :
    Exchange (s.step config codec (.answer l response)) := by
  obtain ⟨-, hanswer, hout⟩ := henabled
  obtain ⟨harrived, envelope, henvelope, hresponse⟩ := h.answers _ hanswer
  have hlookup : (s.pending l.sender).lookup l.requestId =
      some (l.receiver, envelope.conversationId) :=
    (h.pending _ _ _).mpr ⟨l, hout, rfl, rfl, envelope, henvelope, rfl⟩
  have hreport : l.ReportedBy s.arrived
      (.directDelivered l.receiver envelope.conversationId response) :=
    .inr ⟨harrived, envelope, henvelope, by rw [← hresponse]⟩
  have hconclude := (h.conclude hout hreport rfl rfl).loseAnswer (l, response)
  have hround : s.step config codec (.answer l response) =
      { s with
        pending := Function.update s.pending l.sender ((s.pending l.sender).erase l.requestId)
        emitted := Function.update s.emitted l.sender
          (s.emitted l.sender ++
            [.directDelivered l.receiver envelope.conversationId response])
        answers := s.answers.erase (l, response)
        outstanding := s.outstanding.erase l
        reported := s.reported ++
          [(l, .directDelivered l.receiver envelope.conversationId response)] } := by
    simp [Cluster.step, Cluster.round, Cluster.reports, handle, handleSwarmEvent,
      AList.extract_eq_lookup_erase, hlookup, Cluster.perform, Action.event]
  rw [hround]
  exact hconclude

/-- What happens keeps the exchange. -/
theorem step (h : Exchange s) {e : Happening} (henabled : s.Enabled e) :
    Exchange (s.step config codec e) := by
  cases e with
  | command n c requestId =>
    refine setRunning ?_ _
    cases c with
    | sendDirect peer envelope => exact h.step_sendDirect henabled
    | _ => exact h.round_plain n rfl rfl rfl
  | arrive l channel => exact h.step_arrive henabled
  | lose l => exact h.lose l
  | answer l response => exact h.step_answer henabled
  | loseAnswer l response => exact h.loseAnswer (l, response)
  | fail l error =>
    have hreport : l.ReportedBy s.arrived (.directFailed l.receiver error) := .inl ⟨error, rfl⟩
    exact h.conclude henabled.2 hreport rfl rfl
  | swarm n event => exact h.round_plain n rfl henabled.2.1 henabled.2.2

end Exchange

end Turns

/-! ## Whole runs -/

section Runs

variable {config : PeerId → NodeConfig} {codec : EnvelopeCodec}

/-- The requests of a turn are those of its actions. -/
theorem sent_foldl_perform (n : PeerId) (actions : List Action) (s : Cluster) :
    (actions.foldl (Cluster.perform n) s).sent =
      s.sent ++ (actions.filterMap Action.request).map fun r =>
        { sender := n, requestId := r.1, receiver := r.2.1, request := r.2.2 } := by
  induction actions generalizing s with
  | nil => simp
  | cons a actions ih =>
    rw [List.foldl_cons, ih]
    cases a with
    | sendRequest requestId receiver request =>
      simp [Cluster.perform, Action.request]
    | sendResponse channel response =>
      simp only [Cluster.perform, List.filterMap_cons, Action.request]
      cases s.channels.find? fun c => c.1 == channel && c.2.receiver == n <;> rfl
    | _ => rfl

theorem sent_round (s : Cluster) (n : PeerId) (turn : Turn) :
    (s.round config codec n turn).sent =
      s.sent ++ (turn.sends.map fun d =>
        ({ sender := n, requestId := d.requestId, receiver := d.peer,
           request := { envelope := some d.envelope } } : Letter)).toList := by
  show ((handle (config n) codec (s.pending n) turn).1.foldl (Cluster.perform n) s).sent = _
  rw [sent_foldl_perform, request_handle]
  cases turn.sends <;> rfl

/-- The requests of a cluster are its `SendDirect` commands. -/
theorem sent_step (s : Cluster) (e : Happening) :
    (s.step config codec e).sent = s.sent ++ e.sends.toList := by
  cases e with
  | command n c requestId =>
    show (s.round config codec n (.control c requestId)).sent = _
    rw [sent_round]
    cases c <;> rfl
  | arrive l channel => exact sent_round _ _ _
  | lose l => exact (List.append_nil _).symm
  | answer l response => exact sent_round _ _ _
  | loseAnswer l response => exact (List.append_nil _).symm
  | fail l error => exact sent_round _ _ _
  | swarm n event => exact sent_round _ _ _

/-- In a cluster of any number of nodes, in every interleaving and whatever is
lost on the way, the requests are the `SendDirect` commands; what a node reports
as received are the requests that have arrived at it, each at most once; each
request is reported on at most once; and who reads that it was delivered knows
that its receiver has reported the message, with this sender and envelope. -/
theorem cluster_exact {es : List Happening}
    (hvalid : (Cluster.machine config codec).Valid .start es) :
    let s := (Cluster.machine config codec).run .start es
    s.sent = es.filterMap Happening.sends ∧ Exchange s ∧
      ∀ n receiver conversationId status,
        .directDelivered receiver conversationId status ∈ s.emitted n →
        ∃ l ∈ s.sent, l.sender = n ∧ l.receiver = receiver ∧ ∃ envelope,
          l.request.envelope = some envelope ∧ envelope.conversationId = conversationId ∧
          .directMessage n envelope ∈ s.emitted receiver := by
  have hstep : ∀ s e, Exchange s → (Cluster.machine config codec).Enabled s e →
      Exchange ((Cluster.machine config codec).step s e) := fun s e h henabled => h.step henabled
  have hexchange := Machine.invariant hstep Exchange.start hvalid
  refine ⟨?_, hexchange, ?_⟩
  · have hsent := Machine.log_run (M := Cluster.machine config codec) Cluster.sent
      (fun e => e.sends.toList) (fun s e _ => sent_step s e) hvalid
    rw [hsent]
    show [] ++ _ = _
    rw [List.nil_append]
    clear hsent hexchange hstep hvalid
    induction es with
    | nil => rfl
    | cons e es ih =>
      rw [List.flatMap_cons, List.filterMap_cons, ih]
      cases e.sends <;> rfl
  · intro n receiver conversationId status hmem
    have houtcome := hexchange.outcomes n
    generalize (Cluster.machine config codec).run .start es = s at *
    have hreported : .directDelivered receiver conversationId status ∈
        (s.reported.filter fun r => r.1.sender == n).map Prod.snd := by
      rw [← houtcome]
      exact List.mem_filterMap.mpr ⟨_, hmem, rfl⟩
    obtain ⟨⟨l, event⟩, hr, rfl⟩ := List.mem_map.mp hreported
    obtain ⟨hr, hsender⟩ := List.mem_filter.mp hr
    have hsender : l.sender = n := by simpa using hsender
    obtain ⟨hsent, -, hreport⟩ := hexchange.reported _ hr
    rcases hreport with ⟨error, herror⟩ | ⟨harrived, envelope, henvelope, hevent⟩
    · cases herror
    · obtain ⟨hreceiver, hconversation, -⟩ := NodeEvent.directDelivered.inj hevent
      have hreceiver : l.receiver = receiver := hreceiver.symm
      refine ⟨l, hsent, hsender, hreceiver, envelope, henvelope, hconversation.symm, ?_⟩
      rw [← hreceiver]
      have hmessage : (n, envelope) ∈
          (s.emitted l.receiver).filterMap NodeEvent.message := by
        rw [hexchange.messages]
        refine List.mem_filterMap.mpr ⟨l, List.mem_filter.mpr ⟨harrived, by simp⟩, ?_⟩
        rw [← hsender]
        exact congrArg (Option.map fun e => (l.sender, e)) henvelope
      obtain ⟨event, hevent, hsome⟩ := List.mem_filterMap.mp hmessage
      cases event with
      | directMessage sender envelope' =>
        cases hsome
        exact hevent
      | _ => cases hsome

end Runs

/-- A message from the node `[1]` to the node `[2]`. -/
def firstLetter : Letter :=
  { sender := [1], requestId := 5, receiver := [2], request := { envelope := some (envelopeOf [3]) } }

/-- The next message. -/
def secondLetter : Letter :=
  { sender := [1], requestId := 6, receiver := [2], request := { envelope := some (envelopeOf [4]) } }

/-- The first message arrives, and the sender hears that it failed before the
response is back.  The second one is delivered. -/
def timedOut : List Happening :=
  [.command [1] (.sendDirect [2] (envelopeOf [3])) 5, .arrive firstLetter 0,
    .fail firstLetter "timeout", .loseAnswer firstLetter ⟨STATUS_OK, [3]⟩,
    .command [1] (.sendDirect [2] (envelopeOf [4])) 6, .arrive secondLetter 1,
    .answer secondLetter ⟨STATUS_OK, [4]⟩]

theorem cluster_exact_timedOut :
    let s := (Cluster.machine (fun _ => {}) noGossip).run .start timedOut
    s.emitted [1] = [.directFailed [2] "timeout", .directDelivered [2] [4] ⟨STATUS_OK, [4]⟩] ∧
      s.emitted [2] =
        [.directMessage [1] (envelopeOf [3]), .directMessage [1] (envelopeOf [4])] ∧
      Exchange s ∧
      ∃ l ∈ s.sent, l.sender = [1] ∧ l.receiver = [2] ∧ ∃ envelope,
        l.request.envelope = some envelope ∧ envelope.conversationId = [4] ∧
        .directMessage [1] envelope ∈ s.emitted [2] := by
  have hvalid : (Cluster.machine (fun _ => {}) noGossip).Valid .start timedOut :=
    ⟨⟨rfl, nofun⟩, ⟨rfl, List.mem_cons_self⟩, ⟨rfl, List.mem_cons_self⟩, List.mem_cons_self,
      ⟨rfl, by decide⟩, ⟨rfl, List.mem_cons_self⟩, ⟨rfl, List.mem_cons_self, List.mem_cons_self⟩,
      trivial⟩
  obtain ⟨-, hexchange, hdelivered⟩ := cluster_exact hvalid
  exact ⟨by decide, by decide, hexchange, hdelivered [1] [2] [4] ⟨STATUS_OK, [4]⟩ (by decide)⟩

end Presidium.Network
