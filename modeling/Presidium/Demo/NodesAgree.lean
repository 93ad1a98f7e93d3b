import Presidium.Demo.Accepted
import Presidium.Demo.TwoNodes

/-!
# Two nodes agree on their session

The two nodes of `Duo` start without a session.  `Stage` says how far their
handshake has come: one handshake message is on the way in each of the stages
before the last one, and no other message.  In the last stage both nodes have
their session, and what is on the way are the group key and chat messages.

`stage_run` is the invariant over every run.  `nodes_agree` reads off it that
the initiator never has a session that the responder does not share, and that
the handshake never gets stuck with no message on the way.
-/

namespace Presidium

variable {B : Nat → Type}

namespace App

/-! ## What the handshake arms leave to see -/

section Arms

variable (P : Primitives B)

theorem view_handedOver (app : App B) (peer : PeerId) (envelope : NetworkEnvelope) :
    (app.handedOver peer envelope).view =
      { app.view with
        node := ⟨app.view.node.running, app.view.node.sent ++ [⟨peer, envelope⟩]⟩ } := rfl

/-- `handle_direct` is the arm of the envelope. -/
theorem handleDirect_eq [Serde (HybridSignature B)] [Serde (RatchetMessageHeader B)]
    [Serde (PreKeyBundle B)] [Serde (PqxdhPrekeyMessage B)] [Serde (GroupKeyDistribution B)]
    [Serde (SessionKeys B)] [Serde (RatchetSnapshot B)] [DecidableEq (B X25519_PUBLIC_KEY_SIZE)]
    {envelope : NetworkEnvelope} {arm : Arm} (harm : envelope.arm = arm) (sender : PeerId)
    (draws : Draws B) (app : App B) :
    handleDirect P sender envelope draws app =
      runArm P arm sender envelope draws (app.noted sender) := by
  rw [← harm]
  exact Outcome.bind_ok rfl

theorem view_sendDirect {app : App B} (hrunning : app.node.running = true) (peer : PeerId)
    (envelope : NetworkEnvelope) :
    (Outcome.state (sendDirect peer envelope app)).view =
      { app.view with node := ⟨true, app.node.sent ++ [⟨peer, envelope⟩]⟩ } := by
  rw [sendDirect_ok hrunning, ← hrunning]
  rfl

variable [Serde (HybridSignature B)]

theorem view_onBundleReq [Serde (PreKeyBundle B)] {app : App B} {v : View B}
    {h : ResponderHandshake B} (hview : app.view = v) (hresponder : v.responder = some h)
    (hrunning : v.node.running = true) (sender : PeerId) (now : Int) :
    (Outcome.state (onBundleReq P sender now app)).view =
      { v with
        node := ⟨true, v.node.sent ++ [⟨sender, syncEnvelope P v.identity v.deviceId
          MARKER_BUNDLE (Serde.toVec (h.bundle P)) now⟩]⟩ } ∧
      Outcome.IsOk (onBundleReq P sender now app) := by
  subst hview
  rw [onBundleReq_eq, show app.responder = some h from hresponder]
  exact ⟨view_sendDirect hrunning sender _, isOk_sendDirect hrunning sender _⟩

theorem view_onBundle [Serde (PreKeyBundle B)] [Serde (PqxdhPrekeyMessage B)] {app : App B}
    {v : View B} {h h' : InitiatorHandshake B} {body : Bytes} {bundle : PreKeyBundle B}
    {draws : Draws B} {out : Outbound} (hview : app.view = v)
    (hparse : parseBundle body = .ok bundle) (hinitiator : v.initiator = some h)
    (hid : Database.Bindable v.deviceId)
    (hsend : h.sendPrekey P bundle draws.ephemeral draws.coins draws.now = .ok out h')
    (hrunning : v.node.running = true) :
    (Outcome.state (onBundle P body draws app)).view =
      { v with
        initiator := some h'
        node := ⟨true, v.node.sent ++ [out]⟩ } ∧
      Outcome.IsOk (onBundle P body draws app) := by
  subst hview
  rw [onBundle_eq, hparse, show app.initiator = some h from hinitiator]
  simp only [show Database.Bindable app.store.deviceId from hid, if_true, hsend]
  rw [state_withContext, isOk_withContext]
  refine ⟨(view_sendDirect ?_ out.peer out.envelope).trans rfl,
    isOk_sendDirect ?_ out.peer out.envelope⟩
  · exact hrunning
  · exact hrunning

theorem view_onPrekey [Serde (PqxdhPrekeyMessage B)] [Serde (SessionKeys B)]
    [Serde (RatchetSnapshot B)] {app : App B} {v : View B} {h h' : ResponderHandshake B}
    {envelope : NetworkEnvelope} {body : Bytes} {draws : Draws B} {conversationId : String}
    {ratchetPublic : B X25519_PUBLIC_KEY_SIZE} {chat : ChatSession B} (hview : app.view = v)
    (hsender : senderConversation envelope = .ok conversationId)
    (hresponder : v.responder = some h)
    (hrun : h.onPrekey P body conversationId draws.responderRatchet =
      .ok (ratchetPublic, chat) h')
    (hid : Database.Bindable conversationId) (hrunning : v.node.running = true)
    (sender : PeerId) :
    (Outcome.state (onPrekey P sender envelope body draws app)).view =
      { v with
        responder := some h'
        session := some chat
        node := ⟨true, v.node.sent ++ [⟨sender, syncEnvelope P v.identity v.deviceId
          MARKER_RATCHET_PUB (P.toVec ratchetPublic) draws.now⟩]⟩ } ∧
      Outcome.IsOk (onPrekey P sender envelope body draws app) := by
  subst hview
  rw [onPrekey_eq, hsender, show app.responder = some h from hresponder]
  simp only [hrun, hid, if_true]
  refine ⟨(view_sendDirect ?_ sender _).trans rfl, isOk_sendDirect ?_ sender _⟩
  · exact hrunning
  · exact hrunning

variable [Serde (RatchetMessageHeader B)] [Serde (SessionKeys B)] [Serde (RatchetSnapshot B)]

/-- What is sent of an `encrypt`. -/
def sealed (peer : PeerId) (out : Outcome AppError (ChatSession B) NetworkEnvelope) :
    List Outbound :=
  match out with
  | .ok envelope _ => [⟨peer, envelope⟩]
  | .error _ _ => []

omit [Serde (SessionKeys B)] [Serde (RatchetSnapshot B)] in
theorem kind_of_sealed {s : ChatSession B} {identity : IdentityKeyPair B} {deviceId : String}
    {text : Bytes} {now : Int} {out : Outcome AppError (ChatSession B) NetworkEnvelope}
    {peer : PeerId} (hout : s.encrypt P identity deviceId text now = out) :
    ∀ sent ∈ sealed peer out, sent.envelope.kind = KIND_DIRECT := by
  intro sent hsent
  cases out with
  | error e s' => cases hsent
  | ok envelope s' =>
    rw [List.mem_singleton.mp hsent]
    exact kind_of_encrypt P hout

/-- The greeting moves the session with `encrypt` and is sent if that goes
well. -/
theorem view_greet {app : App B} {v : View B} {chat : ChatSession B} (hview : app.view = v)
    (hsession : v.session = some chat) (hrunning : v.node.running = true) (peer : PeerId)
    (now : Int) {out : Outcome AppError (ChatSession B) NetworkEnvelope}
    (hout : chat.encrypt P v.identity v.deviceId (greetingOf v.deviceId) now = out) :
    (Outcome.state (greet P peer now app)).view =
        { v with
          session := some (Outcome.state out)
          node := ⟨true, v.node.sent ++ sealed peer out⟩ } ∧
      (Outcome.IsOk (greet P peer now app) → out.IsOk) := by
  subst hview
  have hencrypt : chat.encrypt P app.store.identity app.store.deviceId
      (greetingOf app.store.deviceId) now = out := hout
  rw [greet_eq P (show app.session = some chat from hsession), hencrypt]
  cases out with
  | error e chat' =>
    refine ⟨?_, id⟩
    show View.mk _ _ _ _ _ _ = View.mk _ _ (P2pNode.mk _ (app.node.sent ++ [])) _ _ _
    rw [List.append_nil, ← show app.node.running = true from hrunning]
    rfl
  | ok envelope chat' =>
    have hmoved : ({ app with session := some chat' } : App B).node.running = true := hrunning
    obtain ⟨app', hsend, hsent⟩ := exists_sendPersist_view hmoved peer envelope now
    simp only
    rw [hsend]
    exact ⟨hsent, fun _ => trivial⟩

/-- The initiator takes the ratchet key: it has the session of `establish`, moved
by the `encrypt` of the greeting.  The group key is on its way and, if that goes
well, the greeting. -/
theorem view_onRatchetPub [Serde (GroupKeyDistribution B)] {app : App B} {v : View B}
    {h h' : InitiatorHandshake B} {body : Bytes} {draws : Draws B} {chat : ChatSession B}
    (hview : app.view = v) (hinitiator : v.initiator = some h)
    (hrun : h.establish P body draws.initiatorRatchet = .ok chat h')
    (hdevice : h.deviceId = v.deviceId) (hid : Database.Bindable v.deviceId)
    (hrunning : v.node.running = true) (sender : PeerId)
    {out : Outcome AppError (ChatSession B) NetworkEnvelope}
    (hout : chat.encrypt P v.identity v.deviceId (greetingOf v.deviceId) draws.now = out) :
    ∃ key, key.arm = .groupKey ∧
      (Outcome.state (onRatchetPub P sender body draws app)).view =
        { v with
          initiator := some h'
          session := some (Outcome.state out)
          node := ⟨true, v.node.sent ++ ⟨sender, key⟩ :: sealed sender out⟩ } ∧
      (Outcome.IsOk (onRatchetPub P sender body draws app) → out.IsOk) := by
  subst hview
  obtain ⟨output, peer, _, -, -, -, -, hchat⟩ := InitiatorHandshake.establish_eq_ok hrun
  have hconversation : chat.conversationId = app.store.deviceId := by rw [hchat]; exact hdevice
  have hid' : Database.Bindable app.store.deviceId := hid
  have hadopted : (app.adopted P h' chat draws).node.running = true := hrunning
  have hstorable : chat.Storable
      (app.store.recorded P app.store.deviceId chat.peerIdentity false draws.now).db := by
    refine ⟨hconversation ▸ hid', ?_⟩
    rw [NodeStore.hasConversation_recorded, hconversation]
    simp
  let distribution := (app.group.createSender P app.store.identity draws.groupChain).1
  let key := syncEnvelope P app.store.identity app.store.deviceId MARKER_GROUP_KEY
    (Serde.toVec distribution) draws.now
  let sent := (app.adopted P h' chat draws).handedOver sender key
  -- the group key is sent, and what is left is the greeting
  have hsent : onRatchetPub P sender body draws app = greet P sender draws.now sent := by
    rw [onRatchetPub_eq, show app.initiator = some h from hinitiator]
    simp only [hrun, hid', if_true, ChatSession.persist_ok hstorable]
    exact Outcome.bind_ok (sendSync_ok P hadopted sender _ _ _)
  have hview : sent.view = { app.view with
      initiator := some h'
      session := some chat
      node := ⟨true, app.node.sent ++ [⟨sender, key⟩]⟩ } := by
    rw [← show app.node.running = true from hrunning]
    rfl
  obtain ⟨hgreeted, hok⟩ := view_greet P hview rfl rfl sender draws.now hout
  refine ⟨key, rfl, ?_, ?_⟩
  · rw [hsent, hgreeted]
    show View.mk _ _ (P2pNode.mk _ ((app.node.sent ++ [_]) ++ _)) _ _ _ = _
    rw [List.append_assoc]
    rfl
  · rw [hsent]
    exact hok

end Arms

end App

/-! ## The stages of the handshake -/

/-- How far a handshake has come before the initiator has a session. -/
structure Progress (B : Nat → Type) where
  started : Bool
  driver : InitiatorHandshake B
  /-- The identity that the responder has read off a prekey message. -/
  known : Option (IdentityPublicKey B)
  /-- The session of the responder. -/
  session : Option (ChatSession B)
  sent : Side → List Outbound
  arrived : Side → List Nat

section Stages

variable (P : Primitives B) (da db : BootDraws B)

/-- The two nodes at that point. -/
def Progress.view (p : Progress B) : Side → View B
  | .first =>
    { identity := da.identity
      deviceId := randomHexDeviceId P da.deviceId
      node := ⟨true, p.sent .first⟩
      initiator := some p.driver
      responder := none
      session := none }
  | .second =>
    { identity := db.identity
      deviceId := randomHexDeviceId P db.deviceId
      node := ⟨true, p.sent .second⟩
      initiator := none
      responder := some { ResponderHandshake.new db.identity (firstPrekey P db) with
        peerIdentity := p.known }
      session := p.session }

structure Duo.At (d : Duo B) (p : Progress B) : Prop where
  started : (d.loop .first).state.handshakeStarted = p.started
  view : ∀ s, d.view s = p.view P da db s
  arrived : ∀ s, d.arrived s = p.arrived s
  screen : ∀ s, d.screen s = []

variable [Serde (HybridSignature B)] (ids : Side → PeerId)

/-- The driver of the initiator at the start. -/
def freshDriver : InitiatorHandshake B :=
  .new da.identity (randomHexDeviceId P da.deviceId) (ids .second)

def requestOut (now : Int) : Outbound := (freshDriver P da ids).requestBundle P now

def bundleOut [Serde (PreKeyBundle B)] (now : Int) : Outbound :=
  ⟨ids .first, syncEnvelope P db.identity (randomHexDeviceId P db.deviceId) MARKER_BUNDLE
    (Serde.toVec ((firstPrekey P db).toBundle P db.identity)) now⟩

def prekeyOut [Serde (PqxdhPrekeyMessage B)] (message : PqxdhPrekeyMessage B) (now : Int) :
    Outbound :=
  ⟨ids .second, syncEnvelope P da.identity (randomHexDeviceId P da.deviceId) MARKER_PREKEY
    (Serde.toVec message) now⟩

def ratchetOut (key : B X25519_PRIVATE_KEY_SIZE) (now : Int) : Outbound :=
  ⟨ids .first, syncEnvelope P db.identity (randomHexDeviceId P db.deviceId) MARKER_RATCHET_PUB
    (P.toVec (P.x25519Public key)) now⟩

/-- The pair of a handshake between the two nodes. -/
def duoPair (sharedSecret : B 32) (initiatorKey responderKey : B X25519_PRIVATE_KEY_SIZE) :
    ChatPair B :=
  { identity := Side.of da.identity db.identity
    deviceId := Side.of (randomHexDeviceId P da.deviceId) (randomHexDeviceId P db.deviceId)
    conversationId := randomHexDeviceId P da.deviceId
    sharedSecret
    initiatorKey
    responderKey }

/-- The driver of the initiator when it has sent its prekey message. -/
def waitingDriver (output : PqxdhOutput B) : InitiatorHandshake B :=
  { freshDriver P da ids with
    peerIdentity := some (db.identity.publicKey P)
    pending := some output }

namespace Progress

def idle : Progress B :=
  { started := false
    driver := freshDriver P da ids
    known := none
    session := none
    sent := Side.of [] []
    arrived := Side.of [] [] }

/-- The request is on the way. -/
def asked (t₀ : Int) : Progress B :=
  { started := true
    driver := freshDriver P da ids
    known := none
    session := none
    sent := Side.of [requestOut P da ids t₀] []
    arrived := Side.of [] [] }

variable [Serde (PreKeyBundle B)]

/-- The bundle is on the way. -/
def offered (t₀ t₁ : Int) : Progress B :=
  { started := true
    driver := freshDriver P da ids
    known := none
    session := none
    sent := Side.of [requestOut P da ids t₀] [bundleOut P db ids t₁]
    arrived := Side.of [] [0] }

variable [Serde (PqxdhPrekeyMessage B)]

/-- The prekey message is on the way. -/
def answered (t₀ t₁ t₂ : Int) (output : PqxdhOutput B) (message : PqxdhPrekeyMessage B) :
    Progress B :=
  { started := true
    driver := waitingDriver P da db ids output
    known := none
    session := none
    sent := Side.of [requestOut P da ids t₀, prekeyOut P da ids message t₂] [bundleOut P db ids t₁]
    arrived := Side.of [0] [0] }

/-- The ratchet key of the responder is on the way.  What the initiator is going
to draw is not in the session of the responder. -/
def accepted (t₀ t₁ t₂ t₃ : Int) (output : PqxdhOutput B) (message : PqxdhPrekeyMessage B)
    (key initiatorKey : B X25519_PRIVATE_KEY_SIZE) : Progress B :=
  { started := true
    driver := waitingDriver P da db ids output
    known := some (da.identity.publicKey P)
    session := some ((duoPair P da db output.sharedSecret initiatorKey key).start P .second)
    sent := Side.of [requestOut P da ids t₀, prekeyOut P da ids message t₂]
      [bundleOut P db ids t₁, ratchetOut P db ids key t₃]
    arrived := Side.of [0] [0, 1] }

end Progress

variable [Serde (PreKeyBundle B)] [Serde (PqxdhPrekeyMessage B)]

/-- The stages of a handshake.  Before the last one there is one message on the
way.  What holds from then on is left to `L`. -/
inductive Duo.Stage (L : ChatPair B → Duo B → Prop) (d : Duo B) : Prop
  | idle (h : d.At P da db (.idle P da ids))
  | asked (t₀ : Int) (h : d.At P da db (.asked P da ids t₀))
  | offered (t₀ t₁ : Int) (h : d.At P da db (.offered P da db ids t₀ t₁))
  | answered (t₀ t₁ t₂ : Int) (output : PqxdhOutput B) (message : PqxdhPrekeyMessage B)
      (hagree : pqxdhResponder P (ownKeys P db) message = .ok output)
      (hidentity : message.identityPublic = da.identity.publicKey P)
      (h : d.At P da db (.answered P da db ids t₀ t₁ t₂ output message))
  | accepted (t₀ t₁ t₂ t₃ : Int) (output : PqxdhOutput B) (message : PqxdhPrekeyMessage B)
      (key : B X25519_PRIVATE_KEY_SIZE)
      (h : ∀ initiatorKey,
        d.At P da db (.accepted P da db ids t₀ t₁ t₂ t₃ output message key initiatorKey))
  | linked (secret : B 32) (initiatorKey responderKey : B X25519_PRIVATE_KEY_SIZE)
      (h : L (duoPair P da db secret initiatorKey responderKey) d)

end Stages

section Steps

variable {P : Primitives B} {da db : BootDraws B} {ids : Side → PeerId} {d : Duo B} {s : Side}

namespace Duo

/-- A message that reaches a side is one of those that its peer has sent. -/
theorem At.message {p : Progress B} (h : d.At P da db p) {k : Nat} {envelope : NetworkEnvelope}
    (hin : d.inbound ids s k = some envelope) :
    (p.sent s.peer)[k]? = some ⟨ids s, envelope⟩ := by
  have hsent := inbound_eq_some hin
  rw [h.view s.peer] at hsent
  cases s <;> exact hsent

theorem At.inbound_eq {p : Progress B} (h : d.At P da db p) {k : Nat} {envelope : NetworkEnvelope}
    (hsent : (p.sent s.peer)[k]? = some ⟨ids s, envelope⟩) :
    d.inbound ids s k = some envelope := by
  have hnode : (d.view s.peer).node.sent[k]? = some ⟨ids s, envelope⟩ := by
    rw [h.view s.peer]
    cases s <;> exact hsent
  unfold inbound
  rw [hnode]
  exact if_pos rfl

/-- Both nodes have the session of one pair, and what is on the way are chat
messages and the group key. -/
structure Linked (P : Primitives B) (c : ChatPair B) (d : Duo B) : Prop where
  session : ∀ s, ∃ r, (d.view s).session = some (c.sessionWith P s r)
  identity : ∀ s, (d.view s).identity = c.identity s
  deviceId : ∀ s, (d.view s).deviceId = c.deviceId s
  running : ∀ s, (d.view s).node.running = true
  sent : ∀ s k out, (d.view s.peer).node.sent[k]? = some out → k ∉ d.arrived s →
    out.envelope.kind = KIND_DIRECT ∨ out.envelope.arm = .groupKey

/-- What is quiet on one side leaves the two linked. -/
theorem Linked.of_quiet {c : ChatPair B} {d' : Duo B} (h : d.Linked P c)
    (hquiet : (d.view s).Quiet (d'.view s)) (hpeer : d'.view s.peer = d.view s.peer)
    (harrived : ∀ t, d.arrived t ⊆ d'.arrived t) : d'.Linked P c := by
  have hboth : ∀ t, (d.view t).Quiet (d'.view t) := by
    intro t
    rcases t.eq_or_eq_peer s with rfl | rfl
    · exact hquiet
    · rw [hpeer]
      exact .refl _
  refine ⟨fun t => ?_, fun t => ?_, fun t => ?_, fun t => ?_, fun t k out hout hnew => ?_⟩
  · obtain ⟨r, hr⟩ := h.session t
    obtain ⟨r', hr'⟩ := (hboth t).session _ hr
    exact ⟨r', hr'⟩
  · rw [(hboth t).identity, h.identity]
  · rw [(hboth t).deviceId, h.deviceId]
  · rw [(hboth t).running, h.running]
  · obtain ⟨chats, hsent, hkind⟩ := (hboth t.peer).sent
    rw [hsent, List.getElem?_append] at hout
    split at hout
    next => exact h.sent t k out hout fun hmem => hnew (harrived t hmem)
    next => exact Or.inl (hkind out (List.mem_of_getElem? hout))

variable [Serde (HybridSignature B)] [Serde (PreKeyBundle B)] [Serde (PqxdhPrekeyMessage B)]
  [Serde (SessionKeys B)] [Serde (RatchetSnapshot B)]

/-- The two nodes before their first input. -/
theorem stage_start {L : ChatPair B → Duo B → Prop} (na : NodeDatabase P da)
    (nb : NodeDatabase P db) {initiator : App B}
    (hstart : App.startInitiator na.store (ids .second) = .ok initiator)
    (hfresh : initiator.session = none) :
    (start initiator (App.startResponder nb.store (firstPrekey P db))).Stage P da db ids L := by
  unfold App.startInitiator at hstart
  obtain ⟨session, -, hinitiator⟩ := Except.bind_eq_ok.mp hstart
  cases hinitiator
  cases hfresh
  exact .idle ⟨rfl, Side.both rfl rfl, Side.both rfl rfl, Side.both rfl rfl⟩

variable [Serde (RatchetMessageHeader B)] [Serde (GroupKeyDistribution B)]
  [Serde SenderKeyMessage] [DecidableEq (B X25519_PUBLIC_KEY_SIZE)]

/-- An input of a node that prints nothing and leaves the nodes at `p'`. -/
theorem At.take {p p' : Progress B} {input : Input B} (h : d.At P da db p)
    (hreturned : (d.loop s).returned = none) (hprints : (d.loop s).prints P input = [])
    (hstarted : ((d.take P s input).loop .first).state.handshakeStarted = p'.started)
    (hview : (RunLoop.turn P (d.loop s).state input).state.app.view = p'.view P da db s)
    (hpeer : p'.view P da db s.peer = p.view P da db s.peer) (harrived : p'.arrived = p.arrived) :
    (d.take P s input).At P da db p' := by
  refine ⟨hstarted, fun t => ?_, fun t => harrived ▸ h.arrived t, fun t => ?_⟩
  · unfold Duo.view
    rcases t.eq_or_eq_peer s with rfl | rfl
    · rw [take_loop_self hreturned, hview]
    · rw [take_loop_peer s.peer_ne, hpeer]
      exact h.view s.peer
  · rcases t.eq_or_eq_peer s with rfl | rfl
    · rw [take_screen_self, hprints, h.screen t]
      rfl
    · rw [take_screen_peer s.peer_ne, h.screen s.peer]

/-- Before the last stage a node keeps its view, whatever its own input is.
Only the first connection of the initiator is another matter. -/
theorem At.turn {p : Progress B} {input : Input B} (h : d.At P da db p)
    (hreturned : (d.loop s).returned = none) (hlocal : input.Local)
    (hconnect : s = .first → p.started = true ∨
      ∀ peer draws, input ≠ .event (.peerConnected peer) draws)
    (hmute : ∀ chat, p.session = some chat → chat.ratchet.Mute) :
    (d.take P s input).At P da db p := by
  have hview := h.view s
  have hrunning : (d.loop s).state.app.node.running = true := by
    have := congrArg (fun v => v.node.running) hview
    cases s <;> exact this
  have hsettled : ∀ peer draws, input = .event (.peerConnected peer) draws →
      (d.loop s).state.Settled := by
    intro peer draws hinput
    cases s with
    | first =>
      rcases hconnect rfl with hstarted | hnever
      · exact Or.inr (Or.inr (h.started.trans hstarted))
      · exact absurd hinput (hnever peer draws)
    | second => exact Or.inl (congrArg View.initiator hview)
  have hmute' : ∀ chat, (d.loop s).state.app.session = some chat → chat.ratchet.Mute := by
    intro chat hchat
    have hsession := (congrArg View.session hview).symm.trans hchat
    cases s with
    | first => cases hsession
    | second => exact hmute chat hsession
  obtain ⟨hstarted, hkept⟩ := RunLoop.keeps_turn P hlocal hsettled hrunning hmute'
  refine h.take hreturned (RunLoop.prints_mute P hlocal hmute') ?_ (Eq.trans hkept hview) rfl rfl
  by_cases hs : Side.first = s
  · subst hs
    rw [take_loop_self hreturned, hstarted]
    exact h.started
  · rw [take_loop_peer hs]
    exact h.started

/-! ## A message of the handshake arrives -/

theorem At.deliver {p p' : Progress B} (h : d.At P da db p)
    (hreturned : (d.loop s).returned = none) {k : Nat} {envelope : NetworkEnvelope}
    {draws : Draws B} (hin : d.inbound ids s k = some envelope) (harm : envelope.arm ≠ .chat)
    (hrun : (Outcome.state (App.handleDirect P (ids s.peer) envelope draws
        (d.loop s).state.app)).view = p'.view P da db s ∧
      Outcome.IsOk (App.handleDirect P (ids s.peer) envelope draws (d.loop s).state.app))
    (hstarted : p'.started = p.started)
    (hpeer : p'.view P da db s.peer = p.view P da db s.peer)
    (harrived : p'.arrived = Function.update p.arrived s (p.arrived s ++ [k])) :
    (step P ids d (.deliver s k draws)).At P da db p' ∧
      ((step P ids d (.deliver s k draws)).loop s).returned = none := by
  obtain ⟨hview, hok⟩ := hrun
  refine ⟨?_, (returned_deliver hin hreturned).mpr hok⟩
  have hprints :
      (d.loop s).prints P (.event (.directMessage (ids s.peer) envelope) draws) = [] := by
    rw [RunLoop.prints_direct P hreturned, App.printsDirect_other P harm]
  have hturn := RunLoop.state_turn_direct P (d.loop s).state (ids s.peer) envelope draws
  have hmoved : (d.take P s (.event (.directMessage (ids s.peer) envelope) draws)).At P da db
      { p' with arrived := p.arrived } := by
    refine h.take hreturned hprints ?_ ?_ ?_ rfl
    · show _ = p'.started
      rw [hstarted, ← h.started]
      by_cases hs : Side.first = s
      · subst hs
        rw [take_loop_self hreturned, hturn]
      · rw [take_loop_peer hs]
    · rw [hturn]
      cases s <;> exact hview
    · cases s <;> exact hpeer
  rw [step_deliver hin]
  refine ⟨hmoved.started, fun t => ?_, fun t => ?_, hmoved.screen⟩
  · refine (hmoved.view t).trans ?_
    cases t <;> rfl
  · show Function.update d.arrived s (d.arrived s ++ [k]) t = _
    rw [harrived, show d.arrived = p.arrived from funext h.arrived]

/-- The request reaches the responder, which answers with its bundle. -/
theorem At.request {t₀ : Int} (h : d.At P da db (.asked P da ids t₀))
    (hreturned : (d.loop .second).returned = none) (draws : Draws B) :
    (step P ids d (.deliver .second 0 draws)).At P da db (.offered P da db ids t₀ draws.now) ∧
      ((step P ids d (.deliver .second 0 draws)).loop .second).returned = none := by
  have hin : d.inbound ids .second 0 = some (requestOut P da ids t₀).envelope := h.inbound_eq rfl
  have harm : (requestOut P da ids t₀).envelope.arm = .bundleReq := rfl
  have hview : ((d.loop .second).state.app.noted (ids .first)).view = _ := h.view .second
  refine h.deliver hreturned hin nofun ?_ rfl rfl (by funext t; cases t <;> rfl)
  rw [App.handleDirect_eq P harm]
  exact App.view_onBundleReq P hview rfl rfl (ids .first) draws.now

/-- The bundle reaches the initiator, which verifies it and sends its prekey
message. -/
theorem At.bundle [LawfulSerde (PreKeyBundle B)] (hdh : P.DhCommutes)
    (hkem : P.KemRoundTrip) (hsig : P.SignaturesVerify) {t₀ t₁ : Int}
    (h : d.At P da db (.offered P da db ids t₀ t₁)) (hreturned : (d.loop .first).returned = none)
    (draws : Draws B) :
    ∃ output message, pqxdhResponder P (ownKeys P db) message = .ok output ∧
      message.identityPublic = da.identity.publicKey P ∧
      (step P ids d (.deliver .first 0 draws)).At P da db
        (.answered P da db ids t₀ t₁ draws.now output message) ∧
      ((step P ids d (.deliver .first 0 draws)).loop .first).returned = none := by
  have hin : d.inbound ids .first 0 = some (bundleOut P db ids t₁).envelope := h.inbound_eq rfl
  have harm : (bundleOut P db ids t₁).envelope.arm = .bundle := rfl
  obtain ⟨output, message, hinitiator, hresponder, hidentity⟩ :=
    pqxdh_ok hdh hkem hsig (ownsPrekeys (P := P) db) da.identity draws.ephemeral draws.coins
  have hverify := PreKeyBundle.verify_new hsig db.identity (firstPrekey P db).signedPrekey []
  have hsend := InitiatorHandshake.sendPrekey_ok (h := freshDriver P da ids) hverify hinitiator
    draws.now
  have hparse : parseBundle ((bundleOut P db ids t₁).envelope.encryptedPayload.drop 1) =
      .ok ((firstPrekey P db).toBundle P db.identity) := parseBundle_toVec _
  have hview : ((d.loop .first).state.app.noted (ids .second)).view = _ := h.view .first
  refine ⟨output, message, hresponder, hidentity,
    h.deliver hreturned hin nofun ?_ rfl rfl (by funext t; cases t <;> rfl)⟩
  rw [App.handleDirect_eq P harm]
  exact App.view_onBundle P hview hparse rfl (noNul_hexEncode _) hsend rfl

/-- The prekey message reaches the responder, which has its session then. -/
theorem At.prekey [LawfulSerde (PqxdhPrekeyMessage B)] (harrays : P.ArraysRoundTrip)
    {t₀ t₁ t₂ : Int} {output : PqxdhOutput B} {message : PqxdhPrekeyMessage B}
    (hagree : pqxdhResponder P (ownKeys P db) message = .ok output)
    (hidentity : message.identityPublic = da.identity.publicKey P)
    (h : d.At P da db (.answered P da db ids t₀ t₁ t₂ output message))
    (hreturned : (d.loop .second).returned = none) (draws : Draws B)
    (initiatorKey : B X25519_PRIVATE_KEY_SIZE) :
    (step P ids d (.deliver .second 1 draws)).At P da db
        (.accepted P da db ids t₀ t₁ t₂ draws.now output message draws.responderRatchet
          initiatorKey) ∧
      ((step P ids d (.deliver .second 1 draws)).loop .second).returned = none := by
  have hin : d.inbound ids .second 1 = some (prekeyOut P da ids message t₂).envelope :=
    h.inbound_eq rfl
  have harm : (prekeyOut P da ids message t₂).envelope.arm = .prekey := rfl
  have hprekey := ResponderHandshake.onPrekey_ok
    (h := .new db.identity (firstPrekey P db)) (privateKey_firstPrekey harrays db) hagree
    (randomHexDeviceId P da.deviceId) draws.responderRatchet
  rw [hidentity] at hprekey
  have hview : ((d.loop .second).state.app.noted (ids .first)).view = _ := h.view .second
  refine h.deliver hreturned hin nofun ?_ rfl rfl (by funext t; cases t <;> rfl)
  rw [App.handleDirect_eq P harm]
  exact App.view_onPrekey P hview (senderConversation_syncEnvelope P _ _ _ _ _) rfl
    hprekey (noNul_hexEncode _) rfl (ids .first)

/-- The initiator when it has taken the ratchet key. -/
def speaking (P : Primitives B) (da db : BootDraws B) (ids : Side → PeerId)
    (output : PqxdhOutput B) (session : ChatSession B) (sent : List Outbound) : View B :=
  { identity := da.identity
    deviceId := randomHexDeviceId P da.deviceId
    node := ⟨true, sent⟩
    initiator := some { waitingDriver P da db ids output with pending := none }
    responder := none
    session := some session }

/-- The ratchet key reaches the initiator.  Its session is the other end of the
pair, moved by the `encrypt` of the greeting, and if that fails its loop is
over. -/
theorem At.ratchet (harrays : P.ArraysRoundTrip) {t₀ t₁ t₂ t₃ : Int}
    {output : PqxdhOutput B} {message : PqxdhPrekeyMessage B} {key : B X25519_PRIVATE_KEY_SIZE}
    (draws : Draws B) (h : d.At P da db
      (.accepted P da db ids t₀ t₁ t₂ t₃ output message key draws.initiatorRatchet))
    (hreturned : (d.loop .first).returned = none) :
    ∃ groupKey out, groupKey.arm = .groupKey ∧
      ((duoPair P da db output.sharedSecret draws.initiatorRatchet key).start P .first).encrypt P
        da.identity (randomHexDeviceId P da.deviceId)
        (App.greetingOf (randomHexDeviceId P da.deviceId)) draws.now = out ∧
      (step P ids d (.deliver .first 1 draws)).view .first =
        speaking P da db ids output (Outcome.state out)
          (requestOut P da ids t₀ :: prekeyOut P da ids message t₂ :: ⟨ids .second, groupKey⟩ ::
            App.sealed (ids .second) out) ∧
      (((step P ids d (.deliver .first 1 draws)).loop .first).returned = none → out.IsOk) ∧
      (step P ids d (.deliver .first 1 draws)).view .second = d.view .second ∧
      (step P ids d (.deliver .first 1 draws)).arrived = Side.of [0, 1] [0, 1] ∧
      ∀ s, (step P ids d (.deliver .first 1 draws)).screen s = [] := by
  have hin : d.inbound ids .first 1 = some (ratchetOut P db ids key t₃).envelope :=
    h.inbound_eq rfl
  have harm : (ratchetOut P db ids key t₃).envelope.arm = .ratchetPub := rfl
  have hview : ((d.loop .first).state.app.noted (ids .second)).view = _ := h.view .first
  have hestablish := InitiatorHandshake.establish_ok harrays
    (h := waitingDriver P da db ids output) rfl rfl (P.x25519Public key) draws.initiatorRatchet
  obtain ⟨groupKey, hkey, hrun, hok⟩ := App.view_onRatchetPub P hview rfl hestablish rfl
    (noNul_hexEncode _) rfl (ids .second) rfl
  refine ⟨groupKey, _, hkey, rfl, ?_, ?_, view_deliver_peer hin, ?_, fun s => ?_⟩
  · rw [view_deliver_self hin hreturned, App.handleDirect_eq P harm]
    exact hrun
  · intro hrunning
    rw [returned_deliver hin hreturned, App.handleDirect_eq P harm] at hrunning
    exact hok hrunning
  · rw [arrived_deliver hin, show d.arrived = _ from funext h.arrived]
    funext t
    cases t <;> rfl
  · have hother : (ratchetOut P db ids key t₃).envelope.arm ≠ .chat := nofun
    rw [screen_deliver hin hreturned (App.printsDirect_other P hother _ _), List.append_nil,
      Function.update_eq_self, h.screen]

/-! ## Both nodes have their session -/

/-- Both nodes have their session when the ratchet key has reached the
initiator. -/
theorem At.linked (harrays : P.ArraysRoundTrip) {t₀ t₁ t₂ t₃ : Int}
    {output : PqxdhOutput B} {message : PqxdhPrekeyMessage B} {key : B X25519_PRIVATE_KEY_SIZE}
    (draws : Draws B) (h : d.At P da db
      (.accepted P da db ids t₀ t₁ t₂ t₃ output message key draws.initiatorRatchet))
    (hreturned : (d.loop .first).returned = none) :
    (step P ids d (.deliver .first 1 draws)).Linked P
      (duoPair P da db output.sharedSecret draws.initiatorRatchet key) := by
  obtain ⟨groupKey, out, hkey, hout, hfirst, -, hsecond, harrived, -⟩ :=
    h.ratchet harrays draws hreturned
  replace hsecond := hsecond.trans (h.view .second)
  refine ⟨?_, ?_, ?_, ?_, ?_⟩
  · have hmoved : Outcome.state out =
        (duoPair P da db output.sharedSecret draws.initiatorRatchet key).sessionWith P .first _ :=
      hout ▸ (ChatPair.encrypt_sessionWith .first _ _ _).1
    exact Side.both ⟨_, (congrArg View.session hfirst).trans (congrArg some hmoved)⟩
      ⟨_, congrArg View.session hsecond⟩
  · exact Side.both (congrArg View.identity hfirst) (congrArg View.identity hsecond)
  · exact Side.both (congrArg View.deviceId hfirst) (congrArg View.deviceId hsecond)
  · exact Side.both (congrArg (fun v => v.node.running) hfirst)
      (congrArg (fun v => v.node.running) hsecond)
  · intro s k sent hsent hnew
    rw [harrived] at hnew
    cases s with
    | first =>
      rw [Side.peer, hsecond] at hsent
      match k with
      | 0 => exact absurd (.head _) hnew
      | 1 => exact absurd (.tail _ (.head _)) hnew
      | k + 2 => cases hsent
    | second =>
      rw [Side.peer, hfirst] at hsent
      match k with
      | 0 => exact absurd (.head _) hnew
      | 1 => exact absurd (.tail _ (.head _)) hnew
      | 2 =>
        cases hsent
        exact Or.inr hkey
      | k + 3 => exact Or.inl (App.kind_of_sealed P hout _ (List.mem_of_getElem? hsent))

/-- An input of one of the nodes. -/
theorem Linked.turn {c : ChatPair B} {input : Input B} (h : d.Linked P c)
    (hreturned : (d.loop s).returned = none) (hlocal : input.Local) :
    (d.take P s input).Linked P c := by
  obtain ⟨r, hr⟩ := h.session s
  have hsettled : (d.loop s).state.Settled :=
    Or.inr (Or.inl fun hnone => nomatch hnone.symm.trans hr)
  obtain ⟨-, hquiet⟩ := RunLoop.quiet_turn P hlocal hsettled (h.running s)
  refine h.of_quiet (s := s) ?_ ?_ fun t => List.Subset.refl _
  · unfold Duo.view
    rw [take_loop_self hreturned]
    exact hquiet
  · unfold Duo.view
    rw [take_loop_peer s.peer_ne]

/-- A message of one of the nodes arrives. -/
theorem Linked.deliver {c : ChatPair B} {k : Nat} {draws : Draws B} {envelope : NetworkEnvelope}
    (h : d.Linked P c) (hreturned : (d.loop s).returned = none) (hnew : k ∉ d.arrived s)
    (hin : d.inbound ids s k = some envelope)
    (hrouted : envelope.kind = KIND_DIRECT → envelope.arm = .chat) :
    (step P ids d (.deliver s k draws)).Linked P c := by
  obtain ⟨r, hr⟩ := h.session s
  refine h.of_quiet (s := s) ?_ (view_deliver_peer hin) fun t => ?_
  · rw [view_deliver_self hin hreturned]
    rcases h.sent s k _ (inbound_eq_some hin) hnew with hkind | harm
    · rw [App.handleDirect_eq P (hrouted hkind)]
      have hsession : ((d.loop s).state.app.noted (ids s.peer)).session = _ := hr
      exact App.quiet_onChat P hsession envelope draws
    · rw [App.handleDirect_eq P harm]
      have hkept := App.keeps_onGroupKey P (envelope.encryptedPayload.drop 1)
        ((d.loop s).state.app.noted (ids s.peer))
      rw [show (Outcome.state (App.runArm P .groupKey _ envelope draws _)).view = _ from hkept]
      exact .refl _
  · rw [arrived_deliver hin]
    rcases t.eq_or_eq_peer s with rfl | rfl
    · rw [Function.update_self]
      exact List.subset_append_left _ _
    · rw [Function.update_of_ne s.peer_ne]
      exact List.Subset.refl _

/-! ## One step -/

/-- The first connection: the initiator asks for the bundle. -/
theorem At.connection (h : d.At P da db (.idle P da ids))
    (hreturned : (d.loop .first).returned = none) (peer : PeerId) (draws : Draws B) :
    (d.take P .first (.event (.peerConnected peer) draws)).At P da db
        (.asked P da ids draws.now) ∧
      ((d.take P .first (.event (.peerConnected peer) draws)).loop .first).returned = none := by
  have hturn := RunLoop.turn_connection P h.started (congrArg View.initiator (h.view .first))
    (congrArg View.session (h.view .first)) (congrArg (fun v => v.node.running) (h.view .first))
    peer draws
  have hprints : (d.loop .first).prints P (.event (.peerConnected peer) draws) = [] :=
    RunLoop.prints_other P trivial fun _ _ ⟨_, hline, _⟩ => nomatch hline
  refine ⟨h.take hreturned hprints ?_ ?_ rfl rfl, by rw [take_loop_self hreturned, hturn]⟩
  · rw [take_loop_self hreturned, hturn]
    rfl
  · rw [hturn, App.view_handedOver, show (App.noted _ peer).view = _ from h.view .first]
    rfl

variable {L : ChatPair B → Duo B → Prop}

/-- A node takes an input of its own. -/
theorem Stage.turn {input : Input B} (h : d.Stage P da db ids L)
    (hreturned : (d.loop s).returned = none) (hlocal : input.Local)
    (hlinked : ∀ c, L c d → L c (d.take P s input)) : (d.take P s input).Stage P da db ids L := by
  have hsilent : ∀ chat : ChatSession B, none = some chat → chat.ratchet.Mute := by
    intro chat hchat
    cases hchat
  cases h with
  | idle h =>
    by_cases hconnect : s = .first ∧ ∃ peer draws, input = .event (.peerConnected peer) draws
    · obtain ⟨rfl, peer, draws, rfl⟩ := hconnect
      exact .asked draws.now (h.connection hreturned peer draws).1
    · refine .idle (h.turn hreturned hlocal (fun hs => Or.inr ?_) hsilent)
      intro peer draws hinput
      exact hconnect ⟨hs, peer, draws, hinput⟩
  | asked t₀ h => exact .asked t₀ (h.turn hreturned hlocal (fun _ => Or.inl rfl) hsilent)
  | offered t₀ t₁ h =>
    exact .offered t₀ t₁ (h.turn hreturned hlocal (fun _ => Or.inl rfl) hsilent)
  | answered t₀ t₁ t₂ output message hagree hidentity h =>
    exact .answered t₀ t₁ t₂ output message hagree hidentity
      (h.turn hreturned hlocal (fun _ => Or.inl rfl) hsilent)
  | accepted t₀ t₁ t₂ t₃ output message key h =>
    refine .accepted t₀ t₁ t₂ t₃ output message key fun initiatorKey =>
      (h initiatorKey).turn hreturned hlocal (fun _ => Or.inl rfl) fun chat hchat => ?_
    -- without a message of the initiator the responder cannot send
    cases hchat
    exact ⟨rfl, rfl⟩
  | linked secret initiatorKey responderKey h =>
    exact .linked secret initiatorKey responderKey (hlinked _ h)

variable [LawfulSerde (PreKeyBundle B)] [LawfulSerde (PqxdhPrekeyMessage B)]

/-- A message arrives: it is the one of the handshake that is on the way, or the
handshake is over. -/
theorem Stage.deliver (harrays : P.ArraysRoundTrip) (hdh : P.DhCommutes) (hkem : P.KemRoundTrip)
    (hsig : P.SignaturesVerify) {k : Nat} {draws : Draws B} {envelope : NetworkEnvelope}
    (h : d.Stage P da db ids L) (hreturned : (d.loop s).returned = none) (hnew : k ∉ d.arrived s)
    (hin : d.inbound ids s k = some envelope)
    (hratchet : ∀ {t₀ t₁ t₂ t₃ : Int} {output : PqxdhOutput B} {message : PqxdhPrekeyMessage B}
      {key : B X25519_PRIVATE_KEY_SIZE}, (d.loop .first).returned = none →
      d.At P da db (.accepted P da db ids t₀ t₁ t₂ t₃ output message key draws.initiatorRatchet) →
      L (duoPair P da db output.sharedSecret draws.initiatorRatchet key)
        (step P ids d (.deliver .first 1 draws)))
    (hlinked : ∀ c, L c d → L c (step P ids d (.deliver s k draws))) :
    (step P ids d (.deliver s k draws)).Stage P da db ids L := by
  cases h with
  | idle h =>
    have hmessage := h.message hin
    cases s <;> cases hmessage
  | asked t₀ h =>
    have hmessage := h.message hin
    match s, k with
    | .first, k => cases hmessage
    | .second, 0 => exact .offered t₀ draws.now (h.request hreturned draws).1
    | .second, k + 1 => cases hmessage
  | offered t₀ t₁ h =>
    have hmessage := h.message hin
    rw [h.arrived] at hnew
    match s, k with
    | .first, 0 =>
      obtain ⟨output, message, hagree, hidentity, h, -⟩ :=
        h.bundle hdh hkem hsig hreturned draws
      exact .answered t₀ t₁ draws.now output message hagree hidentity h
    | .first, k + 1 => cases hmessage
    | .second, 0 => exact absurd (.head _) hnew
    | .second, k + 1 => cases hmessage
  | answered t₀ t₁ t₂ output message hagree hidentity h =>
    have hmessage := h.message hin
    rw [h.arrived] at hnew
    match s, k with
    | .first, 0 => exact absurd (.head _) hnew
    | .first, k + 1 => cases hmessage
    | .second, 0 => exact absurd (.head _) hnew
    | .second, 1 =>
      exact .accepted t₀ t₁ t₂ draws.now output message draws.responderRatchet fun initiatorKey =>
        (h.prekey harrays hagree hidentity hreturned draws initiatorKey).1
    | .second, k + 2 => cases hmessage
  | accepted t₀ t₁ t₂ t₃ output message key h =>
    have hmessage := (h draws.initiatorRatchet).message hin
    rw [(h draws.initiatorRatchet).arrived] at hnew
    match s, k with
    | .first, 0 => exact absurd (.head _) hnew
    | .first, 1 =>
      exact .linked output.sharedSecret draws.initiatorRatchet key
        (hratchet hreturned (h draws.initiatorRatchet))
    | .first, k + 2 => cases hmessage
    | .second, 0 => exact absurd (.head _) hnew
    | .second, 1 => exact absurd (.tail _ (.head _)) hnew
    | .second, k + 2 => cases hmessage
  | linked secret initiatorKey responderKey h =>
    exact .linked secret initiatorKey responderKey (hlinked _ h)

/-- Every run of the two nodes is in one of the stages. -/
theorem stage_run (harrays : P.ArraysRoundTrip) (hdh : P.DhCommutes) (hkem : P.KemRoundTrip)
    (hsig : P.SignaturesVerify) (h : d.Stage P da db ids (Linked P)) {es : List (Event B)}
    (hvalid : (machine P ids).Valid d es) :
    ((machine P ids).run d es).Stage P da db ids (Linked P) := by
  refine Machine.invariant (fun d e h henabled => ?_) h hvalid
  cases e with
  | turn s input =>
    exact h.turn henabled.1 henabled.2 fun c hc => hc.turn henabled.1 henabled.2
  | deliver s k draws =>
    obtain ⟨hreturned, hnew, envelope, hin, hrouted⟩ := henabled
    exact h.deliver harrays hdh hkem hsig hreturned hnew hin
      (fun hrunning hat => hat.linked harrays draws hrunning)
      fun c hc => hc.deliver hreturned hnew hin hrouted

end Duo

end Steps

section Agreement

variable {P : Primitives B} [Serde (HybridSignature B)] [Serde (RatchetMessageHeader B)]
  [Serde (PreKeyBundle B)] [Serde (PqxdhPrekeyMessage B)] [Serde (GroupKeyDistribution B)]
  [Serde (SessionKeys B)] [Serde (RatchetSnapshot B)] [Serde SenderKeyMessage]
  [DecidableEq (B X25519_PUBLIC_KEY_SIZE)] [LawfulSerde (PreKeyBundle B)]
  [LawfulSerde (PqxdhPrekeyMessage B)] {da db : BootDraws B}

/-- Two nodes that start without a session, whatever their users type, whatever
else their loops take, and in whatever order the messages arrive.  When the
initiator has a session, the responder has one with the same keys, the same
conversation, the other role and each other's identity.  Until then a handshake
that has begun always has a message on the way. -/
theorem nodes_agree (harrays : P.ArraysRoundTrip) (hdh : P.DhCommutes) (hkem : P.KemRoundTrip)
    (hsig : P.SignaturesVerify) (ids : Side → PeerId) (na : NodeDatabase P da)
    (nb : NodeDatabase P db) (initiator : App B)
    (hstart : App.startInitiator na.store (ids .second) = .ok initiator)
    (hfresh : initiator.session = none) (es : List (Duo.Event B))
    (hvalid : (Duo.machine P ids).Valid
      (.start initiator (App.startResponder nb.store (firstPrekey P db))) es) (d : Duo B)
    (hd : d = (Duo.machine P ids).run
      (.start initiator (App.startResponder nb.store (firstPrekey P db))) es) :
    (∀ sa, (d.loop .first).state.app.session = some sa →
      ∃ sb, (d.loop .second).state.app.session = some sb ∧
        sa.sessionKeys.rootKey = sb.sessionKeys.rootKey ∧
        sa.sessionKeys.sendingChain = sb.sessionKeys.sendingChain ∧
        sa.sessionKeys.receivingChain = sb.sessionKeys.receivingChain ∧
        sa.conversationId = sb.conversationId ∧
        sa.isInitiator = true ∧ sb.isInitiator = false ∧
        sa.peerIdentity = db.identity.publicKey P ∧
        sb.peerIdentity = da.identity.publicKey P) ∧
    ((d.loop .first).state.handshakeStarted = true →
      (d.loop .first).state.app.session = none →
      ∃ s k, (d.inbound ids s k).isSome ∧ k ∉ d.arrived s) := by
  have hstage := Duo.stage_run harrays hdh hkem hsig (Duo.stage_start na nb hstart hfresh) hvalid
  rw [← hd] at hstage
  have hnone : ∀ {p : Progress B}, d.At P da db p → (d.loop .first).state.app.session = none :=
    fun h => congrArg View.session (h.view .first)
  constructor
  · intro sa hsa
    cases hstage with
    | idle h => exact nomatch hsa.symm.trans (hnone h)
    | asked t₀ h => exact nomatch hsa.symm.trans (hnone h)
    | offered t₀ t₁ h => exact nomatch hsa.symm.trans (hnone h)
    | answered t₀ t₁ t₂ output message hagree hidentity h => exact nomatch hsa.symm.trans (hnone h)
    | accepted t₀ t₁ t₂ t₃ output message key h => exact nomatch hsa.symm.trans (hnone (h key))
    | linked secret initiatorKey responderKey h =>
      obtain ⟨ra, hra⟩ := h.session .first
      obtain ⟨rb, hrb⟩ := h.session .second
      cases hsa.symm.trans hra
      exact ⟨_, hrb, rfl, rfl, rfl, rfl, rfl, rfl, rfl, rfl⟩
  · intro hstarted hsession
    have hpending : ∀ {p : Progress B} {s : Side} {k : Nat} {envelope : NetworkEnvelope},
        d.At P da db p → (p.sent s.peer)[k]? = some ⟨ids s, envelope⟩ → k ∉ p.arrived s →
          ∃ s k, (d.inbound ids s k).isSome ∧ k ∉ d.arrived s := by
      intro p s k envelope h hsent hnew
      refine ⟨s, k, ?_, ?_⟩
      · rw [h.inbound_eq hsent]
        rfl
      · rwa [h.arrived]
    cases hstage with
    | idle h => exact nomatch hstarted.symm.trans h.started
    | asked t₀ h => exact hpending (s := .second) (k := 0) h rfl nofun
    | offered t₀ t₁ h => exact hpending (s := .first) (k := 0) h rfl nofun
    | answered t₀ t₁ t₂ output message hagree hidentity h =>
      exact hpending (s := .second) (k := 1) h rfl (by simp [Progress.answered, Side.of])
    | accepted t₀ t₁ t₂ t₃ output message key h =>
      exact hpending (s := .first) (k := 1) (h key) rfl (by simp [Progress.accepted, Side.of])
    | linked secret initiatorKey responderKey h =>
      obtain ⟨ra, hra⟩ := h.session .first
      exact nomatch hsession.symm.trans hra

end Agreement

/-! ## A run over symbolic keys -/

namespace Sym

def duoIds : Side → PeerId := Side.of [7] [1]

/-- An initiator and a responder in fresh directories. -/
def duo : Duo Sym :=
  .start freshInitiator
    (App.startResponder (NodeDatabase.first primitives firstBoot).store
      (firstPrekey primitives firstBoot))

theorem startInitiator_duo :
    App.startInitiator (NodeDatabase.first primitives aliceBoot).store (duoIds .second) =
      .ok freshInitiator := by
  have hstore : (NodeDatabase.first primitives aliceBoot).store = initiatorStore := rfl
  have hpeer : duoIds .second = [1] := rfl
  rw [hstore, hpeer]
  exact startInitiator_initiatorStore

/-- The nodes connect, the four messages of the handshake arrive, and then the
group key. -/
def exchange : List (Duo.Event Sym) :=
  [.turn .first (.event (.peerConnected [1]) draws), .deliver .second 0 draws,
    .deliver .first 0 draws, .turn .second (.line "too early" draws), .deliver .second 1 draws,
    .deliver .first 1 draws, .deliver .second 2 draws]

end Sym

open scoped Presidium.Sym in
theorem nodes_agree_exchange :
    ∃ sa, (((Duo.machine Sym.primitives Sym.duoIds).run Sym.duo Sym.exchange).loop
        .first).state.app.session = some sa ∧
      ∃ sb, (((Duo.machine Sym.primitives Sym.duoIds).run Sym.duo Sym.exchange).loop
        .second).state.app.session = some sb ∧
        sa.sessionKeys.rootKey = sb.sessionKeys.rootKey ∧ sa.conversationId = sb.conversationId := by
  have hvalid : (Duo.machine Sym.primitives Sym.duoIds).Valid Sym.duo Sym.exchange := by
    decide +kernel
  have hsome : (((Duo.machine Sym.primitives Sym.duoIds).run Sym.duo Sym.exchange).loop
      .first).state.app.session.isSome = true := by decide +kernel
  obtain ⟨sa, hsa⟩ := Option.isSome_iff_exists.mp hsome
  obtain ⟨hagree, -⟩ := nodes_agree Sym.arraysRoundTrip Sym.dhCommutes Sym.kemRoundTrip
    Sym.signaturesVerify Sym.duoIds (.first Sym.primitives Sym.aliceBoot)
    (.first Sym.primitives Sym.firstBoot) Sym.freshInitiator Sym.startInitiator_duo rfl
    Sym.exchange hvalid ((Duo.machine Sym.primitives Sym.duoIds).run Sym.duo Sym.exchange) rfl
  obtain ⟨sb, hsb, hroot, -, -, hconversation, -⟩ := hagree sa hsa
  exact ⟨sa, hsa, sb, hsb, hroot, hconversation⟩

end Presidium
