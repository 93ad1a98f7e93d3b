import Presidium.Demo.HandshakeAgreement
import Presidium.Demo.Inbound

/-!
# Two nodes and the network between them

`Duo` is an initiator and a responder, each in its own event loop, and the
direct messages between them.  A message stays on the network from `send_direct`
on, so it may be late, overtake others or never arrive; none arrives twice.
Between two deliveries either loop may take anything else: lines of its user,
connections, outcomes of sends, gossip.

There are three groups.

* `View` is the part of an application that decides about its session and its
  direct messages.  The rest is the database, the group, the peer and
  `last_outgoing`.
* `Keeps` and `Quiet` are the frames of one turn.  Most inputs keep the view.
  A line or a chat message may move the ratchet of a session that is there, and
  what it sends is a chat message.
* The machine of the two nodes, with what each user gets to read.
-/

namespace Presidium

variable {B : Nat → Type}

/-! ## Views -/

/-- What decides about the session and the direct messages of a node. -/
structure View (B : Nat → Type) where
  identity : IdentityKeyPair B
  deviceId : String
  node : P2pNode
  initiator : Option (InitiatorHandshake B)
  responder : Option (ResponderHandshake B)
  session : Option (ChatSession B)

def App.view (app : App B) : View B :=
  { identity := app.store.identity
    deviceId := app.store.deviceId
    node := app.node
    initiator := app.initiator
    responder := app.responder
    session := app.session }

/-- The application behind `notePeer`. -/
def App.noted (app : App B) (sender : PeerId) : App B :=
  { app with peer := app.peer.or (some sender) }

/-- The view stays. -/
def App.Keeps (app app' : App B) : Prop := app'.view = app.view

/-- The session, if there is one, moves its ratchet, and what is sent are chat
messages. -/
structure View.Quiet (v v' : View B) : Prop where
  identity : v'.identity = v.identity
  deviceId : v'.deviceId = v.deviceId
  running : v'.node.running = v.node.running
  session : ∀ s, v.session = some s → ∃ r, v'.session = some { s with ratchet := r }
  sent : ∃ chats, v'.node.sent = v.node.sent ++ chats ∧
    ∀ out ∈ chats, out.envelope.kind = KIND_DIRECT

theorem View.Quiet.refl (v : View B) : v.Quiet v :=
  ⟨rfl, rfl, rfl, fun s hs => ⟨s.ratchet, hs⟩, [], by simp, by simp⟩

theorem View.Quiet.trans {v₁ v₂ v₃ : View B} (h : v₁.Quiet v₂) (h' : v₂.Quiet v₃) :
    v₁.Quiet v₃ := by
  refine ⟨h'.identity.trans h.identity, h'.deviceId.trans h.deviceId,
    h'.running.trans h.running, fun s hs => ?_, ?_⟩
  · obtain ⟨r, hr⟩ := h.session s hs
    obtain ⟨r', hr'⟩ := h'.session _ hr
    exact ⟨r', hr'⟩
  · obtain ⟨chats, hchats, hkind⟩ := h.sent
    obtain ⟨chats', hchats', hkind'⟩ := h'.sent
    refine ⟨chats ++ chats', by rw [hchats', hchats, List.append_assoc], fun out hout => ?_⟩
    exact (List.mem_append.mp hout).elim (hkind out) (hkind' out)

/-- The ratchet has no sending chain, and no peer key to derive one. -/
structure DoubleRatchet.Mute (r : DoubleRatchet B) : Prop where
  chainKey : r.sendingChain.chainKey = none
  peer : r.sendingChain.theirRatchetPublic = none

theorem ChatSession.encrypt_mute (P : Primitives B) [Serde (HybridSignature B)]
    [Serde (RatchetMessageHeader B)] {s : ChatSession B} (hmute : s.ratchet.Mute)
    (identity : IdentityKeyPair B) (deviceId : String) (text : Bytes) (now : Int) :
    ∃ e, s.encrypt P identity deviceId text now = .error e s := by
  have hratchet : ∃ e, s.ratchet.encrypt P text = .error e s.ratchet := by
    unfold DoubleRatchet.encrypt DoubleRatchet.ensureSendingChain
    simp only [hmute.chainKey, hmute.peer]
    cases s.ratchet.sendingChain.ourRatchetKey <;> exact ⟨_, rfl⟩
  obtain ⟨e, he⟩ := hratchet
  unfold encrypt
  simp only [he]
  exact ⟨_, rfl⟩

namespace App

/-! ## The frame of one turn -/

theorem Keeps.refl (app : App B) : Keeps app app := rfl

theorem Keeps.trans (app₁ app₂ app₃ : App B) (h : Keeps app₁ app₂) (h' : Keeps app₂ app₃) :
    Keeps app₁ app₃ := Eq.trans h' h

section Frames

variable {α : Type}

theorem keeps_settle (status : MessageStatus) :
    Outcome.Moves Keeps (settle status : AppM B Unit) := by
  intro app
  cases hlast : app.lastOutgoing with
  | none => rw [settle_of_none hlast]; rfl
  | some row => rw [settle_of_some hlast]; rfl

/-- A statement writes the database and nothing else of the store. -/
theorem keeps_onStore {statement : NodeStore B → Except AppError (NodeStore B × α)}
    (hstatement : ∀ store store' a, statement store = .ok (store', a) →
      store'.identity = store.identity ∧ store'.deviceId = store.deviceId) :
    Outcome.Moves Keeps (onStore statement) := by
  intro app
  cases hrun : statement app.store with
  | error e => rw [onStore_error hrun]; rfl
  | ok out =>
    obtain ⟨hidentity, hdevice⟩ := hstatement _ _ _ hrun
    rw [onStore_ok hrun]
    show View.mk _ _ _ _ _ _ = View.mk _ _ _ _ _ _
    rw [Outcome.state_ok, hidentity, hdevice]

variable (P : Primitives B)

theorem keeps_insertMessage (conversationId : String) (sender : IdentityPublicKey B)
    (envelope : NetworkEnvelope) (direction : MessageDirection) (nonce : UInt32) (now : Int) :
    Outcome.Moves Keeps
      (insertMessage P conversationId sender envelope direction nonce now) := by
  refine .bind Keeps.trans (moves_text Keeps.refl _) fun header => ?_
  refine keeps_onStore fun store store' row h => ?_
  obtain ⟨-, rfl, -⟩ := NodeStore.insertMessage_eq_ok h
  exact ⟨rfl, rfl⟩

theorem keeps_storeOutgoing (envelope : NetworkEnvelope) (nonce : UInt32) (now : Int) :
    Outcome.Moves Keeps (storeOutgoing P envelope nonce now) := by
  refine .bind Keeps.trans (moves_get Keeps.refl) fun app => ?_
  refine .bind Keeps.trans (moves_required Keeps.refl _ _) fun session => ?_
  exact .bind Keeps.trans (keeps_insertMessage P _ _ _ _ _ _) fun row _ => rfl

theorem keeps_storeIncoming (conversationId : String) (envelope : NetworkEnvelope)
    (nonce : UInt32) (now : Int) :
    Outcome.Moves Keeps (storeIncoming P conversationId envelope nonce now) := by
  refine .bind Keeps.trans (moves_get Keeps.refl) fun app => ?_
  refine .bind Keeps.trans (moves_required Keeps.refl _ _) fun session => ?_
  exact .bind Keeps.trans (keeps_insertMessage P _ _ _ _ _ _) fun row _ => rfl

theorem keeps_onStore_upsertConversation (id : String) (peer : IdentityPublicKey B)
    (isGroup : Bool) (now : Int) :
    Outcome.Moves Keeps
      (onStore fun store => (store.upsertConversation P id peer isGroup now).map (·, ())) := by
  intro app
  by_cases hid : Database.Bindable id
  · rw [onStore_upsertConversation_ok P hid]; rfl
  · rw [onStore_upsertConversation_error P hid]; rfl

theorem keeps_storeGroup (envelope : NetworkEnvelope) (draws : Draws B) :
    Outcome.Moves Keeps (storeGroup P envelope draws) := by
  refine .bind Keeps.trans (moves_get Keeps.refl) fun app => ?_
  refine .bind Keeps.trans (keeps_onStore_upsertConversation P _ _ _ _) fun _ => ?_
  refine .bind Keeps.trans (keeps_insertMessage P _ _ _ _ _ _) fun _ => ?_
  exact moves_pure Keeps.refl _

section Group

variable [Serde (HybridSignature B)] [Serde SenderKeyMessage]

theorem keeps_onGossip (envelope : NetworkEnvelope) (draws : Draws B) :
    Outcome.Moves Keeps (onGossip P envelope draws) := by
  intro app
  unfold onGossip
  cases app.group.decrypt P envelope with
  | error e group => rfl
  | ok plaintext group => exact keeps_storeGroup P envelope draws { app with group }

theorem keeps_publish (text : String) (now : Int) :
    Outcome.Moves Keeps (publish P text now) := by
  intro app
  unfold publish
  cases app.group.publish P app.node.running app.store.identity app.store.deviceId
    (asBytes text) now <;> rfl

end Group

theorem keeps_onGroupKey [Serde (GroupKeyDistribution B)] (body : Bytes) :
    Outcome.Moves Keeps (onGroupKey P body) := by
  intro app
  rw [onGroupKey_eq]
  obtain ⟨store, node, initiator, responder, session, group, peer, lastOutgoing⟩ := app
  cases (Serde.fromSlice body : Option (GroupKeyDistribution B)) with
  | none => rfl
  | some distribution => cases session <;> rfl

end Frames

section Chats

variable (P : Primitives B)

/-- The view with another ratchet in its session. -/
theorem quiet_withSession {v : View B} {s : ChatSession B} (hsession : v.session = some s)
    (r : DoubleRatchet B) : v.Quiet { v with session := some { s with ratchet := r } } := by
  refine ⟨rfl, rfl, rfl, fun s' hs' => ?_, [], by simp, by simp⟩
  cases hs'.symm.trans hsession
  exact ⟨r, rfl⟩

variable [Serde (SessionKeys B)] [Serde (RatchetSnapshot B)]

/-- A send with the discarded `persist` hands the envelope over. -/
theorem exists_sendPersist_view {app : App B} (hrunning : app.node.running = true)
    (peer : PeerId) (envelope : NetworkEnvelope) (now : Int) :
    ∃ app', (sendDirect peer envelope >>= fun _ => persistQuietly now) app = .ok () app' ∧
      app'.view = { app.view with node := ⟨true, app.node.sent ++ [⟨peer, envelope⟩]⟩ } := by
  obtain ⟨sessions, hrun⟩ := exists_sendPersist_eq hrunning peer envelope now
  refine ⟨_, hrun, ?_⟩
  rw [← hrunning]
  rfl

variable [Serde (HybridSignature B)] [Serde (RatchetMessageHeader B)]

/-- What a line does: nothing, or it moves the session with `encrypt` and, if
all goes well, sends the envelope. -/
theorem sendLine_cases {app : App B} (hrunning : app.node.running = true) (line : String)
    (draws : Draws B) :
    (app.session = none ∨ app.peer = none) ∧ sendLine P line draws app = .ok () app ∨
    ∃ s peer, app.session = some s ∧ app.peer = some peer ∧
      ((∃ e app', sendLine P line draws app = .error e app' ∧
        app'.view = { app.view with
          session := some (Outcome.state (s.encrypt P app.store.identity app.store.deviceId
            (asBytes line) draws.now)) }) ∨
      ∃ envelope s' app', s.encrypt P app.store.identity app.store.deviceId (asBytes line)
          draws.now = .ok envelope s' ∧
        sendLine P line draws app = .ok () app' ∧
        app'.view = { app.view with
          session := some s'
          node := ⟨true, app.node.sent ++ [⟨peer, envelope⟩]⟩ }) := by
  cases hsession : app.session with
  | none => exact Or.inl ⟨Or.inl rfl, sendLine_idle P (Or.inl hsession) line draws⟩
  | some s =>
    cases hpeer : app.peer with
    | none => exact Or.inl ⟨Or.inr rfl, sendLine_idle P (Or.inr hpeer) line draws⟩
    | some peer =>
      refine Or.inr ⟨s, peer, rfl, rfl, ?_⟩
      rw [sendLine_live P hsession hpeer]
      cases hencrypt : s.encrypt P app.store.identity app.store.deviceId (asBytes line)
          draws.now with
      | error e s' => exact Or.inl ⟨e, _, rfl, rfl⟩
      | ok envelope s' =>
        have hstored := keeps_storeOutgoing P envelope draws.messageNonce draws.now
          { app with session := some s' }
        simp only
        cases hstore : storeOutgoing P envelope draws.messageNonce draws.now
            { app with session := some s' } with
        | error e app' =>
          rw [hstore] at hstored
          exact Or.inl ⟨e, app', Outcome.bind_error hstore, hstored⟩
        | ok _ app' =>
          rw [hstore] at hstored
          have hnode : app'.node = app.node := congrArg View.node hstored
          obtain ⟨app'', hsend, hview⟩ := exists_sendPersist_view (hnode ▸ hrunning) peer
            envelope draws.now
          refine Or.inr ⟨envelope, s', app'', rfl, (Outcome.bind_ok hstore).trans hsend, ?_⟩
          rw [hview, show app'.view = _ from hstored, hnode]
          rfl

omit [Serde (SessionKeys B)] [Serde (RatchetSnapshot B)] in
theorem kind_of_encrypt {s s' : ChatSession B} {identity : IdentityKeyPair B} {deviceId : String}
    {text : Bytes} {now : Int} {envelope : NetworkEnvelope}
    (h : s.encrypt P identity deviceId text now = .ok envelope s') :
    envelope.kind = KIND_DIRECT := by
  obtain ⟨_, _, _, -, rfl, -⟩ := ChatSession.encrypt_eq_ok h
  rfl

/-- A line moves the ratchet and sends a chat message at most. -/
theorem quiet_sendLine {app : App B} (hrunning : app.node.running = true) (line : String)
    (draws : Draws B) : app.view.Quiet (Outcome.state (sendLine P line draws app)).view := by
  rcases sendLine_cases P hrunning line draws with
    ⟨-, hrun⟩ | ⟨s, peer, hs, -, ⟨e, app', hrun, hview⟩ | ⟨envelope, s', app', henc, hrun, hview⟩⟩
  · rw [hrun]
    exact .refl _
  · rw [hrun, Outcome.state_error, hview, ChatSession.encrypt_state]
    exact quiet_withSession hs _
  · have hstate := ChatSession.encrypt_state (P := P) s app.store.identity app.store.deviceId
      (asBytes line) draws.now
    rw [henc, Outcome.state_ok] at hstate
    rw [hrun, Outcome.state_ok, hview, hstate]
    refine (quiet_withSession hs _).trans
      ⟨rfl, rfl, hrunning.symm, fun s hs => ⟨s.ratchet, hs⟩, [⟨peer, envelope⟩], rfl, ?_⟩
    intro out hout
    rw [List.mem_singleton.mp hout]
    exact kind_of_encrypt P henc

/-- A session that cannot send yet refuses the line, and the view stays. -/
theorem keeps_sendLine {app : App B} (hrunning : app.node.running = true)
    (hmute : ∀ s, app.session = some s → s.ratchet.Mute) (line : String) (draws : Draws B) :
    Keeps app (Outcome.state (sendLine P line draws app)) := by
  rcases sendLine_cases P hrunning line draws with
    ⟨-, hrun⟩ | ⟨s, peer, hs, -, ⟨e, app', hrun, hview⟩ | ⟨envelope, s', app', henc, hrun, hview⟩⟩
  · rw [hrun]
    exact .refl _
  · obtain ⟨e', hrefused⟩ := ChatSession.encrypt_mute P (hmute s hs) app.store.identity
      app.store.deviceId (asBytes line) draws.now
    rw [hrefused, Outcome.state_error, ← hs] at hview
    rw [hrun]
    exact hview
  · obtain ⟨e', hrefused⟩ := ChatSession.encrypt_mute P (hmute s hs) app.store.identity
      app.store.deviceId (asBytes line) draws.now
    rw [hrefused] at henc
    cases henc

variable [DecidableEq (B X25519_PUBLIC_KEY_SIZE)]

omit [Serde (SessionKeys B)] [Serde (RatchetSnapshot B)] [Serde (HybridSignature B)]
  [Serde (RatchetMessageHeader B)] [DecidableEq (B X25519_PUBLIC_KEY_SIZE)] in
theorem live_of_session [Serde (SessionKeys B)] [Serde (RatchetSnapshot B)] {app : App B}
    {s : ChatSession B} (hsession : app.session = some s) (id : String) :
    app.live id = .ok (some s) := by
  unfold live
  rw [hsession]

/-- With a session at hand and a conversation that the database takes, the chat
arm leaves the session as `decrypt` does. -/
theorem view_onChat {app : App B} {s : ChatSession B} (hsession : app.session = some s)
    {envelope : NetworkEnvelope} {id : String} (hutf8 : fromUtf8 envelope.conversationId = some id)
    (hid : Database.Bindable id) (draws : Draws B) :
    (Outcome.state (onChat P envelope draws app)).view =
      { app.view with session := some (Outcome.state (s.decrypt P envelope)) } := by
  rw [onChat_eq, hutf8]
  simp only [live_of_session hsession, hid, if_true]
  cases s.decrypt P envelope with
  | error e s' => rfl
  | ok text s' =>
    simp only
    cases s'.persist (app.store.recorded P id s.peerIdentity false draws.now).db draws.now with
    | error e => rfl
    | ok db =>
      exact keeps_storeIncoming P id envelope draws.messageNonce draws.now { app with
        store := (app.store.recorded P id s.peerIdentity false draws.now).persisted s' draws.now
        session := some s' }

/-- In any case it keeps the view or leaves the session as `decrypt` does. -/
theorem onChat_cases {app : App B} {s : ChatSession B} (hsession : app.session = some s)
    (envelope : NetworkEnvelope) (draws : Draws B) :
    Keeps app (Outcome.state (onChat P envelope draws app)) ∨
      (Outcome.state (onChat P envelope draws app)).view =
        { app.view with session := some (Outcome.state (s.decrypt P envelope)) } := by
  cases hutf8 : fromUtf8 envelope.conversationId with
  | none =>
    rw [onChat_eq, hutf8]
    exact Or.inl rfl
  | some id =>
    by_cases hid : Database.Bindable id
    · exact Or.inr (view_onChat P hsession hutf8 hid draws)
    · refine Or.inl ?_
      rw [onChat_eq, hutf8]
      simp only [live_of_session hsession, hid, if_false]
      show View.mk _ _ _ _ _ _ = View.mk _ _ _ _ _ _
      rw [Outcome.state_error, hsession]

/-- A text that does not open stops the arm. -/
theorem not_isOk_onChat {app : App B} {s s' : ChatSession B} {e : AppError}
    (hsession : app.session = some s) {envelope : NetworkEnvelope}
    (hdecrypt : s.decrypt P envelope = .error e s') (draws : Draws B) :
    ¬ Outcome.IsOk (onChat P envelope draws app) := by
  rw [onChat_eq]
  cases fromUtf8 envelope.conversationId with
  | none => exact id
  | some id =>
    simp only [live_of_session hsession, hdecrypt]
    split <;> exact fun h => h

/-- Either way it is quiet. -/
theorem quiet_onChat {app : App B} {s : ChatSession B} (hsession : app.session = some s)
    (envelope : NetworkEnvelope) (draws : Draws B) :
    app.view.Quiet (Outcome.state (onChat P envelope draws app)).view := by
  rcases onChat_cases P hsession envelope draws with hkept | hmoved
  · rw [show (Outcome.state (onChat P envelope draws app)).view = _ from hkept]
    exact .refl _
  · obtain ⟨r, hr⟩ := ChatSession.exists_decrypt_state (P := P) s envelope
    rw [hmoved, hr]
    exact quiet_withSession hsession r

end Chats

end App

/-! ## A turn of the loop -/

section Turns

variable (P : Primitives B) [Serde (HybridSignature B)] [Serde (RatchetMessageHeader B)]
  [Serde (PreKeyBundle B)] [Serde (PqxdhPrekeyMessage B)] [Serde (GroupKeyDistribution B)]
  [Serde (SessionKeys B)] [Serde (RatchetSnapshot B)] [Serde SenderKeyMessage]
  [DecidableEq (B X25519_PUBLIC_KEY_SIZE)]

omit [Serde (PreKeyBundle B)] [Serde (PqxdhPrekeyMessage B)] [Serde (GroupKeyDistribution B)]
  [DecidableEq (B X25519_PUBLIC_KEY_SIZE)] in
theorem handleCommand_chat {line text : String} (hline : Command.ofLine line = .chat text)
    (draws : Draws B) (app : App B) :
    handleCommand P line draws app =
      (App.sendLine P text draws >>= fun _ => pure true) app := by
  unfold handleCommand
  rw [hline]

omit [Serde (PreKeyBundle B)] [Serde (PqxdhPrekeyMessage B)] [Serde (GroupKeyDistribution B)]
  [DecidableEq (B X25519_PUBLIC_KEY_SIZE)] in
/-- The other commands keep the view. -/
theorem keeps_handleCommand {line : String} (hline : ∀ text, Command.ofLine line ≠ .chat text)
    (draws : Draws B) : Outcome.Moves App.Keeps (handleCommand P line draws) := by
  unfold handleCommand
  cases hcommand : Command.ofLine line with
  | quit => exact App.moves_pure App.Keeps.refl _
  | info => exact App.moves_pure App.Keeps.refl _
  | history =>
    refine .bind App.Keeps.trans (App.moves_get App.Keeps.refl) fun app => ?_
    refine .bind App.Keeps.trans (App.moves_attempt App.Keeps.refl _) fun _ => ?_
    refine .bind App.Keeps.trans (App.moves_attempt App.Keeps.refl _) fun _ => ?_
    exact App.moves_pure App.Keeps.refl _
  | group text =>
    refine .bind App.Keeps.trans (App.moves_get App.Keeps.refl) fun app => ?_
    cases app.group.sender with
    | none => exact App.moves_pure App.Keeps.refl _
    | some keys =>
      refine .bind App.Keeps.trans (App.keeps_publish P text _) fun _ => ?_
      exact App.moves_pure App.Keeps.refl _
  | chat text => exact absurd hcommand (hline text)

/-- An input of the node itself: anything but a direct message. -/
def Input.Local : Input B → Prop
  | .event (.directMessage _ _) _ => False
  | _ => True

/-- A line that is a chat text and no command. -/
def Input.ChatLine (input : Input B) (text : String) (draws : Draws B) : Prop :=
  ∃ line, input = .line line draws ∧ line ≠ "" ∧ Command.ofLine line = .chat text

/-- The loop has no bundle request to send when a peer connects. -/
def LoopState.Settled (state : LoopState B) : Prop :=
  state.app.initiator = none ∨ state.app.session ≠ none ∨ state.handshakeStarted = true

namespace RunLoop

omit [Serde (RatchetMessageHeader B)] [Serde (PreKeyBundle B)] [Serde (PqxdhPrekeyMessage B)]
  [Serde (GroupKeyDistribution B)] [Serde (SessionKeys B)] [Serde (RatchetSnapshot B)]
  [Serde SenderKeyMessage] [DecidableEq (B X25519_PUBLIC_KEY_SIZE)] in
/-- Such a loop only notes the peer. -/
theorem onPeerConnected_settled {state : LoopState B} (h : state.Settled) (peer : PeerId)
    (now : Int) :
    onPeerConnected P peer now state =
      .ok () { state with app := { state.app with peer := state.app.peer.or (some peer) } } := by
  refine (Outcome.bind_ok rfl).trans ((Outcome.bind_ok rfl).trans ?_)
  obtain ⟨⟨store, node, initiator, responder, session, group, known, last⟩, started⟩ := state
  cases initiator with
  | none => rfl
  | some driver =>
    rcases h with h | h | h
    · cases h
    · cases session with
      | none => exact absurd rfl h
      | some s => rfl
    · cases h
      cases session <;> rfl

/-- The first connection of an initiator without a session. -/
theorem turn_connection {state : LoopState B} {driver : InitiatorHandshake B}
    (hstarted : state.handshakeStarted = false) (hdriver : state.app.initiator = some driver)
    (hsession : state.app.session = none) (hrunning : state.app.node.running = true)
    (peer : PeerId) (draws : Draws B) :
    turn P state (.event (.peerConnected peer) draws) =
      { state :=
          { app := (state.app.noted peer).handedOver driver.peer
              (driver.requestBundle P draws.now).envelope
            handshakeStarted := true }
        returned := none } := by
  obtain ⟨⟨store, node, initiator, responder, session, group, known, last⟩, started⟩ := state
  cases hstarted
  cases hdriver
  cases hsession
  obtain ⟨running, sent⟩ := node
  cases hrunning
  rfl

omit [Serde (HybridSignature B)] [Serde (RatchetMessageHeader B)] [Serde (PreKeyBundle B)]
  [Serde (PqxdhPrekeyMessage B)] [Serde (GroupKeyDistribution B)] [Serde (SessionKeys B)]
  [Serde (RatchetSnapshot B)] [Serde SenderKeyMessage] [DecidableEq (B X25519_PUBLIC_KEY_SIZE)] in
theorem state_onApp {α : Type} (step : AppM B α) (state : LoopState B) :
    Outcome.state (onApp step state) = { state with app := Outcome.state (step state.app) } := by
  unfold onApp
  cases step state.app <;> rfl

omit [Serde (HybridSignature B)] [Serde (RatchetMessageHeader B)] [Serde (PreKeyBundle B)]
  [Serde (PqxdhPrekeyMessage B)] [Serde (GroupKeyDistribution B)] [Serde (SessionKeys B)]
  [Serde (RatchetSnapshot B)] [Serde SenderKeyMessage] [DecidableEq (B X25519_PUBLIC_KEY_SIZE)] in
theorem keeps_onApp {α : Type} {step : AppM B α} (h : Outcome.Moves App.Keeps step)
    (state : LoopState B) :
    (Outcome.state (onApp step state)).handshakeStarted = state.handshakeStarted ∧
      App.Keeps state.app (Outcome.state (onApp step state)).app := by
  rw [state_onApp]
  exact ⟨rfl, h state.app⟩

theorem state_handleEvent (event : Network.NodeEvent) (draws : Draws B) (state : LoopState B) :
    Outcome.state (handleEvent P event draws state) =
      Outcome.state (dispatch P draws event state) := by
  unfold handleEvent
  rw [Outcome.bind_eq]
  cases dispatch P draws event state <;> rfl

/-- An input of the node that is no chat line keeps the view.  Only a connection
may ask for more. -/
theorem turn_other {state : LoopState B} {input : Input B} (hlocal : input.Local)
    (hother : ∀ text draws, ¬ input.ChatLine text draws)
    (hsettled : ∀ peer draws, input = .event (.peerConnected peer) draws → state.Settled) :
    (turn P state input).state.handshakeStarted = state.handshakeStarted ∧
      App.Keeps state.app (turn P state input).state.app := by
  cases input with
  | endOfInput => exact ⟨rfl, rfl⟩
  | channelClosed => exact ⟨rfl, rfl⟩
  | line line draws =>
    by_cases hempty : line = ""
    · rw [show turn P state (.line line draws) = { state, returned := none } from if_pos hempty]
      exact ⟨rfl, rfl⟩
    · have hcommand : ∀ text, Command.ofLine line ≠ .chat text := fun text h =>
        hother text draws ⟨line, rfl, hempty, h⟩
      rw [state_turn_line P state hempty, state_onApp]
      exact ⟨rfl, keeps_handleCommand P hcommand draws state.app⟩
  | event event draws =>
    rw [state_turn_event, state_handleEvent]
    cases event with
    | listen address => exact ⟨rfl, rfl⟩
    | peerConnected peer =>
      have hrun : dispatch P draws (.peerConnected peer) state = _ :=
        onPeerConnected_settled P (hsettled peer draws rfl) peer draws.now
      rw [hrun]
      exact ⟨rfl, rfl⟩
    | peerDisconnected peer => exact ⟨rfl, rfl⟩
    | peerDiscovered peer address => exact ⟨rfl, rfl⟩
    | directMessage sender envelope => exact absurd hlocal id
    | directDelivered receiver conversationId status =>
      exact keeps_onApp (App.keeps_settle _) state
    | directFailed receiver error => exact keeps_onApp (App.keeps_settle _) state
    | gossipMessage sender topic envelope =>
      exact keeps_onApp (App.keeps_onGossip P envelope draws) state

theorem turn_chat {state : LoopState B} {input : Input B} {text : String} {draws : Draws B}
    (h : input.ChatLine text draws) :
    turn P state input =
      follow (onApp (App.sendLine P text draws >>= fun _ => pure true) state) := by
  obtain ⟨line, rfl, hline, hchat⟩ := h
  refine (if_neg hline).trans ?_
  unfold onApp
  rw [handleCommand_chat P hchat]

theorem state_turn_chat {state : LoopState B} {input : Input B} {text : String} {draws : Draws B}
    (h : input.ChatLine text draws) :
    (turn P state input).state =
      { state with app := Outcome.state (App.sendLine P text draws state.app) } := by
  rw [turn_chat P h, state_follow, state_onApp, Outcome.bind_eq]
  cases App.sendLine P text draws state.app <;> rfl

/-- A line that fails ends the loop. -/
theorem returned_turn_chat {state : LoopState B} {input : Input B} {text : String}
    {draws : Draws B} (h : input.ChatLine text draws) {e : AppError} {app : App B}
    (herror : App.sendLine P text draws state.app = .error e app) :
    (turn P state input).returned ≠ none := by
  rw [turn_chat P h]
  unfold onApp
  rw [Outcome.bind_error herror]
  nofun

/-- Every input of a settled node is quiet. -/
theorem quiet_turn {state : LoopState B} {input : Input B} (hlocal : input.Local)
    (hsettled : state.Settled) (hrunning : state.app.node.running = true) :
    (turn P state input).state.handshakeStarted = state.handshakeStarted ∧
      state.app.view.Quiet (turn P state input).state.app.view := by
  by_cases hchat : ∃ text draws, input.ChatLine text draws
  · obtain ⟨text, draws, hchat⟩ := hchat
    rw [state_turn_chat P hchat]
    exact ⟨rfl, App.quiet_sendLine P hrunning text draws⟩
  · obtain ⟨hstarted, hkept⟩ := turn_other P hlocal
      (fun text draws h => hchat ⟨text, draws, h⟩) fun _ _ _ => hsettled
    refine ⟨hstarted, ?_⟩
    rw [show (turn P state input).state.app.view = _ from hkept]
    exact .refl _

/-- A node whose session cannot send yet keeps its view. -/
theorem keeps_turn {state : LoopState B} {input : Input B} (hlocal : input.Local)
    (hsettled : ∀ peer draws, input = .event (.peerConnected peer) draws → state.Settled)
    (hrunning : state.app.node.running = true)
    (hmute : ∀ s, state.app.session = some s → s.ratchet.Mute) :
    (turn P state input).state.handshakeStarted = state.handshakeStarted ∧
      App.Keeps state.app (turn P state input).state.app := by
  by_cases hchat : ∃ text draws, input.ChatLine text draws
  · obtain ⟨text, draws, hchat⟩ := hchat
    rw [state_turn_chat P hchat]
    exact ⟨rfl, App.keeps_sendLine P hrunning hmute text draws⟩
  · exact turn_other P hlocal (fun text draws h => hchat ⟨text, draws, h⟩) hsettled

/-- A direct message is handled by `handle_direct`. -/
theorem state_turn_direct (state : LoopState B) (sender : PeerId) (envelope : NetworkEnvelope)
    (draws : Draws B) :
    (turn P state (.event (.directMessage sender envelope) draws)).state =
      { state with app := Outcome.state (App.handleDirect P sender envelope draws state.app) } := by
  rw [state_turn_event, state_handleEvent]
  exact state_onApp _ state

theorem returned_turn_direct (state : LoopState B) (sender : PeerId) (envelope : NetworkEnvelope)
    (draws : Draws B) :
    (turn P state (.event (.directMessage sender envelope) draws)).returned = none ↔
      Outcome.IsOk (App.handleDirect P sender envelope draws state.app) := by
  have hturn : turn P state (.event (.directMessage sender envelope) draws) =
      follow ((onApp (App.handleDirect P sender envelope draws) >>= fun _ => pure true) state) :=
    rfl
  rw [hturn, Outcome.bind_eq]
  unfold onApp
  cases App.handleDirect P sender envelope draws state.app with
  | ok _ app => exact iff_of_true rfl trivial
  | error e app => exact iff_of_false nofun id

end RunLoop

end Turns

/-! ## The two nodes -/

/-- What a user gets to read of the 1:1 chat. -/
inductive Printed where
  /-- A line that was sent. -/
  | sent (line : String)
  /-- A text that has arrived. -/
  | received (sender : PeerId) (text : Bytes)
  deriving DecidableEq

section Printing

variable (P : Primitives B) [Serde (HybridSignature B)] [Serde (RatchetMessageHeader B)]
  [Serde (SessionKeys B)] [Serde (RatchetSnapshot B)]

/-- A line is printed when all of its steps are done.  Without a session or a
peer there is a notice in its place. -/
def App.printsLine (app : App B) (line : String) (draws : Draws B) : List Printed :=
  match app.session, app.peer, sendLine P line draws app with
  | some _, some _, .ok _ _ => [.sent line]
  | _, _, _ => []

theorem App.printsLine_idle {app : App B} (h : app.session = none ∨ app.peer = none)
    (line : String) (draws : Draws B) : app.printsLine P line draws = [] := by
  unfold printsLine
  rcases h with h | h
  · rw [h]
  · rw [h]
    cases app.session <;> rfl

theorem App.printsLine_error {app app' : App B} {e : AppError} {line : String} {draws : Draws B}
    (h : sendLine P line draws app = .error e app') : app.printsLine P line draws = [] := by
  unfold printsLine
  rw [h]
  cases app.session <;> cases app.peer <;> rfl

theorem App.printsLine_ok {app app' : App B} {s : ChatSession B} {peer : PeerId}
    (hs : app.session = some s) (hpeer : app.peer = some peer) {line : String} {draws : Draws B}
    (h : sendLine P line draws app = .ok () app') : app.printsLine P line draws = [.sent line] := by
  unfold printsLine
  rw [hs, hpeer, h]

/-- A session that cannot send yet prints no line. -/
theorem App.printsLine_mute {app : App B} (hmute : ∀ s, app.session = some s → s.ratchet.Mute)
    (line : String) (draws : Draws B) : app.printsLine P line draws = [] := by
  cases hs : app.session with
  | none => exact printsLine_idle P (Or.inl hs) line draws
  | some s =>
    cases hpeer : app.peer with
    | none => exact printsLine_idle P (Or.inr hpeer) line draws
    | some peer =>
      obtain ⟨e, hrefused⟩ := ChatSession.encrypt_mute P (hmute s hs) app.store.identity
        app.store.deviceId (asBytes line) draws.now
      have hline := sendLine_live P hs hpeer line draws
      rw [hrefused] at hline
      exact printsLine_error P hline

variable [DecidableEq (B X25519_PUBLIC_KEY_SIZE)]

/-- A text that opens is printed, unless the database refuses the session. -/
theorem App.readChat_ok {app : App B} {s s' : ChatSession B} {envelope : NetworkEnvelope}
    {text : Bytes} (hsession : app.session = some s)
    (hutf8 : fromUtf8 envelope.conversationId = some s.conversationId)
    (hid : Database.Bindable s.conversationId) (hdecrypt : s.decrypt P envelope = .ok text s')
    (now : Int) : ∃ app', App.readChat P envelope now app = .ok (s.conversationId, text) app' := by
  obtain ⟨r, hr⟩ := ChatSession.exists_decrypt_state (P := P) s envelope
  rw [hdecrypt, Outcome.state_ok] at hr
  subst hr
  have hstorable : ({ s with ratchet := r } : ChatSession B).Storable
      (app.store.recorded P s.conversationId s.peerIdentity false now).db := by
    refine ⟨hid, ?_⟩
    rw [NodeStore.hasConversation_recorded]
    simp
  rw [App.readChat_eq, hutf8]
  simp only [live_of_session hsession, hid, if_true, hdecrypt, ChatSession.persist_ok hstorable]
  exact ⟨_, rfl⟩

/-- A text that does not open is not printed. -/
theorem App.readChat_error {app : App B} {s s' : ChatSession B} {e : AppError}
    {envelope : NetworkEnvelope} (hsession : app.session = some s)
    (hdecrypt : s.decrypt P envelope = .error e s') (now : Int) :
    ∃ e' app', App.readChat P envelope now app = .error e' app' := by
  rw [App.readChat_eq]
  cases fromUtf8 envelope.conversationId with
  | none => exact ⟨_, _, rfl⟩
  | some id =>
    simp only [live_of_session hsession, hdecrypt]
    split <;> exact ⟨_, _, rfl⟩

/-- What a text is printed for. -/
def App.printsDirect (app : App B) (sender : PeerId) (envelope : NetworkEnvelope)
    (draws : Draws B) : List Printed :=
  match envelope.arm, (notePeer sender >>= fun _ => readChat P envelope draws.now) app with
  | .chat, .ok read _ => [.received sender read.2]
  | _, _ => []

theorem App.printsDirect_other {app : App B} {envelope : NetworkEnvelope}
    (harm : envelope.arm ≠ .chat) (sender : PeerId) (draws : Draws B) :
    app.printsDirect P sender envelope draws = [] := by
  unfold printsDirect
  cases h : envelope.arm with
  | chat => exact absurd h harm
  | _ => rfl

theorem App.printsDirect_chat {app : App B} {envelope : NetworkEnvelope} {sender : PeerId}
    {draws : Draws B} {id : String} {text : Bytes} {app' : App B} (harm : envelope.arm = .chat)
    (h : readChat P envelope draws.now (app.noted sender) = .ok (id, text) app') :
    app.printsDirect P sender envelope draws = [.received sender text] := by
  have hread : (notePeer sender >>= fun _ => readChat P envelope draws.now) app =
      .ok (id, text) app' :=
    (Outcome.bind_ok rfl).trans h
  unfold printsDirect
  rw [harm, hread]

theorem App.printsDirect_refused {app : App B} {envelope : NetworkEnvelope} {sender : PeerId}
    {draws : Draws B} {e : AppError} {app' : App B}
    (h : readChat P envelope draws.now (app.noted sender) = .error e app') :
    app.printsDirect P sender envelope draws = [] := by
  have hread : (notePeer sender >>= fun _ => readChat P envelope draws.now) app = .error e app' :=
    (Outcome.bind_ok rfl).trans h
  unfold printsDirect
  rw [hread]
  cases envelope.arm <;> rfl

/-- What a loop prints for an input. -/
def RunLoop.prints (loop : RunLoop B) (input : Input B) : List Printed :=
  match loop.returned, input with
  | none, .line line draws =>
    match Command.ofLine line with
    | .chat text => if line = "" then [] else loop.state.app.printsLine P text draws
    | _ => []
  | none, .event (.directMessage sender envelope) draws =>
    loop.state.app.printsDirect P sender envelope draws
  | _, _ => []

namespace RunLoop

variable {loop : RunLoop B} {input : Input B}

theorem prints_other (hlocal : input.Local) (hother : ∀ text draws, ¬ input.ChatLine text draws) :
    loop.prints P input = [] := by
  unfold prints
  cases loop.returned with
  | some _ => rfl
  | none =>
    cases input with
    | endOfInput => rfl
    | channelClosed => rfl
    | event event draws =>
      cases event with
      | directMessage sender envelope => exact absurd hlocal id
      | _ => rfl
    | line line draws =>
      cases hcommand : Command.ofLine line with
      | chat text =>
        by_cases hempty : line = ""
        · simp only [hcommand, if_pos hempty]
        · exact absurd ⟨line, rfl, hempty, hcommand⟩ (hother text draws)
      | _ => simp only [hcommand]

theorem prints_chat (hreturned : loop.returned = none) {text : String} {draws : Draws B}
    (h : input.ChatLine text draws) :
    loop.prints P input = loop.state.app.printsLine P text draws := by
  obtain ⟨line, rfl, hline, hchat⟩ := h
  unfold prints
  simp only [hreturned, hchat, hline, if_false]

theorem prints_direct (hreturned : loop.returned = none) (sender : PeerId)
    (envelope : NetworkEnvelope) (draws : Draws B) :
    loop.prints P (.event (.directMessage sender envelope) draws) =
      loop.state.app.printsDirect P sender envelope draws := by
  unfold prints
  rw [hreturned]

/-- Without a session that can send, no input of the node prints anything. -/
theorem prints_mute (hlocal : input.Local)
    (hmute : ∀ s, loop.state.app.session = some s → s.ratchet.Mute) :
    loop.prints P input = [] := by
  by_cases hchat : ∃ text draws, input.ChatLine text draws
  · obtain ⟨text, draws, hchat⟩ := hchat
    cases hreturned : loop.returned with
    | none => rw [prints_chat P hreturned hchat, App.printsLine_mute P hmute]
    | some _ =>
      unfold prints
      rw [hreturned]
  · exact prints_other P hlocal fun text draws h => hchat ⟨text, draws, h⟩

end RunLoop

end Printing

/-- Two nodes with the network between them. -/
structure Duo (B : Nat → Type) where
  loop : Side → RunLoop B
  /-- The messages that have reached a side, by their number among those that
  its peer has sent. -/
  arrived : Side → List Nat
  screen : Side → List Printed

namespace Duo

inductive Event (B : Nat → Type) where
  /-- A loop takes an input of its own node. -/
  | turn (s : Side) (input : Input B)
  /-- Message number `k` of the peer reaches a side. -/
  | deliver (s : Side) (k : Nat) (draws : Draws B)

/-- An initiator and a responder before their first input. -/
def start (initiator responder : App B) : Duo B where
  loop
    | .first => .start initiator
    | .second => .start responder
  arrived _ := []
  screen _ := []

def view (d : Duo B) (s : Side) : View B := (d.loop s).state.app.view

/-- The lines that a user has sent. -/
def said (d : Duo B) (s : Side) : List String :=
  (d.screen s).filterMap fun
    | .sent line => some line
    | .received _ _ => none

/-- The texts that a user has received. -/
def shown (d : Duo B) (s : Side) : List Bytes :=
  (d.screen s).filterMap fun
    | .sent _ => none
    | .received _ text => some text

/-- Message number `k` of the peer of a side, if it is addressed to that side. -/
def inbound (ids : Side → PeerId) (d : Duo B) (s : Side) (k : Nat) : Option NetworkEnvelope :=
  (d.view s.peer).node.sent[k]?.bind fun out =>
    if out.peer = ids s then some out.envelope else none

theorem inbound_eq_some {ids : Side → PeerId} {d : Duo B} {s : Side} {k : Nat}
    {envelope : NetworkEnvelope} (h : d.inbound ids s k = some envelope) :
    (d.view s.peer).node.sent[k]? = some ⟨ids s, envelope⟩ := by
  obtain ⟨out, hout, hpeer⟩ := Option.bind_eq_some_iff.mp h
  split at hpeer
  next haddressed =>
    cases hpeer
    rw [hout, ← haddressed]
  next => cases hpeer

section Machine

variable (P : Primitives B) [Serde (HybridSignature B)] [Serde (RatchetMessageHeader B)]
  [Serde (PreKeyBundle B)] [Serde (PqxdhPrekeyMessage B)] [Serde (GroupKeyDistribution B)]
  [Serde (SessionKeys B)] [Serde (RatchetSnapshot B)] [Serde SenderKeyMessage]
  [DecidableEq (B X25519_PUBLIC_KEY_SIZE)]

/-- A message has reached a side. -/
def note (d : Duo B) (s : Side) (k : Nat) : Duo B :=
  { d with arrived := Function.update d.arrived s (d.arrived s ++ [k]) }

/-- The loop of a side takes an input. -/
def take (d : Duo B) (s : Side) (input : Input B) : Duo B :=
  { d with
    loop := Function.update d.loop s ((d.loop s).step P input)
    screen := Function.update d.screen s (d.screen s ++ (d.loop s).prints P input) }

def step (ids : Side → PeerId) (d : Duo B) : Event B → Duo B
  | .turn s input => d.take P s input
  | .deliver s k draws =>
    match d.inbound ids s k with
    | none => d
    | some envelope =>
      (d.take P s (.event (.directMessage (ids s.peer) envelope) draws)).note s k

/-- The loop is running.  Every direct message comes from the other node, and
only once.  A chat message whose first byte is one of the markers would be taken
for a handshake message: such a message does not arrive. -/
def Enabled (ids : Side → PeerId) (d : Duo B) : Event B → Prop
  | .turn s input => (d.loop s).returned = none ∧ input.Local
  | .deliver s k _ => (d.loop s).returned = none ∧ k ∉ d.arrived s ∧
    ∃ envelope ∈ d.inbound ids s k, envelope.kind = KIND_DIRECT → envelope.arm = .chat

instance decidableLocal : (input : Input B) → Decidable input.Local
  | .event (.directMessage _ _) _ => .isFalse id
  | .event (.listen _) _ => .isTrue trivial
  | .event (.peerConnected _) _ => .isTrue trivial
  | .event (.peerDisconnected _) _ => .isTrue trivial
  | .event (.peerDiscovered _ _) _ => .isTrue trivial
  | .event (.directDelivered _ _ _) _ => .isTrue trivial
  | .event (.directFailed _ _) _ => .isTrue trivial
  | .event (.gossipMessage _ _ _) _ => .isTrue trivial
  | .line _ _ => .isTrue trivial
  | .endOfInput => .isTrue trivial
  | .channelClosed => .isTrue trivial

instance decidableEnabled (ids : Side → PeerId) (d : Duo B) :
    (event : Event B) → Decidable (Enabled ids d event)
  | .turn s input =>
    inferInstanceAs (Decidable ((d.loop s).returned = none ∧ input.Local))
  | .deliver s k _ =>
    inferInstanceAs (Decidable ((d.loop s).returned = none ∧ k ∉ d.arrived s ∧
      ∃ envelope ∈ d.inbound ids s k, envelope.kind = KIND_DIRECT → envelope.arm = .chat))

def machine (ids : Side → PeerId) : Machine (Duo B) (Event B) where
  step := step P ids
  Enabled := Enabled ids

instance (ids : Side → PeerId) (d : Duo B) (event : Event B) :
    Decidable ((machine P ids).Enabled d event) := decidableEnabled ids d event

variable {P} {ids : Side → PeerId} {d : Duo B} {s : Side}

theorem take_loop_self {input : Input B} (h : (d.loop s).returned = none) :
    (d.take P s input).loop s = RunLoop.turn P (d.loop s).state input := by
  show Function.update d.loop s ((d.loop s).step P input) s = _
  rw [Function.update_self]
  unfold RunLoop.step
  rw [h]

theorem take_loop_peer {input : Input B} {t : Side} (h : t ≠ s) :
    (d.take P s input).loop t = d.loop t := Function.update_of_ne h _ _

theorem take_screen_self {input : Input B} :
    (d.take P s input).screen s = d.screen s ++ (d.loop s).prints P input :=
  Function.update_self _ _ _

theorem take_screen_peer {input : Input B} {t : Side} (h : t ≠ s) :
    (d.take P s input).screen t = d.screen t := Function.update_of_ne h _ _

theorem step_deliver {k : Nat} {draws : Draws B} {envelope : NetworkEnvelope}
    (h : d.inbound ids s k = some envelope) :
    step P ids d (.deliver s k draws) =
      (d.take P s (.event (.directMessage (ids s.peer) envelope) draws)).note s k := by
  show (match d.inbound ids s k with
    | none => d
    | some envelope => _) = _
  rw [h]

/-- A delivery is handled by `handle_direct` on its side, and the other side does
not notice it. -/
theorem view_deliver_self {k : Nat} {draws : Draws B} {envelope : NetworkEnvelope}
    (h : d.inbound ids s k = some envelope) (hreturned : (d.loop s).returned = none) :
    (step P ids d (.deliver s k draws)).view s =
      (Outcome.state (App.handleDirect P (ids s.peer) envelope draws
        (d.loop s).state.app)).view := by
  rw [step_deliver h]
  show ((d.take P s _).loop s).state.app.view = _
  rw [take_loop_self hreturned, RunLoop.state_turn_direct]

theorem view_deliver_peer {k : Nat} {draws : Draws B} {envelope : NetworkEnvelope}
    (h : d.inbound ids s k = some envelope) :
    (step P ids d (.deliver s k draws)).view s.peer = d.view s.peer := by
  rw [step_deliver h]
  show ((d.take P s _).loop s.peer).state.app.view = _
  rw [take_loop_peer s.peer_ne]
  rfl

theorem screen_deliver {k : Nat} {draws : Draws B} {envelope : NetworkEnvelope}
    {printed : List Printed} (hin : d.inbound ids s k = some envelope)
    (hreturned : (d.loop s).returned = none)
    (hprints : (d.loop s).state.app.printsDirect P (ids s.peer) envelope draws = printed) :
    (step P ids d (.deliver s k draws)).screen =
      Function.update d.screen s (d.screen s ++ printed) := by
  rw [step_deliver hin]
  show (d.take P s _).screen = _
  unfold take
  rw [RunLoop.prints_direct P hreturned, hprints]

theorem returned_deliver {k : Nat} {draws : Draws B} {envelope : NetworkEnvelope}
    (hin : d.inbound ids s k = some envelope) (hreturned : (d.loop s).returned = none) :
    ((step P ids d (.deliver s k draws)).loop s).returned = none ↔
      Outcome.IsOk (App.handleDirect P (ids s.peer) envelope draws (d.loop s).state.app) := by
  rw [step_deliver hin]
  show ((d.take P s _).loop s).returned = none ↔ _
  rw [take_loop_self hreturned, RunLoop.returned_turn_direct]

theorem loop_deliver_peer {k : Nat} {draws : Draws B} {envelope : NetworkEnvelope}
    (hin : d.inbound ids s k = some envelope) :
    (step P ids d (.deliver s k draws)).loop s.peer = d.loop s.peer := by
  rw [step_deliver hin]
  exact take_loop_peer s.peer_ne

theorem arrived_deliver {k : Nat} {draws : Draws B} {envelope : NetworkEnvelope}
    (h : d.inbound ids s k = some envelope) :
    (step P ids d (.deliver s k draws)).arrived =
      Function.update d.arrived s (d.arrived s ++ [k]) := by
  rw [step_deliver h]
  rfl

end Machine

end Duo
end Presidium
