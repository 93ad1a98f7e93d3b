import Presidium.Demo.App

/-!
# The exits of `handle_direct`

One equation for each arm of `handle_direct`.  It lists the exits of the arm in
the order of the source, each with what the arm has already written when it
gets there.

Every write of the database is a total function here.  `recorded` and
`persisted` are the store after the row of a conversation and after the row of
a session.  The statements fail on a text that the binding layer refuses, on a
row without its conversation and on a message id that is already there.
-/

namespace Presidium

variable {B : Nat → Type}

/-! ## The statements -/

namespace NodeStore

variable (P : Primitives B)

/-- The row of a conversation. -/
def conversationRow (id : String) (peer : IdentityPublicKey B) (isGroup : Bool) (now : Int) :
    ConversationRecord :=
  { id
    peerClassical := P.toVec peer.classical
    peerPq := P.toVec peer.pq
    isGroup
    createdAt := now }

/-- The store after `upsert_conversation`. -/
def recorded (store : NodeStore B) (id : String) (peer : IdentityPublicKey B) (isGroup : Bool)
    (now : Int) : NodeStore B :=
  { store with db := store.db.withConversation (conversationRow P id peer isGroup now) }

/-- The error of `upsert_conversation`. -/
def unbindable : AppError :=
  .storage "upsert conversation" (.database "text param contains a NUL byte")

theorem upsertConversation_ok {id : String} (h : Database.Bindable id) (store : NodeStore B)
    (peer : IdentityPublicKey B) (isGroup : Bool) (now : Int) :
    store.upsertConversation P id peer isGroup now =
      .ok (store.recorded P id peer isGroup now) := by
  unfold upsertConversation
  rw [Database.upsertConversation_ok h]
  rfl

theorem upsertConversation_error {id : String} (h : ¬ Database.Bindable id)
    (store : NodeStore B) (peer : IdentityPublicKey B) (isGroup : Bool) (now : Int) :
    store.upsertConversation P id peer isGroup now = .error unbindable := by
  unfold upsertConversation
  rw [Database.upsertConversation_error h]
  rfl

theorem hasConversation_recorded (store : NodeStore B) (id : String)
    (peer : IdentityPublicKey B) (isGroup : Bool) (now : Int) (id' : String) :
    (store.recorded P id peer isGroup now).db.hasConversation id' =
      (store.db.hasConversation id' || id == id') :=
  Database.hasConversation_withConversation ..

/-- The row of a message, before it has an id. -/
def messageRow (conversationId : String) (messageId : Bytes) (sender : IdentityPublicKey B)
    (ciphertext : Bytes) (header : String) (direction : MessageDirection) (now : Int) :
    MessageRecord :=
  { id := 0
    conversationId
    messageId
    senderClassical := P.toVec sender.classical
    ciphertext
    header
    contentType := 0
    direction
    status := if direction = .incoming then .delivered else .sent
    createdAt := now }

section Insert

variable {P} {store : NodeStore B} {conversationId : String} {messageId : Bytes}
  {sender : IdentityPublicKey B} {ciphertext : Bytes} {header : String}
  {direction : MessageDirection} {now : Int}

theorem insertMessage_ok
    (h : store.db.Accepts
      (messageRow P conversationId messageId sender ciphertext header direction now)) :
    store.insertMessage P conversationId messageId sender ciphertext header direction now =
      .ok ({ store with
          db := store.db.withMessage
            (messageRow P conversationId messageId sender ciphertext header direction now) },
        store.db.lastRowId + 1) := by
  unfold insertMessage
  have hdb := Database.insertMessage_ok h
  unfold messageRow at hdb
  rw [hdb]
  rfl

theorem insertMessage_eq_ok {store' : NodeStore B} {row : Int}
    (h : store.insertMessage P conversationId messageId sender ciphertext header direction now =
      .ok (store', row)) :
    store.db.Accepts
        (messageRow P conversationId messageId sender ciphertext header direction now) ∧
      store' = { store with
        db := store.db.withMessage
          (messageRow P conversationId messageId sender ciphertext header direction now) } ∧
      row = store.db.lastRowId + 1 := by
  unfold insertMessage at h
  split at h
  next => cases h
  next db id hdb =>
    obtain ⟨haccepts, hwritten, hid⟩ := Database.insertMessage_eq_ok hdb
    cases h
    exact ⟨haccepts, by rw [hwritten]; rfl, hid⟩

end Insert

section Persist

variable [Serde (SessionKeys B)] [Serde (RatchetSnapshot B)]

/-- The store after `persist`. -/
def persisted (store : NodeStore B) (session : ChatSession B) (now : Int) : NodeStore B :=
  { store with db := store.db.withSession (session.row now) }

end Persist

end NodeStore

namespace App

/-! ## The steps -/

section Steps

variable {α : Type}

theorem attempt_ok (a : α) (app : App B) : attempt (.ok a) app = .ok a app := rfl

theorem required_some (text : String) (a : α) (app : App B) :
    required text (some a) app = .ok a app := rfl

theorem required_none (text : String) (app : App B) :
    (required text none : AppM B α) app = .error (.message text) app := rfl

theorem required_eq_ok {o : Option α} {a : α} (h : o = some a) (text : String) (app : App B) :
    required text o app = .ok a app := by
  rw [h]
  rfl

theorem text_ok {bytes : Bytes} {s : String} (h : fromUtf8 bytes = some s) (app : App B) :
    text bytes app = .ok s app := by
  unfold text
  rw [h]
  rfl

theorem text_error {bytes : Bytes} (h : fromUtf8 bytes = none) (app : App B) :
    text bytes app = .error .utf8 app := by
  unfold text
  rw [h]
  rfl

/-- The node has taken the envelope. -/
def handedOver (app : App B) (peer : PeerId) (envelope : NetworkEnvelope) : App B :=
  { app with node := { app.node with sent := app.node.sent ++ [⟨peer, envelope⟩] } }

theorem sendDirect_ok {app : App B} (h : app.node.running = true) (peer : PeerId)
    (envelope : NetworkEnvelope) :
    sendDirect peer envelope app = .ok () (app.handedOver peer envelope) := if_pos h

theorem sendDirect_error {app : App B} (h : ¬ app.node.running = true) (peer : PeerId)
    (envelope : NetworkEnvelope) : sendDirect peer envelope app = .error .notRunning app :=
  if_neg h

/-- Handing an envelope over concerns the node only. -/
theorem exists_sendDirect_state (peer : PeerId) (envelope : NetworkEnvelope) (app : App B) :
    ∃ node, Outcome.state (sendDirect peer envelope app) = { app with node } := by
  by_cases hrunning : app.node.running = true
  · rw [sendDirect_ok hrunning]
    exact ⟨_, rfl⟩
  · rw [sendDirect_error hrunning]
    exact ⟨app.node, rfl⟩

variable (P : Primitives B)

section Sync

variable [Serde (HybridSignature B)]

theorem sendSync_ok {app : App B} (h : app.node.running = true) (peer : PeerId) (marker : UInt8)
    (body : Bytes) (now : Int) :
    sendSync P peer marker body now app = .ok () (app.handedOver peer
      (syncEnvelope P app.store.identity app.store.deviceId marker body now)) :=
  sendDirect_ok h peer _

theorem sendSync_error {app : App B} (h : ¬ app.node.running = true) (peer : PeerId)
    (marker : UInt8) (body : Bytes) (now : Int) :
    sendSync P peer marker body now app = .error .notRunning app :=
  sendDirect_error h peer _

end Sync

/-- The statement that records a conversation. -/
theorem onStore_upsertConversation_ok {id : String} (h : Database.Bindable id)
    (peer : IdentityPublicKey B) (isGroup : Bool) (now : Int) (app : App B) :
    onStore (fun store => (store.upsertConversation P id peer isGroup now).map (·, ())) app =
      .ok () { app with store := app.store.recorded P id peer isGroup now } := by
  refine onStore_ok ?_
  rw [NodeStore.upsertConversation_ok P h]
  rfl

theorem onStore_upsertConversation_error {id : String} (h : ¬ Database.Bindable id)
    (peer : IdentityPublicKey B) (isGroup : Bool) (now : Int) (app : App B) :
    onStore (fun store => (store.upsertConversation P id peer isGroup now).map (·, ())) app =
      .error NodeStore.unbindable app := by
  refine onStore_error ?_
  rw [NodeStore.upsertConversation_error P h]
  rfl

theorem upsertConversation_ok {id : String} (h : Database.Bindable id)
    (peer : IdentityPublicKey B) (now : Int) (app : App B) :
    upsertConversation P id peer now app =
      .ok () { app with store := app.store.recorded P id peer false now } :=
  onStore_upsertConversation_ok P h peer false now app

theorem upsertConversation_error {id : String} (h : ¬ Database.Bindable id)
    (peer : IdentityPublicKey B) (now : Int) (app : App B) :
    upsertConversation P id peer now app = .error NodeStore.unbindable app :=
  onStore_upsertConversation_error P h peer false now app

theorem insertMessage_eq (conversationId : String) (sender : IdentityPublicKey B)
    (envelope : NetworkEnvelope) (direction : MessageDirection) (nonce : UInt32) (now : Int)
    (app : App B) :
    insertMessage P conversationId sender envelope direction nonce now app =
      match fromUtf8 envelope.nonce with
      | none => .error .utf8 app
      | some header =>
        match app.store.insertMessage P conversationId
            (messageIdBytes envelope.timestamp nonce) sender envelope.encryptedPayload header
            direction now with
        | .error e => .error e app
        | .ok (store, row) => .ok row { app with store } := by
  cases hheader : fromUtf8 envelope.nonce with
  | none => exact Outcome.bind_error (text_error hheader app)
  | some header =>
    refine (Outcome.bind_ok (text_ok hheader app)).trans ?_
    simp only
    cases hinsert : app.store.insertMessage P conversationId
        (messageIdBytes envelope.timestamp nonce) sender envelope.encryptedPayload header
        direction now with
    | error e => exact onStore_error hinsert
    | ok out => exact onStore_ok hinsert

variable [Serde (SessionKeys B)] [Serde (RatchetSnapshot B)]

theorem persist_storable {session : ChatSession B} {app : App B}
    (h : session.Storable app.store.db) (now : Int) :
    persist session now app = .ok () { app with store := app.store.persisted session now } :=
  persist_ok (ChatSession.persist_ok h now)

theorem persist_unstorable {session : ChatSession B} {app : App B}
    (h : ¬ session.Storable app.store.db) (now : Int) :
    ∃ e, persist session now app = .error e app := by
  obtain ⟨e, herror⟩ := ChatSession.persist_error h now
  exact ⟨e, persist_error herror⟩

/-- The application with another `sessions` table. -/
def withSessions (app : App B) (sessions : List SessionRow) : App B :=
  { app with store := { app.store with db := { app.store.db with sessions } } }

theorem exists_persist_state (session : ChatSession B) (now : Int) (app : App B) :
    ∃ sessions, Outcome.state (persist session now app) = app.withSessions sessions := by
  by_cases hstorable : session.Storable app.store.db
  · rw [persist_storable hstorable]
    exact ⟨_, rfl⟩
  · obtain ⟨e, herror⟩ := persist_unstorable hstorable now
    rw [herror]
    exact ⟨app.store.db.sessions, rfl⟩

/-- A discarded `persist` concerns the `sessions` table only. -/
theorem exists_persistQuietly_eq (now : Int) (app : App B) :
    ∃ sessions, persistQuietly now app = .ok () (app.withSessions sessions) := by
  unfold persistQuietly
  split
  next => exact ⟨app.store.db.sessions, rfl⟩
  next session _ =>
    obtain ⟨sessions, hstate⟩ := exists_persist_state session now app
    exact ⟨sessions, congrArg _ hstate⟩

/-- A send with the discarded `persist` that follows it. -/
theorem exists_sendPersist_eq {app : App B} (hrunning : app.node.running = true) (peer : PeerId)
    (envelope : NetworkEnvelope) (now : Int) :
    ∃ sessions, (sendDirect peer envelope >>= fun _ => persistQuietly now) app =
      .ok () ((app.handedOver peer envelope).withSessions sessions) := by
  rw [Outcome.bind_ok (sendDirect_ok hrunning peer envelope)]
  exact exists_persistQuietly_eq now _

theorem exists_sendPersist_state (peer : PeerId) (envelope : NetworkEnvelope) (now : Int)
    (app : App B) :
    ∃ node store, Outcome.state
      ((sendDirect peer envelope >>= fun _ => persistQuietly now) app) =
        { app with node, store } := by
  by_cases hrunning : app.node.running = true
  · obtain ⟨sessions, hrun⟩ := exists_sendPersist_eq hrunning peer envelope now
    rw [hrun]
    exact ⟨_, _, rfl⟩
  · rw [Outcome.bind_error (sendDirect_error hrunning peer envelope)]
    exact ⟨app.node, app.store, rfl⟩

/-- The session that the chat arm works on: the current one, or else the one
that is resumed. -/
def live (app : App B) (conversationId : String) : Except AppError (Option (ChatSession B)) :=
  match app.session with
  | some session => .ok (some session)
  | none => resume app.store.db conversationId

theorem live_eq_some {app : App B} {conversationId : String} {session : ChatSession B}
    (h : app.live conversationId = .ok (some session)) :
    app.session = some session ∨
      app.session = none ∧ resume app.store.db conversationId = .ok (some session) := by
  unfold live at h
  split at h
  next s hs => exact Or.inl (hs.trans (Except.ok.inj h))
  next hs => exact Or.inr ⟨hs, h⟩

theorem resumeIfNeeded_some {app : App B} {conversationId : String} {session : ChatSession B}
    (h : app.live conversationId = .ok (some session)) :
    resumeIfNeeded conversationId app = .ok () { app with session := some session } := by
  obtain ⟨store, node, initiator, responder, current, group, peer, lastOutgoing⟩ := app
  cases current with
  | some s =>
    cases h
    rfl
  | none =>
    have hresume : resume store.db conversationId = .ok (some session) := h
    unfold resumeIfNeeded
    simp only [hresume]

theorem resumeIfNeeded_none {app : App B} {conversationId : String}
    (h : app.live conversationId = .ok none) :
    app.session = none ∧ resumeIfNeeded conversationId app = .ok () app := by
  cases hsession : app.session with
  | some s =>
    unfold live at h
    rw [hsession] at h
    cases h
  | none =>
    unfold live at h
    rw [hsession] at h
    refine ⟨rfl, ?_⟩
    unfold resumeIfNeeded
    simp only [hsession, h]

theorem resumeIfNeeded_error {app : App B} {conversationId : String} {e : AppError}
    (h : app.live conversationId = .error e) :
    resumeIfNeeded conversationId app = .error e app := by
  cases hsession : app.session with
  | some s =>
    unfold live at h
    rw [hsession] at h
    cases h
  | none =>
    unfold live at h
    rw [hsession] at h
    unfold resumeIfNeeded
    simp only [hsession, h]

end Steps

/-! ## The arms -/

section Arms

variable (P : Primitives B) [Serde (HybridSignature B)]

theorem onBundleReq_eq [Serde (PreKeyBundle B)] (sender : PeerId) (now : Int) (app : App B) :
    onBundleReq P sender now app =
      match app.responder with
      | none => .error (.message "bundle request on initiator") app
      | some h => sendSync P sender MARKER_BUNDLE (Serde.toVec (h.bundle P)) now app := by
  refine (Outcome.bind_ok rfl).trans ?_
  cases app.responder with
  | none => exact Outcome.bind_error (required_none _ app)
  | some h => exact Outcome.bind_ok (required_some _ h app)

theorem onBundle_eq [Serde (PreKeyBundle B)] [Serde (PqxdhPrekeyMessage B)] (body : Bytes)
    (draws : Draws B) (app : App B) :
    onBundle P body draws app =
      match parseBundle body, app.initiator with
      | .error e, _ => .error e app
      | .ok _, none => .error (.message "bundle on responder") app
      | .ok bundle, some h =>
        if Database.Bindable app.store.deviceId then
          let store :=
            app.store.recorded P app.store.deviceId bundle.identityKey false draws.now
          match h.sendPrekey P bundle draws.ephemeral draws.coins draws.now with
          | .error e h' => .error e { app with store, initiator := some h' }
          | .ok out h' =>
            withContext "send prekey message" (sendDirect out.peer out.envelope)
              { app with store, initiator := some h' }
        else .error NodeStore.unbindable app := by
  unfold onBundle
  cases hparse : (parseBundle body : Except AppError (PreKeyBundle B)) with
  | error e => rfl
  | ok bundle =>
    refine (Outcome.bind_ok (attempt_ok bundle app)).trans ((Outcome.bind_ok rfl).trans ?_)
    cases hinitiator : app.initiator with
    | none => exact Outcome.bind_error (required_none _ app)
    | some h =>
      refine (Outcome.bind_ok (required_some _ h app)).trans ?_
      by_cases hid : Database.Bindable app.store.deviceId
      · simp only [hid, if_true]
        refine (Outcome.bind_ok (upsertConversation_ok P hid _ _ app)).trans ?_
        cases hsend : h.sendPrekey P bundle draws.ephemeral draws.coins draws.now with
        | error e h' => exact Outcome.bind_error (inPlace_error (by exact hinitiator) hsend _)
        | ok out h' => exact Outcome.bind_ok (inPlace_ok (by exact hinitiator) hsend _)
      · simp only [hid, if_false]
        exact Outcome.bind_error (upsertConversation_error P hid _ _ app)

theorem onPrekey_eq [Serde (PqxdhPrekeyMessage B)] [Serde (SessionKeys B)]
    [Serde (RatchetSnapshot B)] (sender : PeerId) (envelope : NetworkEnvelope) (body : Bytes)
    (draws : Draws B) (app : App B) :
    onPrekey P sender envelope body draws app =
      match senderConversation envelope, app.responder with
      | .error e, _ => .error e app
      | .ok _, none => .error (.message "prekey on initiator") app
      | .ok conversationId, some h =>
        match h.onPrekey P body conversationId draws.responderRatchet with
        | .error e h' => .error e { app with responder := some h' }
        | .ok (ratchetPublic, chat) h' =>
          if Database.Bindable conversationId then
            sendSync P sender MARKER_RATCHET_PUB (P.toVec ratchetPublic) draws.now
              { app with
                responder := some h'
                store := (app.store.recorded P conversationId chat.peerIdentity false
                  draws.now).persisted chat draws.now
                session := some chat }
          else .error NodeStore.unbindable { app with responder := some h' } := by
  unfold onPrekey
  cases hsender : senderConversation envelope with
  | error e => rfl
  | ok conversationId =>
    refine (Outcome.bind_ok (attempt_ok conversationId app)).trans ?_
    cases hresponder : app.responder with
    | none => exact Outcome.bind_error (inPlace_none hresponder _)
    | some h =>
      simp only
      cases hrun : h.onPrekey P body conversationId draws.responderRatchet with
      | error e h' => exact Outcome.bind_error (inPlace_error hresponder hrun _)
      | ok out h' =>
        obtain ⟨ratchetPublic, chat⟩ := out
        refine (Outcome.bind_ok (inPlace_ok hresponder hrun _)).trans ?_
        -- the driver has just stored the identity of the message
        obtain ⟨message, output, -, -, rfl, rfl⟩ := ResponderHandshake.onPrekey_eq_ok hrun
        refine (Outcome.bind_ok rfl).trans ((Outcome.bind_ok (required_some _ _ _)).trans ?_)
        by_cases hid : Database.Bindable conversationId
        · simp only [hid, if_true]
          refine (Outcome.bind_ok (upsertConversation_ok P hid _ _ _)).trans ?_
          refine (Outcome.bind_ok (persist_storable ⟨hid, ?_⟩ _)).trans (Outcome.bind_ok rfl)
          rw [NodeStore.hasConversation_recorded]
          simp
        · simp only [hid, if_false]
          exact Outcome.bind_error (upsertConversation_error P hid _ _ _)

omit [Serde (HybridSignature B)] in
theorem onGroupKey_eq [Serde (GroupKeyDistribution B)] (body : Bytes) (app : App B) :
    onGroupKey P body app =
      match (Serde.fromSlice body : Option (GroupKeyDistribution B)), app.session with
      | none, _ => .error (.context "parse group key" .json) app
      | some _, none => .error (.message "no session for group key") app
      | some distribution, some session =>
        .ok () { app with
          group := app.group.applyGroupKey P distribution session.peerIdentity } := by
  unfold onGroupKey
  cases (Serde.fromSlice body : Option (GroupKeyDistribution B)) with
  | none => rfl
  | some distribution =>
    refine (Outcome.bind_ok (attempt_ok distribution app)).trans ((Outcome.bind_ok rfl).trans ?_)
    cases app.session with
    | none => exact Outcome.bind_error (required_none _ app)
    | some session => exact Outcome.bind_ok (required_some _ _ app)

variable [Serde (RatchetMessageHeader B)] [Serde (SessionKeys B)] [Serde (RatchetSnapshot B)]

theorem greet_eq {app : App B} {chat : ChatSession B} (hsession : app.session = some chat)
    (peer : PeerId) (now : Int) :
    greet P peer now app =
      match chat.encrypt P app.store.identity app.store.deviceId
          (greetingOf app.store.deviceId) now with
      | .error e chat' => .error e { app with session := some chat' }
      | .ok envelope chat' =>
        (sendDirect peer envelope >>= fun _ => persistQuietly now)
          { app with session := some chat' } := by
  refine (Outcome.bind_ok rfl).trans ?_
  cases hencrypt : chat.encrypt P app.store.identity app.store.deviceId
      (greetingOf app.store.deviceId) now with
  | error e chat' =>
    exact Outcome.bind_error ((Outcome.bind_ok rfl).trans (onSession_error hsession hencrypt _))
  | ok envelope chat' =>
    exact Outcome.bind_ok ((Outcome.bind_ok rfl).trans (onSession_ok hsession hencrypt _))

/-- The greeting moves the ratchet, and what else it writes is the node and the
database. -/
theorem exists_greet_state {app : App B} {chat : ChatSession B}
    (hsession : app.session = some chat) (peer : PeerId) (now : Int) :
    ∃ node store r, Outcome.state (greet P peer now app) =
      { app with node, store, session := some { chat with ratchet := r } } := by
  have hstate := ChatSession.encrypt_state (P := P) chat app.store.identity app.store.deviceId
    (greetingOf app.store.deviceId) now
  rw [greet_eq P hsession]
  cases hencrypt : chat.encrypt P app.store.identity app.store.deviceId
      (greetingOf app.store.deviceId) now with
  | error e chat' =>
    rw [hencrypt] at hstate
    exact ⟨app.node, app.store, _, by rw [← hstate]; rfl⟩
  | ok envelope chat' =>
    rw [hencrypt] at hstate
    rw [Outcome.state_ok] at hstate
    subst hstate
    obtain ⟨node, store, hsent⟩ := exists_sendPersist_state peer envelope now
      { app with session := some _ }
    exact ⟨node, store, _, hsent⟩

/-- The group key and the greeting. -/
theorem exists_syncGreet_state {app : App B} {chat : ChatSession B}
    (hsession : app.session = some chat) (peer : PeerId) (marker : UInt8) (body : Bytes)
    (now : Int) :
    ∃ node store r, Outcome.state
      ((sendSync P peer marker body now >>= fun _ => greet P peer now) app) =
        { app with node, store, session := some { chat with ratchet := r } } := by
  by_cases hrunning : app.node.running = true
  · rw [Outcome.bind_ok (sendSync_ok P hrunning peer marker body now)]
    have hsession' : (app.handedOver peer (syncEnvelope P app.store.identity app.store.deviceId
        marker body now)).session = some chat := hsession
    obtain ⟨node, store, r, hstate⟩ := exists_greet_state P hsession' peer now
    exact ⟨node, store, r, hstate⟩
  · rw [Outcome.bind_error (sendSync_error P hrunning peer marker body now)]
    exact ⟨app.node, app.store, chat.ratchet, by rw [← hsession]; rfl⟩

/-- The application of an initiator that has adopted a session, with the sender
keys of the group. -/
def adopted (app : App B) (h : InitiatorHandshake B) (chat : ChatSession B) (draws : Draws B) :
    App B :=
  { app with
    initiator := some h
    store := (app.store.recorded P app.store.deviceId chat.peerIdentity false
      draws.now).persisted chat draws.now
    session := some chat
    group := (app.group.createSender P app.store.identity draws.groupChain).2 }

theorem onRatchetPub_eq [Serde (GroupKeyDistribution B)] (sender : PeerId) (body : Bytes)
    (draws : Draws B) (app : App B) :
    onRatchetPub P sender body draws app =
      match app.initiator with
      | none => .error (.message "ratchet pub on responder") app
      | some h =>
        match h.establish P body draws.initiatorRatchet with
        | .error e h' => .error e { app with initiator := some h' }
        | .ok chat h' =>
          if Database.Bindable app.store.deviceId then
            let store := app.store.recorded P app.store.deviceId chat.peerIdentity false draws.now
            match chat.persist store.db draws.now with
            | .error e => .error e { app with initiator := some h', store }
            | .ok _ =>
              (sendSync P sender MARKER_GROUP_KEY
                (Serde.toVec (app.group.createSender P app.store.identity draws.groupChain).1)
                draws.now >>= fun _ => greet P sender draws.now) (app.adopted P h' chat draws)
          else .error NodeStore.unbindable { app with initiator := some h' } := by
  unfold onRatchetPub
  cases hinitiator : app.initiator with
  | none => exact Outcome.bind_error (inPlace_none hinitiator _)
  | some h =>
    simp only
    cases hrun : h.establish P body draws.initiatorRatchet with
    | error e h' => exact Outcome.bind_error (inPlace_error hinitiator hrun _)
    | ok chat h' =>
      refine (Outcome.bind_ok (inPlace_ok hinitiator hrun _)).trans ?_
      obtain ⟨output, peer, _, -, hpeer, -, rfl, hchat⟩ := InitiatorHandshake.establish_eq_ok hrun
      have hidentity : chat.peerIdentity = peer := by rw [hchat]
      have hrequired : (required "no peer identity after establish" h.peerIdentity :
          AppM B (IdentityPublicKey B)) { app with initiator := some { h with pending := none } } =
          .ok chat.peerIdentity { app with initiator := some { h with pending := none } } := by
        rw [hpeer, hidentity]
        rfl
      refine (Outcome.bind_ok rfl).trans ((Outcome.bind_ok hrequired).trans ?_)
      by_cases hid : Database.Bindable app.store.deviceId
      · simp only [hid, if_true]
        refine (Outcome.bind_ok (upsertConversation_ok P hid _ _ _)).trans ?_
        by_cases hstorable : chat.Storable
            (app.store.recorded P app.store.deviceId chat.peerIdentity false draws.now).db
        · rw [ChatSession.persist_ok hstorable]
          refine (Outcome.bind_ok (persist_storable hstorable _)).trans ?_
          exact (Outcome.bind_ok rfl).trans ((Outcome.bind_ok rfl).trans (Outcome.bind_ok rfl))
        · obtain ⟨e, herror⟩ := ChatSession.persist_error hstorable draws.now
          rw [herror]
          exact Outcome.bind_error (persist_error herror)
      · simp only [hid, if_false]
        exact Outcome.bind_error (upsertConversation_error P hid _ _ _)

omit [Serde (HybridSignature B)] [Serde (RatchetMessageHeader B)] [Serde (SessionKeys B)]
  [Serde (RatchetSnapshot B)] in
theorem storeIncoming_eq {app : App B} {session : ChatSession B}
    (hsession : app.session = some session) (conversationId : String)
    (envelope : NetworkEnvelope) (draws : Draws B) :
    storeIncoming P conversationId envelope draws.messageNonce draws.now app =
      match fromUtf8 envelope.nonce with
      | none => .error .utf8 app
      | some header =>
        match app.store.insertMessage P conversationId
            (messageIdBytes envelope.timestamp draws.messageNonce) session.peerIdentity
            envelope.encryptedPayload header .incoming draws.now with
        | .error e => .error e app
        | .ok (store, _) => .ok () { app with store } := by
  refine (Outcome.bind_ok rfl).trans ((Outcome.bind_ok (required_eq_ok hsession _ app)).trans ?_)
  rw [Outcome.bind_eq, insertMessage_eq]
  cases fromUtf8 envelope.nonce with
  | none => rfl
  | some header =>
    simp only
    cases app.store.insertMessage P conversationId
      (messageIdBytes envelope.timestamp draws.messageNonce) session.peerIdentity
      envelope.encryptedPayload header .incoming draws.now <;> rfl

omit [Serde (HybridSignature B)] [Serde (RatchetMessageHeader B)] [Serde (SessionKeys B)]
  [Serde (RatchetSnapshot B)] in
theorem exists_storeIncoming_state {app : App B} {session : ChatSession B}
    (hsession : app.session = some session) (conversationId : String)
    (envelope : NetworkEnvelope) (draws : Draws B) :
    ∃ store, Outcome.state
      (storeIncoming P conversationId envelope draws.messageNonce draws.now app) =
        { app with store } := by
  rw [storeIncoming_eq P hsession]
  cases fromUtf8 envelope.nonce with
  | none => exact ⟨app.store, rfl⟩
  | some header =>
    simp only
    cases app.store.insertMessage P conversationId
        (messageIdBytes envelope.timestamp draws.messageNonce) session.peerIdentity
        envelope.encryptedPayload header .incoming draws.now with
    | error e => exact ⟨app.store, rfl⟩
    | ok out => exact ⟨out.1, rfl⟩

variable [DecidableEq (B X25519_PUBLIC_KEY_SIZE)]

omit [Serde (SessionKeys B)] [Serde (RatchetSnapshot B)] in
theorem onSession_decrypt {app : App B} {session : ChatSession B}
    (hsession : app.session = some session) (envelope : NetworkEnvelope)
    (conversationId : String) :
    (onSession "no session established" (fun session => session.decrypt P envelope) >>=
      fun plaintext => return (conversationId, plaintext)) app =
      match session.decrypt P envelope with
      | .error e session' => .error e { app with session := some session' }
      | .ok plaintext session' =>
        .ok (conversationId, plaintext) { app with session := some session' } := by
  cases hdecrypt : session.decrypt P envelope with
  | error e session' => exact Outcome.bind_error (onSession_error hsession hdecrypt _)
  | ok plaintext session' => exact Outcome.bind_ok (onSession_ok hsession hdecrypt _)

theorem openChat_eq (envelope : NetworkEnvelope) (now : Int) (app : App B) :
    openChat P envelope now app =
      match fromUtf8 envelope.conversationId with
      | none => .error .utf8 app
      | some conversationId =>
        match app.live conversationId with
        | .error e => .error e app
        | .ok none => .error (.message "no session established") app
        | .ok (some session) =>
          if Database.Bindable conversationId then
            let store := app.store.recorded P conversationId session.peerIdentity false now
            match session.decrypt P envelope with
            | .error e session' => .error e { app with store, session := some session' }
            | .ok plaintext session' =>
              .ok (conversationId, plaintext) { app with store, session := some session' }
          else .error NodeStore.unbindable { app with session := some session } := by
  unfold openChat
  cases hid : fromUtf8 envelope.conversationId with
  | none => exact Outcome.bind_error (text_error hid app)
  | some conversationId =>
    refine (Outcome.bind_ok (text_ok hid app)).trans ?_
    simp only
    cases hlive : app.live conversationId with
    | error e => exact Outcome.bind_error (resumeIfNeeded_error hlive)
    | ok found =>
      cases found with
      | none =>
        obtain ⟨hsession, hresume⟩ := resumeIfNeeded_none hlive
        refine (Outcome.bind_ok hresume).trans ((Outcome.bind_ok rfl).trans ?_)
        rw [hsession]
        exact Outcome.bind_error (required_none _ app)
      | some session =>
        refine (Outcome.bind_ok (resumeIfNeeded_some hlive)).trans ((Outcome.bind_ok rfl).trans ?_)
        refine (Outcome.bind_ok (required_some _ session _)).trans ?_
        by_cases hbind : Database.Bindable conversationId
        · simp only [hbind, if_true]
          refine (Outcome.bind_ok (upsertConversation_ok P hbind _ _ _)).trans ?_
          exact onSession_decrypt P rfl envelope conversationId
        · simp only [hbind, if_false]
          exact Outcome.bind_error (upsertConversation_error P hbind _ _ _)

theorem readChat_eq (envelope : NetworkEnvelope) (now : Int) (app : App B) :
    readChat P envelope now app =
      match fromUtf8 envelope.conversationId with
      | none => .error .utf8 app
      | some conversationId =>
        match app.live conversationId with
        | .error e => .error e app
        | .ok none => .error (.message "no session established") app
        | .ok (some session) =>
          if Database.Bindable conversationId then
            let store := app.store.recorded P conversationId session.peerIdentity false now
            match session.decrypt P envelope with
            | .error e session' => .error e { app with store, session := some session' }
            | .ok text session' =>
              match session'.persist store.db now with
              | .error e => .error e { app with store, session := some session' }
              | .ok _ => .ok (conversationId, text)
                  { app with
                    store := store.persisted session' now
                    session := some session' }
          else .error NodeStore.unbindable { app with session := some session } := by
  unfold readChat
  rw [Outcome.bind_eq, openChat_eq]
  cases fromUtf8 envelope.conversationId with
  | none => rfl
  | some conversationId =>
    simp only
    cases app.live conversationId with
    | error e => rfl
    | ok found =>
      cases found with
      | none => rfl
      | some session =>
        by_cases hbind : Database.Bindable conversationId
        · simp only [hbind, if_true]
          cases session.decrypt P envelope with
          | error e session' => rfl
          | ok plaintext session' =>
            simp only
            by_cases hstorable : session'.Storable
                (app.store.recorded P conversationId session.peerIdentity false now).db
            · rw [ChatSession.persist_ok hstorable]
              exact Outcome.bind_ok ((persistSession_eq rfl _).trans (persist_storable hstorable _))
            · obtain ⟨e, herror⟩ := ChatSession.persist_error hstorable now
              rw [herror]
              exact Outcome.bind_error ((persistSession_eq rfl _).trans (persist_error herror))
        · simp only [hbind, if_false]

theorem onChat_eq (envelope : NetworkEnvelope) (draws : Draws B) (app : App B) :
    onChat P envelope draws app =
      match fromUtf8 envelope.conversationId with
      | none => .error .utf8 app
      | some conversationId =>
        match app.live conversationId with
        | .error e => .error e app
        | .ok none => .error (.message "no session established") app
        | .ok (some session) =>
          if Database.Bindable conversationId then
            let store := app.store.recorded P conversationId session.peerIdentity false draws.now
            match session.decrypt P envelope with
            | .error e session' => .error e { app with store, session := some session' }
            | .ok _ session' =>
              match session'.persist store.db draws.now with
              | .error e => .error e { app with store, session := some session' }
              | .ok _ =>
                storeIncoming P conversationId envelope draws.messageNonce draws.now
                  { app with
                    store := store.persisted session' draws.now
                    session := some session' }
          else .error NodeStore.unbindable { app with session := some session } := by
  unfold onChat
  rw [Outcome.bind_eq, readChat_eq]
  cases fromUtf8 envelope.conversationId with
  | none => rfl
  | some conversationId =>
    simp only
    cases app.live conversationId with
    | error e => rfl
    | ok found =>
      cases found with
      | none => rfl
      | some session =>
        by_cases hbind : Database.Bindable conversationId
        · simp only [hbind, if_true]
          cases session.decrypt P envelope with
          | error e session' => rfl
          | ok plaintext session' =>
            simp only
            cases session'.persist _ draws.now <;> rfl
        · simp only [hbind, if_false]

end Arms

/-! ## A line of the user -/

section Lines

variable (P : Primitives B)

theorem storeOutgoing_eq {app : App B} {session : ChatSession B}
    (hsession : app.session = some session) (envelope : NetworkEnvelope) (nonce : UInt32)
    (now : Int) :
    storeOutgoing P envelope nonce now app =
      match fromUtf8 envelope.nonce with
      | none => .error .utf8 app
      | some header =>
        match app.store.insertMessage P session.conversationId
            (messageIdBytes envelope.timestamp nonce) (app.store.identity.publicKey P)
            envelope.encryptedPayload header .outgoing now with
        | .error e => .error e app
        | .ok (store, row) => .ok () { app with store, lastOutgoing := some row } := by
  refine (Outcome.bind_ok rfl).trans ((Outcome.bind_ok (required_eq_ok hsession _ app)).trans ?_)
  rw [Outcome.bind_eq, insertMessage_eq]
  cases fromUtf8 envelope.nonce with
  | none => rfl
  | some header =>
    simp only
    cases app.store.insertMessage P session.conversationId
      (messageIdBytes envelope.timestamp nonce) (app.store.identity.publicKey P)
      envelope.encryptedPayload header .outgoing now <;> rfl

variable [Serde (HybridSignature B)] [Serde (RatchetMessageHeader B)] [Serde (SessionKeys B)]
  [Serde (RatchetSnapshot B)]

/-- Without a session or a peer a line does nothing. -/
theorem sendLine_idle {app : App B} (h : app.session = none ∨ app.peer = none) (line : String)
    (draws : Draws B) : sendLine P line draws app = .ok () app := by
  refine (Outcome.bind_ok rfl).trans ?_
  rcases h with h | h
  · rw [h]
    rfl
  · rw [h]
    cases app.session <;> rfl

theorem sendLine_live {app : App B} {session : ChatSession B} {peer : PeerId}
    (hsession : app.session = some session) (hpeer : app.peer = some peer) (line : String)
    (draws : Draws B) :
    sendLine P line draws app =
      match session.encrypt P app.store.identity app.store.deviceId (asBytes line) draws.now with
      | .error e session' => .error e { app with session := some session' }
      | .ok envelope session' =>
        (storeOutgoing P envelope draws.messageNonce draws.now >>= fun _ =>
          sendDirect peer envelope >>= fun _ => persistQuietly draws.now)
          { app with session := some session' } := by
  have hread : sendLine P line draws app =
      (encrypt P (asBytes line) draws.now >>= fun envelope =>
        storeOutgoing P envelope draws.messageNonce draws.now >>= fun _ =>
          sendDirect peer envelope >>= fun _ => persistQuietly draws.now) app := by
    refine (Outcome.bind_ok rfl).trans ?_
    rw [hsession, hpeer]
  rw [hread]
  cases hencrypt : session.encrypt P app.store.identity app.store.deviceId (asBytes line)
      draws.now with
  | error e session' =>
    exact Outcome.bind_error ((Outcome.bind_ok rfl).trans (onSession_error hsession hencrypt _))
  | ok envelope session' =>
    exact Outcome.bind_ok ((Outcome.bind_ok rfl).trans (onSession_ok hsession hencrypt _))

end Lines

end App
end Presidium
