import Presidium.Demo.Arms
import Presidium.Demo.Loop

/-!
# What inbound messages leave alone

The frame of the event handlers.  Whatever a peer sends, the node keeps
running, the device ids stay, `last_outgoing` stays, and the `messages` table
only gets further rows for incoming messages, each under the next row id.

`Inbound` is that frame as a relation between two states of the application.
It is a preorder, so it holds for an arm when it holds for each step of the
arm.
-/

namespace Presidium

variable {B : Nat → Type}

namespace Database

/-- The messages are those of `db` and further ones of one direction, under new
row ids. -/
structure Extends (direction : MessageDirection) (db db' : Database) : Prop where
  lastRowId : db.lastRowId ≤ db'.lastRowId
  messages : ∃ added, db'.messages = db.messages ++ added ∧
    (∀ m ∈ added, db.lastRowId < m.id ∧ m.id ≤ db'.lastRowId ∧ m.direction = direction) ∧
    added.Pairwise fun m m' => m.id < m'.id

variable {direction : MessageDirection} {db db' db'' : Database}

theorem Extends.of_eq (hlast : db'.lastRowId = db.lastRowId)
    (hmessages : db'.messages = db.messages) : Extends direction db db' := by
  refine ⟨by omega, [], ?_, ?_, List.Pairwise.nil⟩
  · rw [hmessages, List.append_nil]
  · intro m hm
    cases hm

theorem Extends.trans (h : Extends direction db db') (h' : Extends direction db' db'') :
    Extends direction db db'' := by
  obtain ⟨hlast, added, hmessages, hids, hordered⟩ := h
  obtain ⟨hlast', added', hmessages', hids', hordered'⟩ := h'
  refine ⟨by omega, added ++ added', ?_, ?_, ?_⟩
  · rw [hmessages', hmessages, List.append_assoc]
  · intro m hm
    rcases List.mem_append.mp hm with hm | hm
    · obtain ⟨hlower, hupper, hdirection⟩ := hids m hm
      exact ⟨hlower, by omega, hdirection⟩
    · obtain ⟨hlower, hupper, hdirection⟩ := hids' m hm
      exact ⟨by omega, hupper, hdirection⟩
  · refine List.pairwise_append.mpr ⟨hordered, hordered', fun m hm m' hm' => ?_⟩
    have hupper := (hids m hm).2.1
    have hlower := (hids' m' hm').1
    omega

theorem extends_withMessage {record : MessageRecord} (hdirection : record.direction = direction)
    (db : Database) : Extends direction db (db.withMessage record) := by
  refine ⟨?_, [{ record with id := db.lastRowId + 1 }], rfl, ?_, List.pairwise_singleton _ _⟩
  · show db.lastRowId ≤ db.lastRowId + 1
    omega
  · intro m hm
    obtain rfl := List.mem_singleton.mp hm
    refine ⟨?_, ?_, hdirection⟩
    · show db.lastRowId < db.lastRowId + 1
      omega
    · show db.lastRowId + 1 ≤ db.lastRowId + 1
      omega

theorem Sequenced.of_extends (h : db.Sequenced) (hextends : Extends direction db db') :
    db'.Sequenced := by
  obtain ⟨hlast, added, hmessages, hids, hordered⟩ := hextends
  refine ⟨fun m hm => ?_, ?_⟩
  · rw [hmessages] at hm
    rcases List.mem_append.mp hm with hm | hm
    · have hbound := h.bounded m hm
      omega
    · exact (hids m hm).2.1
  · have hdistinct : db.messages.Pairwise fun m m' => m.id ≠ m'.id :=
      List.pairwise_map.mp h.distinct
    rw [hmessages]
    refine List.pairwise_map.mpr (List.pairwise_append.mpr
      ⟨hdistinct, hordered.imp Int.ne_of_lt, fun m hm m' hm' => ?_⟩)
    have hupper := h.bounded m hm
    have hlower := (hids m' hm').1
    omega

end Database

/-- What the application keeps as long as the process runs. -/
structure App.Rooted (app app' : App B) : Prop where
  running : app'.node.running = app.node.running
  deviceId : app'.store.deviceId = app.store.deviceId
  initiator : app'.initiator.map InitiatorHandshake.deviceId =
    app.initiator.map InitiatorHandshake.deviceId

/-- What an inbound message may do to the application. -/
structure App.Inbound (app app' : App B) : Prop extends Rooted app app' where
  lastOutgoing : app'.lastOutgoing = app.lastOutgoing
  messages : Database.Extends .incoming app.store.db app'.store.db

namespace App.Rooted

theorem refl (app : App B) : Rooted app app := ⟨rfl, rfl, rfl⟩

theorem trans (app₁ app₂ app₃ : App B) (h : Rooted app₁ app₂) (h' : Rooted app₂ app₃) :
    Rooted app₁ app₃ :=
  ⟨h'.running.trans h.running, h'.deviceId.trans h.deviceId, h'.initiator.trans h.initiator⟩

end App.Rooted

namespace App.Inbound

theorem of_store {app app' : App B} (hstore : app'.store = app.store)
    (hrunning : app'.node.running = app.node.running)
    (hinitiator : app'.initiator.map InitiatorHandshake.deviceId =
      app.initiator.map InitiatorHandshake.deviceId)
    (hlast : app'.lastOutgoing = app.lastOutgoing) : Inbound app app' := by
  refine ⟨⟨hrunning, by rw [hstore], hinitiator⟩, hlast, ?_⟩
  rw [hstore]
  exact .of_eq rfl rfl

theorem refl (app : App B) : Inbound app app := .of_store rfl rfl rfl rfl

theorem trans (app₁ app₂ app₃ : App B) (h : Inbound app₁ app₂) (h' : Inbound app₂ app₃) :
    Inbound app₁ app₃ :=
  ⟨.trans _ _ _ h.toRooted h'.toRooted, h'.lastOutgoing.trans h.lastOutgoing,
    h.messages.trans h'.messages⟩

end App.Inbound

namespace App

/-! ## Steps -/

section Steps

variable {α : Type}

theorem inbound_notePeer (sender : PeerId) :
    Outcome.Moves Inbound (notePeer sender : AppM B Unit) :=
  fun _ => .of_store rfl rfl rfl rfl

theorem inbound_sendDirect (peer : PeerId) (envelope : NetworkEnvelope) :
    Outcome.Moves Inbound (sendDirect peer envelope : AppM B Unit) := by
  intro app
  by_cases hrunning : app.node.running = true
  · rw [sendDirect_ok hrunning]
    exact .of_store rfl rfl rfl rfl
  · rw [sendDirect_error hrunning]
    exact .refl app

/-- A method on a part of the application that is written back. -/
theorem inbound_inPlace {δ : Type} {read : App B → Option δ} {write : App B → δ → App B}
    {method : δ → Outcome AppError δ α}
    (hwrite : ∀ app part, read app = some part →
      Inbound app (write app (Outcome.state (method part)))) (missing : String) :
    Outcome.Moves Inbound (inPlace read write missing method) := by
  intro app
  cases hread : read app with
  | none =>
    rw [inPlace_none hread]
    exact .refl app
  | some part =>
    have hwritten := hwrite app part hread
    cases hmethod : method part with
    | ok a part' =>
      rw [inPlace_ok hread hmethod]
      rwa [hmethod] at hwritten
    | error e part' =>
      rw [inPlace_error hread hmethod]
      rwa [hmethod] at hwritten

theorem inbound_onInitiator
    {method : InitiatorHandshake B → Outcome AppError (InitiatorHandshake B) α}
    (hmethod : ∀ h, (Outcome.state (method h)).deviceId = h.deviceId) (missing : String) :
    Outcome.Moves Inbound (onInitiator missing method) := by
  refine inbound_inPlace (fun app h hinitiator => .of_store rfl rfl ?_ rfl) missing
  rw [hinitiator]
  exact congrArg some (hmethod h)

theorem inbound_onResponder
    (method : ResponderHandshake B → Outcome AppError (ResponderHandshake B) α)
    (missing : String) : Outcome.Moves Inbound (onResponder missing method) :=
  inbound_inPlace (fun _ _ _ => .of_store rfl rfl rfl rfl) missing

theorem inbound_onSession (method : ChatSession B → Outcome AppError (ChatSession B) α)
    (missing : String) : Outcome.Moves Inbound (onSession missing method) :=
  inbound_inPlace (fun _ _ _ => .of_store rfl rfl rfl rfl) missing

theorem inbound_onStore {statement : NodeStore B → Except AppError (NodeStore B × α)}
    (hstatement : ∀ store store' a, statement store = .ok (store', a) →
      store'.deviceId = store.deviceId ∧ Database.Extends .incoming store.db store'.db) :
    Outcome.Moves Inbound (onStore statement) := by
  intro app
  unfold onStore
  cases hrun : statement app.store with
  | error e => exact .refl app
  | ok out =>
    obtain ⟨hdevice, hextends⟩ := hstatement _ _ _ hrun
    exact ⟨⟨rfl, hdevice, rfl⟩, rfl, hextends⟩

theorem rooted_onStore {statement : NodeStore B → Except AppError (NodeStore B × α)}
    (hstatement : ∀ store store' a, statement store = .ok (store', a) →
      store'.deviceId = store.deviceId) : Outcome.Moves Rooted (onStore statement) := by
  intro app
  unfold onStore
  cases hrun : statement app.store with
  | error e => exact .refl app
  | ok out => exact ⟨rfl, hstatement _ _ _ hrun, rfl⟩

variable (P : Primitives B)

theorem inbound_upsertConversation (id : String) (peer : IdentityPublicKey B) (now : Int) :
    Outcome.Moves Inbound (upsertConversation P id peer now) := by
  intro app
  by_cases hid : Database.Bindable id
  · rw [upsertConversation_ok P hid]
    exact ⟨⟨rfl, rfl, rfl⟩, rfl, .of_eq rfl rfl⟩
  · rw [upsertConversation_error P hid]
    exact .refl app

theorem inbound_insertMessage (conversationId : String) (sender : IdentityPublicKey B)
    (envelope : NetworkEnvelope) (nonce : UInt32) (now : Int) :
    Outcome.Moves Inbound
      (insertMessage P conversationId sender envelope .incoming nonce now) := by
  refine .bind Inbound.trans (moves_text Inbound.refl _) fun header => ?_
  refine inbound_onStore fun store store' row h => ?_
  obtain ⟨-, rfl, -⟩ := NodeStore.insertMessage_eq_ok h
  refine ⟨rfl, Database.extends_withMessage ?_ store.db⟩
  rfl

theorem inbound_storeIncoming (conversationId : String) (envelope : NetworkEnvelope)
    (nonce : UInt32) (now : Int) :
    Outcome.Moves Inbound (storeIncoming P conversationId envelope nonce now) := by
  refine .bind Inbound.trans (moves_get Inbound.refl) fun app => ?_
  refine .bind Inbound.trans (moves_required Inbound.refl _ _) fun session => ?_
  refine .bind Inbound.trans (inbound_insertMessage P _ _ _ _ _) fun row => ?_
  exact moves_pure Inbound.refl _

variable [Serde (SessionKeys B)] [Serde (RatchetSnapshot B)]

theorem inbound_persist (session : ChatSession B) (now : Int) :
    Outcome.Moves Inbound (persist session now) := by
  intro app
  by_cases hstorable : session.Storable app.store.db
  · rw [persist_storable hstorable]
    exact ⟨⟨rfl, rfl, rfl⟩, rfl, .of_eq rfl rfl⟩
  · obtain ⟨e, herror⟩ := persist_unstorable hstorable now
    rw [herror]
    exact .refl app

theorem inbound_persistQuietly (now : Int) :
    Outcome.Moves Inbound (persistQuietly now : AppM B Unit) := by
  intro app
  unfold persistQuietly
  split
  next => exact .refl app
  next session _ => exact inbound_persist session now app

theorem inbound_resumeIfNeeded (conversationId : String) :
    Outcome.Moves Inbound (resumeIfNeeded conversationId : AppM B Unit) := by
  intro app
  unfold resumeIfNeeded
  split
  next => exact .refl app
  next =>
    split
    next => exact .refl app
    next => exact .refl app
    next => exact .of_store rfl rfl rfl rfl

end Steps

/-! ## Arms -/

section Arms

variable (P : Primitives B) [Serde (HybridSignature B)]

theorem inbound_sendSync (peer : PeerId) (marker : UInt8) (body : Bytes) (now : Int) :
    Outcome.Moves Inbound (sendSync P peer marker body now) :=
  .bind Inbound.trans (moves_get Inbound.refl) fun _ => inbound_sendDirect _ _

theorem inbound_onBundleReq [Serde (PreKeyBundle B)] (sender : PeerId) (now : Int) :
    Outcome.Moves Inbound (onBundleReq P sender now) := by
  refine .bind Inbound.trans (moves_get Inbound.refl) fun app => ?_
  refine .bind Inbound.trans (moves_required Inbound.refl _ _) fun driver => ?_
  exact inbound_sendSync P _ _ _ _

theorem inbound_onBundle [Serde (PreKeyBundle B)] [Serde (PqxdhPrekeyMessage B)] (body : Bytes)
    (draws : Draws B) : Outcome.Moves Inbound (onBundle P body draws) := by
  refine .bind Inbound.trans (moves_attempt Inbound.refl _) fun bundle => ?_
  refine .bind Inbound.trans (moves_get Inbound.refl) fun app => ?_
  refine .bind Inbound.trans (moves_required Inbound.refl _ _) fun _ => ?_
  refine .bind Inbound.trans (inbound_upsertConversation P _ _ _) fun _ => ?_
  refine .bind Inbound.trans (inbound_onInitiator (fun h => ?_) _) fun _ =>
    moves_withContext (inbound_sendDirect _ _) _
  rcases h.sendPrekey_cases (P := P) bundle draws.ephemeral draws.coins draws.now with
    ⟨_, -, hrun⟩ | ⟨-, ⟨_, -, hrun⟩ | ⟨_, _, _, -, hrun⟩⟩ <;> rw [hrun] <;> rfl

theorem inbound_onPrekey [Serde (PqxdhPrekeyMessage B)] [Serde (SessionKeys B)]
    [Serde (RatchetSnapshot B)] (sender : PeerId) (envelope : NetworkEnvelope) (body : Bytes)
    (draws : Draws B) : Outcome.Moves Inbound (onPrekey P sender envelope body draws) := by
  refine .bind Inbound.trans (moves_attempt Inbound.refl _) fun conversationId => ?_
  refine .bind Inbound.trans (inbound_onResponder _ _) fun _ => ?_
  refine .bind Inbound.trans (moves_get Inbound.refl) fun app => ?_
  refine .bind Inbound.trans (moves_required Inbound.refl _ _) fun _ => ?_
  refine .bind Inbound.trans (inbound_upsertConversation P _ _ _) fun _ => ?_
  refine .bind Inbound.trans (inbound_persist _ _) fun _ => ?_
  refine .bind Inbound.trans (fun _ => .of_store rfl rfl rfl rfl) fun _ => ?_
  exact inbound_sendSync P _ _ _ _

omit [Serde (HybridSignature B)] in
theorem inbound_onGroupKey [Serde (GroupKeyDistribution B)] (body : Bytes) :
    Outcome.Moves Inbound (onGroupKey P body) := by
  refine .bind Inbound.trans (moves_attempt Inbound.refl _) fun distribution => ?_
  refine .bind_get fun app => ?_
  cases hsession : app.session.map ChatSession.peerIdentity with
  | none => exact .refl app
  | some peer => exact .of_store rfl rfl rfl rfl

variable [Serde (RatchetMessageHeader B)] [Serde (SessionKeys B)] [Serde (RatchetSnapshot B)]

theorem inbound_greet (peer : PeerId) (now : Int) :
    Outcome.Moves Inbound (greet P peer now) := by
  refine .bind Inbound.trans (moves_get Inbound.refl) fun app => ?_
  refine .bind Inbound.trans ?_ fun envelope => ?_
  · exact .bind Inbound.trans (moves_get Inbound.refl) fun app => inbound_onSession _ _
  · exact .bind Inbound.trans (inbound_sendDirect _ _) fun _ => inbound_persistQuietly _

theorem inbound_onRatchetPub [Serde (GroupKeyDistribution B)] (sender : PeerId) (body : Bytes)
    (draws : Draws B) : Outcome.Moves Inbound (onRatchetPub P sender body draws) := by
  refine .bind Inbound.trans (inbound_onInitiator (fun h => ?_) _) fun chat => ?_
  · rw [h.establish_state]
  refine .bind Inbound.trans (moves_get Inbound.refl) fun app => ?_
  refine .bind Inbound.trans (moves_required Inbound.refl _ _) fun _ => ?_
  refine .bind Inbound.trans (inbound_upsertConversation P _ _ _) fun _ => ?_
  refine .bind Inbound.trans (inbound_persist _ _) fun _ => ?_
  refine .bind Inbound.trans (fun _ => .of_store rfl rfl rfl rfl) fun _ => ?_
  refine .bind_get fun app => ?_
  have hrest : Outcome.Moves Inbound (sendSync P sender MARKER_GROUP_KEY
      (Serde.toVec (app.group.createSender P app.store.identity draws.groupChain).1) draws.now >>=
        fun _ => greet P sender draws.now) :=
    .bind Inbound.trans (inbound_sendSync P _ _ _ _) fun _ => inbound_greet P _ _
  let keyed := { app with
    group := (app.group.createSender P app.store.identity draws.groupChain).2 }
  exact .trans app keyed _ (.of_store rfl rfl rfl rfl) (hrest keyed)

variable [DecidableEq (B X25519_PUBLIC_KEY_SIZE)]

theorem inbound_readChat (envelope : NetworkEnvelope) (now : Int) :
    Outcome.Moves Inbound (readChat P envelope now) := by
  refine .bind Inbound.trans ?_ fun opened => ?_
  · refine .bind Inbound.trans (moves_text Inbound.refl _) fun conversationId => ?_
    refine .bind Inbound.trans (inbound_resumeIfNeeded _) fun _ => ?_
    refine .bind Inbound.trans (moves_get Inbound.refl) fun app => ?_
    refine .bind Inbound.trans (moves_required Inbound.refl _ _) fun session => ?_
    refine .bind Inbound.trans (inbound_upsertConversation P _ _ _) fun _ => ?_
    exact .bind Inbound.trans (inbound_onSession _ _) fun _ => moves_pure Inbound.refl _
  · refine .bind Inbound.trans ?_ fun _ => moves_pure Inbound.refl _
    refine .bind Inbound.trans (moves_get Inbound.refl) fun app => ?_
    exact .bind Inbound.trans (moves_required Inbound.refl _ _) fun _ => inbound_persist _ _

theorem inbound_onChat (envelope : NetworkEnvelope) (draws : Draws B) :
    Outcome.Moves Inbound (onChat P envelope draws) :=
  .bind Inbound.trans (inbound_readChat P envelope draws.now) fun _ =>
    inbound_storeIncoming P _ _ _ _

variable [Serde (PreKeyBundle B)] [Serde (PqxdhPrekeyMessage B)] [Serde (GroupKeyDistribution B)]

theorem inbound_handleDirect (sender : PeerId) (envelope : NetworkEnvelope) (draws : Draws B) :
    Outcome.Moves Inbound (handleDirect P sender envelope draws) := by
  refine .bind Inbound.trans (inbound_notePeer sender) fun _ => ?_
  unfold runArm
  cases envelope.arm with
  | bundleReq => exact inbound_onBundleReq P _ _
  | bundle => exact inbound_onBundle P _ _
  | prekey => exact inbound_onPrekey P _ _ _ _
  | ratchetPub => exact inbound_onRatchetPub P _ _ _
  | groupKey => exact inbound_onGroupKey P _
  | chat => exact inbound_onChat P _ _

end Arms

/-! ## Commands -/

section Commands

variable (P : Primitives B) [Serde (HybridSignature B)]

theorem inbound_onGossip [Serde SenderKeyMessage] (envelope : NetworkEnvelope)
    (draws : Draws B) : Outcome.Moves Inbound (onGossip P envelope draws) := by
  have hstore : Outcome.Moves Inbound (storeGroup P envelope draws) := by
    refine .bind Inbound.trans (moves_get Inbound.refl) fun app => ?_
    refine .bind Inbound.trans (inbound_onStore fun store store' _ h => ?_) fun _ => ?_
    · by_cases hid : Database.Bindable app.group.conversationId
      · rw [NodeStore.upsertConversation_ok P hid] at h
        cases h
        exact ⟨rfl, .of_eq rfl rfl⟩
      · rw [NodeStore.upsertConversation_error P hid] at h
        cases h
    · refine .bind Inbound.trans (inbound_insertMessage P _ _ _ _ _) fun _ => ?_
      exact moves_pure Inbound.refl _
  intro app
  unfold onGossip
  cases app.group.decrypt P envelope with
  | error e group => exact .of_store rfl rfl rfl rfl
  | ok plaintext group =>
    exact .trans app { app with group } _ (.of_store rfl rfl rfl rfl) (hstore _)

omit [Serde (HybridSignature B)] in
theorem rooted_settle (status : MessageStatus) :
    Outcome.Moves Rooted (settle status : AppM B Unit) := by
  intro app
  cases h : app.lastOutgoing with
  | none =>
    rw [settle_of_none h]
    exact .refl app
  | some row =>
    rw [settle_of_some h]
    exact ⟨rfl, rfl, rfl⟩

theorem rooted_publish [Serde SenderKeyMessage] (text : String) (now : Int) :
    Outcome.Moves Rooted (publish P text now) := by
  intro app
  unfold publish
  split <;> exact ⟨rfl, rfl, rfl⟩

omit [Serde (HybridSignature B)] in
theorem rooted_storeOutgoing (envelope : NetworkEnvelope) (nonce : UInt32) (now : Int) :
    Outcome.Moves Rooted (storeOutgoing P envelope nonce now) := by
  refine .bind Rooted.trans (moves_get Rooted.refl) fun app => ?_
  refine .bind Rooted.trans (moves_required Rooted.refl _ _) fun session => ?_
  refine .bind Rooted.trans ?_ fun row app => ⟨rfl, rfl, rfl⟩
  refine .bind Rooted.trans (moves_text Rooted.refl _) fun header => ?_
  exact rooted_onStore fun _ _ _ h => (NodeStore.insertMessage_keeps h).1

variable [Serde (RatchetMessageHeader B)] [Serde (SessionKeys B)] [Serde (RatchetSnapshot B)]

theorem rooted_sendLine (line : String) (draws : Draws B) :
    Outcome.Moves Rooted (sendLine P line draws) := by
  refine .bind Rooted.trans (moves_get Rooted.refl) fun app => ?_
  split
  next =>
    refine .bind Rooted.trans ?_ fun envelope => ?_
    · refine .mono (fun _ _ => Inbound.toRooted) ?_
      exact .bind Inbound.trans (moves_get Inbound.refl) fun app => inbound_onSession _ _
    · refine .bind Rooted.trans (rooted_storeOutgoing P _ _ _) fun _ => ?_
      refine .mono (fun _ _ => Inbound.toRooted) ?_
      exact .bind Inbound.trans (inbound_sendDirect _ _) fun _ => inbound_persistQuietly _
  next => exact moves_pure Rooted.refl _

variable [Serde SenderKeyMessage]

theorem rooted_handleCommand (line : String) (draws : Draws B) :
    Outcome.Moves Rooted (handleCommand P line draws) := by
  unfold handleCommand
  cases Command.ofLine line with
  | quit => exact moves_pure Rooted.refl _
  | info => exact moves_pure Rooted.refl _
  | history =>
    refine .bind Rooted.trans (moves_get Rooted.refl) fun app => ?_
    refine .bind Rooted.trans (moves_attempt Rooted.refl _) fun _ => ?_
    refine .bind Rooted.trans (moves_attempt Rooted.refl _) fun _ => ?_
    exact moves_pure Rooted.refl _
  | group text =>
    refine .bind Rooted.trans (moves_get Rooted.refl) fun app => ?_
    split
    next => exact moves_pure Rooted.refl _
    next => exact .bind Rooted.trans (rooted_publish P _ _) fun _ => moves_pure Rooted.refl _
  | chat line => exact .bind Rooted.trans (rooted_sendLine P _ _) fun _ => moves_pure Rooted.refl _

end Commands

end App

/-! ## The loop -/

section Loop

/-- A relation between the applications of two states of the loop. -/
def LoopState.Across (R : App B → App B → Prop) (s s' : LoopState B) : Prop := R s.app s'.app

theorem LoopState.Across.trans {R : App B → App B → Prop}
    (h : ∀ app₁ app₂ app₃, R app₁ app₂ → R app₂ app₃ → R app₁ app₃) (s₁ s₂ s₃ : LoopState B) :
    Across R s₁ s₂ → Across R s₂ s₃ → Across R s₁ s₃ := h s₁.app s₂.app s₃.app

theorem moves_onApp {α : Type} {R : App B → App B → Prop} {step : AppM B α}
    (h : Outcome.Moves R step) : Outcome.Moves (LoopState.Across R) (onApp step) := by
  intro s
  have hstep := h s.app
  unfold onApp
  cases hrun : step s.app with
  | ok a app =>
    rw [hrun] at hstep
    exact hstep
  | error e app =>
    rw [hrun] at hstep
    exact hstep

variable (P : Primitives B) [Serde (HybridSignature B)]

theorem inbound_onPeerConnected (peer : PeerId) (now : Int) :
    Outcome.Moves (LoopState.Across App.Inbound) (onPeerConnected P peer now) := by
  refine .bind (LoopState.Across.trans App.Inbound.trans)
    (moves_onApp (App.inbound_notePeer peer)) fun _ => ?_
  refine .bind_get fun loop => ?_
  cases loop.app.initiator with
  | none => exact App.Inbound.refl _
  | some driver =>
    simp only
    split
    next =>
      let started : LoopState B := { loop with handshakeStarted := true }
      exact moves_onApp (App.moves_withContext (App.inbound_sendDirect _ _) _) started
    next => exact App.Inbound.refl _

variable [Serde (RatchetMessageHeader B)]
  [Serde (PreKeyBundle B)] [Serde (PqxdhPrekeyMessage B)] [Serde (GroupKeyDistribution B)]
  [Serde (SessionKeys B)] [Serde (RatchetSnapshot B)] [Serde SenderKeyMessage]
  [DecidableEq (B X25519_PUBLIC_KEY_SIZE)]

/-- What an event leaves of the application, the outcomes of sends apart. -/
theorem inbound_handleEvent {event : Network.NodeEvent} (hevent : event.outcome = none)
    (draws : Draws B) :
    Outcome.Moves (LoopState.Across App.Inbound) (handleEvent P event draws) := by
  have hrefl : ∀ s : LoopState B, LoopState.Across App.Inbound s s := fun s => .refl s.app
  have hpure : ∀ {α : Type} (a : α),
      Outcome.Moves (LoopState.Across App.Inbound) (pure a : LoopM B α) :=
    fun a => .of_state hrefl fun _ => rfl
  refine .bind (LoopState.Across.trans App.Inbound.trans) ?_ fun _ => hpure true
  cases event with
  | listen address => exact hpure ()
  | peerConnected peer => exact inbound_onPeerConnected P peer draws.now
  | peerDisconnected peer => exact hpure ()
  | peerDiscovered peer address => exact hpure ()
  | directMessage sender envelope => exact moves_onApp (App.inbound_handleDirect P _ _ _)
  | directDelivered receiver conversationId status => cases hevent
  | directFailed receiver error => cases hevent
  | gossipMessage sender topic envelope => exact moves_onApp (App.inbound_onGossip P _ _)

theorem rooted_handleEvent (event : Network.NodeEvent) (draws : Draws B) :
    Outcome.Moves (LoopState.Across App.Rooted) (handleEvent P event draws) := by
  cases hevent : event.outcome with
  | none => exact .mono (fun _ _ h => h.toRooted) (inbound_handleEvent P hevent draws)
  | some reported =>
    intro s
    cases event with
    | directDelivered receiver conversationId status => exact moves_onApp (App.rooted_settle _) s
    | directFailed receiver error => exact moves_onApp (App.rooted_settle _) s
    | _ => cases hevent

omit [Serde (HybridSignature B)] [Serde (RatchetMessageHeader B)] [Serde (PreKeyBundle B)]
  [Serde (PqxdhPrekeyMessage B)] [Serde (GroupKeyDistribution B)] [Serde (SessionKeys B)]
  [Serde (RatchetSnapshot B)] [Serde SenderKeyMessage] [DecidableEq (B X25519_PUBLIC_KEY_SIZE)] in
theorem RunLoop.state_follow (out : Outcome AppError (LoopState B) Bool) :
    (follow out).state = Outcome.state out := by
  rcases out with ⟨_ | _, s⟩ | ⟨e, s⟩ <;> rfl

/-- The state behind a line. -/
theorem RunLoop.state_turn_line (state : LoopState B) {line : String} (hline : line ≠ "")
    (draws : Draws B) :
    (turn P state (.line line draws)).state =
      Outcome.state (onApp (handleCommand P line draws) state) := by
  rw [← state_follow]
  exact congrArg RunLoop.state (if_neg hline)

theorem RunLoop.state_turn_event (state : LoopState B) (event : Network.NodeEvent) (draws : Draws B) :
    (turn P state (.event event draws)).state = Outcome.state (handleEvent P event draws state) :=
  state_follow _

theorem RunLoop.rooted_turn (state : LoopState B) (input : Input B) :
    App.Rooted state.app (RunLoop.turn P state input).state.app := by
  cases input with
  | line line draws =>
    by_cases hline : line = ""
    · rw [show RunLoop.turn P state (.line line draws) = { state, returned := none } from
        if_pos hline]
      exact .refl state.app
    · rw [state_turn_line P state hline]
      exact moves_onApp (App.rooted_handleCommand P line draws) state
  | endOfInput => exact .refl state.app
  | event event draws =>
    rw [state_turn_event]
    exact rooted_handleEvent P event draws state
  | channelClosed => exact .refl state.app

/-- Over a whole run the application keeps what it is rooted in. -/
theorem RunLoop.rooted_run (loop : RunLoop B) (inputs : List (Input B)) :
    App.Rooted loop.state.app ((RunLoop.machine P).run loop inputs).state.app := by
  induction inputs generalizing loop with
  | nil => exact .refl _
  | cons input inputs ih =>
    refine .trans _ _ _ ?_ (ih _)
    show App.Rooted loop.state.app (RunLoop.step P loop input).state.app
    unfold RunLoop.step
    split
    next => exact rooted_turn P loop.state input
    next => exact .refl _

end Loop
end Presidium
