import Presidium.Demo.Taken

/-!
# What a failed message leaves in the database

`handle_direct` has no transaction around it, so an arm that fails after a
statement keeps what the statement wrote.  The prekey arm and the ratchet key arm
come to their first statement when nothing that the peer controls can fail any
more.  The bundle arm and the chat arm record the conversation first and look
at the signature afterwards.

`FailsClean` says for each arm when no failure comes behind a write that
changes a row.
-/

namespace Presidium

variable {B : Nat → Type}

open Outcome (IsOk state)

/-- The tables of the application are the same. -/
structure Database.SameTables (db db' : Database) : Prop where
  conversations : db'.conversations = db.conversations
  sessions : db'.sessions = db.sessions
  messages : db'.messages = db.messages

theorem Database.SameTables.refl (db : Database) : SameTables db db := ⟨rfl, rfl, rfl⟩

/-- If the call fails, the tables are as they were. -/
def App.LeavesTables (app : App B) (out : Outcome AppError (App B) Unit) : Prop :=
  ∀ e app', out = .error e app' → app.store.db.SameTables app'.store.db

section Records

variable (P : Primitives B)

/-- The conversation is recorded, for a chat with this peer. -/
def NodeStore.Records (store : NodeStore B) (id : String) (peer : IdentityPublicKey B) : Prop :=
  store.db.hasConversation id = true ∧
    ∀ c ∈ store.db.conversations, c.id = id →
      c.peerClassical = P.toVec peer.classical ∧ c.peerPq = P.toVec peer.pq ∧ c.isGroup = false

variable {P}

/-- Recording a conversation again changes nothing. -/
theorem NodeStore.Records.recorded_eq {store : NodeStore B} {id : String}
    {peer : IdentityPublicKey B} (h : store.Records P id peer) (now : Int) :
    store.recorded P id peer false now = store := by
  have hrows : (store.db.withConversation (conversationRow P id peer false now)).conversations =
      store.db.conversations := by
    refine upsertBy_eq_self_iff.mpr ⟨h.1, fun c hc hid => ?_⟩
    have hsame : c.id = id := beq_iff_eq.mp hid
    obtain ⟨hclassical, hpq, hgroup⟩ := h.2 c hc hsame
    cases c
    simp_all [conversationRow]
  have hdb : store.db.withConversation (conversationRow P id peer false now) = store.db := by
    show { store.db with
      conversations := (store.db.withConversation
        (conversationRow P id peer false now)).conversations } = store.db
    rw [hrows]
  show { store with db := store.db.withConversation (conversationRow P id peer false now) } = store
  rw [hdb]

end Records

namespace App

theorem LeavesTables.of_isOk {app : App B} {out : Outcome AppError (App B) Unit}
    (h : IsOk out) : LeavesTables app out := by
  rintro e app' rfl
  exact h.elim

theorem LeavesTables.of_store {app : App B} {out : Outcome AppError (App B) Unit}
    (h : (state out).store = app.store) : LeavesTables app out := by
  rintro e app' rfl
  rw [show app'.store = app.store from h]
  exact .refl _

theorem LeavesTables.sendDirect {app app' : App B} (h : app'.store = app.store) (peer : PeerId)
    (envelope : NetworkEnvelope) : LeavesTables app (sendDirect peer envelope app') := by
  obtain ⟨node, hstate⟩ := exists_sendDirect_state peer envelope app'
  refine .of_store ?_
  rw [hstate]
  exact h

theorem LeavesTables.withContext {app app' : App B} {step : AppM B Unit}
    (h : LeavesTables app (step app')) (text : String) :
    LeavesTables app (withContext text step app') := by
  intro e app'' hrun
  cases hstep : step app' with
  | ok a out =>
    rw [App.withContext, hstep] at hrun
    cases hrun
  | error e' out =>
    rw [App.withContext, hstep] at hrun
    cases hrun
    exact h e' _ hstep

section Arms

variable (P : Primitives B) [Serde (HybridSignature B)]

theorem leavesTables_onBundleReq [Serde (PreKeyBundle B)] (sender : PeerId) (now : Int)
    (app : App B) : LeavesTables app (onBundleReq P sender now app) := by
  rw [onBundleReq_eq]
  cases app.responder with
  | none => exact .of_store rfl
  | some h => exact .sendDirect rfl sender _

omit [Serde (HybridSignature B)] in
theorem leavesTables_onGroupKey [Serde (GroupKeyDistribution B)] (body : Bytes) (app : App B) :
    LeavesTables app (onGroupKey P body app) := by
  rw [onGroupKey_eq]
  cases (Serde.fromSlice body : Option (GroupKeyDistribution B)) with
  | none => exact .of_store rfl
  | some distribution => cases app.session <;> exact .of_store rfl

/-- The bundle is taken, or the conversation has its identity already. -/
def BundleClean [Serde (PreKeyBundle B)] (app : App B) (body : Bytes) (draws : Draws B) : Prop :=
  ∀ bundle h, parseBundle body = .ok bundle → app.initiator = some h →
    Database.Bindable app.store.deviceId →
    (app.BundleTaken P body draws ∧ app.node.running = true) ∨
      app.store.Records P app.store.deviceId bundle.identityKey

theorem leavesTables_onBundle [Serde (PreKeyBundle B)] [Serde (PqxdhPrekeyMessage B)]
    {app : App B} {body : Bytes} {draws : Draws B} (hclean : BundleClean P app body draws) :
    LeavesTables app (onBundle P body draws app) := by
  by_cases htaken : app.BundleTaken P body draws ∧ app.node.running = true
  · exact .of_isOk ((isOk_onBundle P htaken.2 body draws).mpr
      ((bundleAccepted_iff P app body draws).mpr htaken.1))
  rw [onBundle_eq]
  cases hparse : (parseBundle body : Except AppError (PreKeyBundle B)) with
  | error e => exact .of_store rfl
  | ok bundle =>
    cases hinitiator : app.initiator with
    | none => exact .of_store rfl
    | some h =>
      by_cases hid : Database.Bindable app.store.deviceId
      · have hrecords := (hclean bundle h hparse hinitiator hid).resolve_left htaken
        simp only [hid, if_true, hrecords.recorded_eq]
        cases h.sendPrekey P bundle draws.ephemeral draws.coins draws.now with
        | error e h' => exact .of_store rfl
        | ok out h' => exact .withContext (.sendDirect rfl out.peer out.envelope) _
      · simp only [hid, if_false]
        exact .of_store rfl

theorem leavesTables_onPrekey [Serde (PqxdhPrekeyMessage B)] [Serde (SessionKeys B)]
    [Serde (RatchetSnapshot B)] {app : App B} {envelope : NetworkEnvelope} {body : Bytes}
    (hclean : app.PrekeyTaken P envelope body → app.node.running = true) (sender : PeerId)
    (draws : Draws B) : LeavesTables app (onPrekey P sender envelope body draws app) := by
  by_cases htaken : app.PrekeyAccepted P envelope body
  · have hrunning := hclean ((prekeyAccepted_iff P app envelope body).mp htaken)
    exact .of_isOk ((isOk_onPrekey P hrunning sender envelope body draws).mpr htaken)
  rw [onPrekey_eq]
  cases hsender : senderConversation envelope with
  | error e => exact .of_store rfl
  | ok conversationId =>
    cases hresponder : app.responder with
    | none => exact .of_store rfl
    | some h =>
      simp only
      have hok := h.isOk_onPrekey (P := P) body conversationId draws.responderRatchet
      cases hrun : h.onPrekey P body conversationId draws.responderRatchet with
      | error e h' => exact .of_store rfl
      | ok out h' =>
        rw [hrun] at hok
        obtain ⟨message, signedPrekey, output, hparse, hprekey, hpqxdh⟩ := hok.mp trivial
        by_cases hid : Database.Bindable conversationId
        · exact absurd ⟨conversationId, h, message, signedPrekey, output, hsender, hresponder,
            hparse, hprekey, hpqxdh, hid⟩ htaken
        · simp only [hid, if_false]
          exact .of_store rfl

variable [Serde (RatchetMessageHeader B)] [Serde (SessionKeys B)] [Serde (RatchetSnapshot B)]

/-- The driver works for the device of the store. -/
def OwnDevice (app : App B) : Prop :=
  ∀ h, app.initiator = some h → h.deviceId = app.store.deviceId

/-- If the ratchet key completes the handshake, the greeting can be sealed and
sent. -/
def RatchetPubClean (app : App B) (body : Bytes) (draws : Draws B) : Prop :=
  ∀ h output peer peerPublic, app.initiator = some h → h.pending = some output →
    h.peerIdentity = some peer → P.tryFrom 32 body = some peerPublic →
    Database.Bindable app.store.deviceId →
    app.node.running = true ∧
      (P.aeadEncrypt
        (((⟨(SessionKeys.new P true output.sharedSecret peer).rootKey⟩ : RootKey B).ratchetStep P
          (P.diffieHellman draws.initiatorRatchet peerPublic)).2.messageKey P).key (nonceOf 0)
        (Serde.toVec
          (⟨P.x25519Public draws.initiatorRatchet, 0, 0⟩ : RatchetMessageHeader B))
        (greetingOf app.store.deviceId)).isSome

theorem leavesTables_onRatchetPub [Serde (GroupKeyDistribution B)] {app : App B} {body : Bytes}
    {draws : Draws B} (hdevice : app.OwnDevice) (hclean : RatchetPubClean P app body draws)
    (sender : PeerId) : LeavesTables app (onRatchetPub P sender body draws app) := by
  by_cases htaken : app.RatchetPubAccepted P body draws ∧ app.node.running = true
  · exact .of_isOk ((isOk_onRatchetPub P htaken.2 sender body draws).mpr htaken.1)
  rw [onRatchetPub_eq]
  cases hinitiator : app.initiator with
  | none => exact .of_store rfl
  | some h =>
    simp only
    cases hrun : h.establish P body draws.initiatorRatchet with
    | error e h' => exact .of_store rfl
    | ok chat h' =>
      obtain ⟨output, peer, theirs, hpending, hpeer, hpublic, -, -⟩ :=
        InitiatorHandshake.establish_eq_ok hrun
      by_cases hid : Database.Bindable app.store.deviceId
      · obtain ⟨hrunning, hseals⟩ :=
          hclean h output peer theirs hinitiator hpending hpeer hpublic hid
        -- the session goes under the conversation that was just recorded
        have hown : h.deviceId = app.store.deviceId := hdevice h hinitiator
        refine absurd ⟨(ratchetPubAccepted_iff_taken P app body draws).mpr ?_, hrunning⟩ htaken
        exact ⟨h, hinitiator, output, hpending, peer, hpeer, theirs, hpublic, hid, hown ▸ hid,
          Or.inr hown.symm, hseals⟩
      · simp only [hid, if_false]
        exact .of_store rfl

variable [DecidableEq (B X25519_PUBLIC_KEY_SIZE)]

/-- The message is taken, or it does not decrypt and the conversation is
recorded for the peer of the session already. -/
def ChatClean (app : App B) (envelope : NetworkEnvelope) (draws : Draws B) : Prop :=
  ∀ conversationId session, fromUtf8 envelope.conversationId = some conversationId →
    app.live conversationId = .ok (some session) → Database.Bindable conversationId →
    app.ChatTaken P envelope draws ∨
      (app.store.Records P conversationId session.peerIdentity ∧ ¬ session.Opens P envelope)

theorem leavesTables_onChat {app : App B} {envelope : NetworkEnvelope} {draws : Draws B}
    (hclean : ChatClean P app envelope draws) :
    LeavesTables app (onChat P envelope draws app) := by
  by_cases htaken : app.ChatTaken P envelope draws
  · exact .of_isOk ((isOk_onChat P envelope draws app).mpr
      ((chatAccepted_iff P app envelope draws).mpr htaken))
  rw [onChat_eq]
  cases hid : fromUtf8 envelope.conversationId with
  | none => exact .of_store rfl
  | some conversationId =>
    simp only
    cases hlive : app.live conversationId with
    | error e => exact .of_store rfl
    | ok found =>
      cases found with
      | none => exact .of_store rfl
      | some session =>
        by_cases hbind : Database.Bindable conversationId
        · obtain ⟨hrecords, hfails⟩ :=
            (hclean conversationId session hid hlive hbind).resolve_left htaken
          simp only [hbind, if_true, hrecords.recorded_eq]
          cases hdecrypt : session.decrypt P envelope with
          | error e session' => exact .of_store rfl
          | ok plaintext session' =>
            rw [← ChatSession.isOk_decrypt_iff, hdecrypt] at hfails
            exact absurd trivial hfails
        · simp only [hbind, if_false]
          exact .of_store rfl

variable [Serde (PreKeyBundle B)] [Serde (PqxdhPrekeyMessage B)] [Serde (GroupKeyDistribution B)]

/-- No failure of the arm comes behind a write that changes a row. -/
def FailsClean (app : App B) (envelope : NetworkEnvelope) (draws : Draws B) : Prop :=
  let body := envelope.encryptedPayload.drop 1
  match envelope.arm with
  | .bundleReq => True
  | .bundle => app.BundleClean P body draws
  | .prekey => app.PrekeyTaken P envelope body → app.node.running = true
  | .ratchetPub => app.RatchetPubClean P body draws
  | .groupKey => True
  | .chat => app.ChatClean P envelope draws

theorem leavesTables_handleDirect {app : App B} {envelope : NetworkEnvelope} {draws : Draws B}
    (hdevice : app.OwnDevice) (hclean : app.FailsClean P envelope draws) (sender : PeerId) :
    LeavesTables app (handleDirect P sender envelope draws app) := by
  -- no arm reads the peer that was just noted
  show LeavesTables { app with peer := app.peer.or (some sender) } (runArm P envelope.arm sender
    envelope draws { app with peer := app.peer.or (some sender) })
  unfold FailsClean at hclean
  unfold runArm
  cases harm : envelope.arm with
  | bundleReq => exact leavesTables_onBundleReq P sender draws.now _
  | bundle =>
    rw [harm] at hclean
    exact leavesTables_onBundle P hclean
  | prekey =>
    rw [harm] at hclean
    exact leavesTables_onPrekey P (by exact hclean) sender draws
  | ratchetPub =>
    rw [harm] at hclean
    exact leavesTables_onRatchetPub P (by exact hdevice) (by exact hclean) sender
  | groupKey => exact leavesTables_onGroupKey P _ _
  | chat =>
    rw [harm] at hclean
    exact leavesTables_onChat P hclean

end Arms

end App

theorem App.OwnDevice.of_rooted {app app' : App B} (h : app.OwnDevice) (hrooted : Rooted app app') :
    app'.OwnDevice := by
  intro d hd
  have hid := hrooted.initiator
  rw [hd] at hid
  obtain ⟨d₀, hd₀, hsame⟩ := Option.map_eq_some_iff.mp hid.symm
  rw [← hsame, h d₀ hd₀, hrooted.deviceId]

/-- An initiator starts so. -/
theorem App.ownDevice_startInitiator [Serde (SessionKeys B)] [Serde (RatchetSnapshot B)]
    {store : NodeStore B} {peer : PeerId} {app : App B}
    (h : startInitiator store peer = .ok app) : app.OwnDevice := by
  obtain ⟨session, -, hstart⟩ := Except.bind_eq_ok.mp h
  cases hstart
  intro d hd
  cases hd
  rfl

section Runs

variable (P : Primitives B) [Serde (HybridSignature B)] [Serde (RatchetMessageHeader B)]
  [Serde (PreKeyBundle B)] [Serde (PqxdhPrekeyMessage B)] [Serde (GroupKeyDistribution B)]
  [Serde (SessionKeys B)] [Serde (RatchetSnapshot B)] [Serde SenderKeyMessage]
  [DecidableEq (B X25519_PUBLIC_KEY_SIZE)]

/-- The application in which a call of a run is made. -/
theorem RunLoop.rooted_directCalls {loop : RunLoop B} {inputs : List (Input B)}
    {call : DirectCall B} (h : call ∈ (RunLoop.machine P).trace RunLoop.directCalls loop inputs) :
    App.Rooted loop.state.app call.app := by
  obtain ⟨before, input, after, -, hmem⟩ := Machine.mem_trace.mp h
  have hrooted := RunLoop.rooted_run P loop before
  unfold RunLoop.directCalls at hmem
  split at hmem
  next =>
    split at hmem
    next =>
      obtain rfl := List.mem_singleton.mp hmem
      exact hrooted
    next => cases hmem
  next => cases hmem

/-- In a run whose messages all meet the condition when they come, no message
for which `handle_direct` fails changes the `conversations`, the `sessions` or
the `messages` table. -/
theorem failed_messages_leave_tables (loop : RunLoop B) (hdevice : loop.state.app.OwnDevice)
    (inputs : List (Input B))
    (hclean : ∀ call ∈ (RunLoop.machine P).trace RunLoop.directCalls loop inputs,
      call.app.FailsClean P call.envelope call.draws) :
    ∀ call ∈ (RunLoop.machine P).trace RunLoop.directCalls loop inputs, ∀ e app',
      App.handleDirect P call.sender call.envelope call.draws call.app = .error e app' →
        call.app.store.db.SameTables app'.store.db := by
  intro call hcall
  have hrooted := RunLoop.rooted_directCalls P hcall
  exact App.leavesTables_handleDirect P (hdevice.of_rooted hrooted) (hclean call hcall) call.sender

end Runs

namespace Sym

def stranger : IdentityKeyPair Sym := { classical := [90], pq := [91] }

/-- A bundle under the identity of the stranger, with the signature of the
responder. -/
def forgedBundle : NetworkEnvelope :=
  syncEnvelope primitives stranger "m" MARKER_BUNDLE
    (Serde.toVec { responderBundle with identityKey := stranger.publicKey primitives }) 9

/-- A bundle of the responder without its signature. -/
def unsignedBundle : NetworkEnvelope :=
  syncEnvelope primitives stranger "m" MARKER_BUNDLE
    (Serde.toVec { responderBundle with bundleSignature := ⟨[], []⟩ }) 9

/-- The classical keys of the peers that are recorded. -/
def recordedPeers (app : App Sym) : List Bytes :=
  app.store.db.conversations.map (·.peerClassical)

/-- Whether a call fails, and the peers recorded before and after it. -/
def peersAround (call : DirectCall Sym) : Bool × List Bytes × List Bytes :=
  match App.handleDirect primitives call.sender call.envelope call.draws call.app with
  | .ok _ app => (false, recordedPeers call.app, recordedPeers app)
  | .error _ app => (true, recordedPeers call.app, recordedPeers app)

/-- The responder's bundle, and then the forged one. -/
def forgedInputs : List (Input Sym) :=
  [.event (.directMessage [1] bundleEnvelope) draws,
    .event (.directMessage [7] forgedBundle) draws]

/-- The responder's bundle, and then the same one without its signature. -/
def unsignedInputs : List (Input Sym) :=
  [.event (.directMessage [1] bundleEnvelope) draws,
    .event (.directMessage [7] unsignedBundle) draws]

open scoped Presidium.Sym in
theorem peersAround_unsignedInputs :
    ((RunLoop.machine primitives).trace RunLoop.directCalls (RunLoop.start freshInitiator)
      unsignedInputs).map peersAround =
      [(false, [], [[7, 40]]), (true, [[7, 40]], [[7, 40]])] := by
  decide +kernel

/-- Each call brings a bundle that is taken, or one of the recorded peer. -/
def BundleCall (call : DirectCall Sym) : Prop :=
  call.envelope.arm = .bundle ∧
    ((call.app.BundleTaken primitives (call.envelope.encryptedPayload.drop 1) call.draws ∧
        call.app.node.running = true) ∨
      ∃ bundle ∈ (Serde.fromSlice (call.envelope.encryptedPayload.drop 1) :
          Option (PreKeyBundle Sym)),
        call.app.store.Records primitives call.app.store.deviceId bundle.identityKey)

instance (call : DirectCall Sym) : Decidable (BundleCall call) :=
  inferInstanceAs (Decidable (_ ∧ (_ ∨ ∃ _ ∈ _, _ ∧ _)))

open scoped Presidium.Sym in
theorem bundleCall_unsignedInputs : ∀ call ∈ (RunLoop.machine primitives).trace
    RunLoop.directCalls (RunLoop.start freshInitiator) unsignedInputs, BundleCall call := by
  decide +kernel

theorem BundleCall.failsClean {call : DirectCall Sym} (h : BundleCall call) :
    call.app.FailsClean primitives call.envelope call.draws := by
  obtain ⟨harm, htaken⟩ := h
  unfold App.FailsClean
  rw [harm]
  show call.app.BundleClean primitives (call.envelope.encryptedPayload.drop 1) call.draws
  intro bundle driver hparse _ _
  refine htaken.imp id ?_
  rintro ⟨bundle', hparse', hrecords⟩
  rw [parseBundle_eq_ok] at hparse
  rw [Option.some.inj (hparse.symm.trans hparse')]
  exact hrecords

open scoped Presidium.Sym in
theorem peersAround_forgedInputs :
    ((RunLoop.machine primitives).trace RunLoop.directCalls (RunLoop.start freshInitiator)
      forgedInputs).map peersAround =
      [(false, [], [[7, 40]]), (true, [[7, 40]], [[7, 90]])] := by
  decide +kernel

end Sym

open scoped Presidium.Sym in
/-- The initiator takes the bundle of the responder.  Then a bundle of the
responder comes that does not verify: `handle_direct` writes the conversation and
fails, and the conversation is as it was. -/
theorem failed_messages_unsignedBundle :
    (∃ call ∈ (RunLoop.machine Sym.primitives).trace RunLoop.directCalls
        (RunLoop.start Sym.freshInitiator) Sym.unsignedInputs,
      Sym.peersAround call = (true, [[7, 40]], [[7, 40]])) ∧
    ∀ call ∈ (RunLoop.machine Sym.primitives).trace RunLoop.directCalls
        (RunLoop.start Sym.freshInitiator) Sym.unsignedInputs, ∀ e app',
      App.handleDirect Sym.primitives call.sender call.envelope call.draws call.app =
        .error e app' → call.app.store.db.SameTables app'.store.db := by
  refine ⟨List.mem_map.mp ?_, ?_⟩
  · rw [Sym.peersAround_unsignedInputs]
    decide
  · exact failed_messages_leave_tables _ _
      (App.ownDevice_startInitiator Sym.startInitiator_initiatorStore) _
      fun call hcall => (Sym.bundleCall_unsignedInputs call hcall).failsClean

open scoped Presidium.Sym in
/-- The initiator has recorded the responder.  The forged bundle does not verify,
so `handle_direct` fails, but the conversation is with the stranger now. -/
theorem forged_bundle_replaces_peer :
    App.startInitiator Sym.initiatorStore [1] = .ok Sym.freshInitiator ∧
      ∃ call ∈ (RunLoop.machine Sym.primitives).trace RunLoop.directCalls
          (RunLoop.start Sym.freshInitiator) Sym.forgedInputs, ∃ e app',
        App.handleDirect Sym.primitives call.sender call.envelope call.draws call.app =
            .error e app' ∧
          Sym.recordedPeers call.app = [[7, 40]] ∧ Sym.recordedPeers app' = [[7, 90]] ∧
          ¬ call.app.store.db.SameTables app'.store.db := by
  refine ⟨Sym.startInitiator_initiatorStore, ?_⟩
  have hmem : (true, [[7, 40]], [[7, 90]]) ∈
      ((RunLoop.machine Sym.primitives).trace RunLoop.directCalls
        (RunLoop.start Sym.freshInitiator) Sym.forgedInputs).map Sym.peersAround := by
    rw [Sym.peersAround_forgedInputs]
    decide
  obtain ⟨call, hcall, haround⟩ := List.mem_map.mp hmem
  unfold Sym.peersAround at haround
  cases hrun : App.handleDirect Sym.primitives call.sender call.envelope call.draws call.app with
  | ok a app' =>
    rw [hrun] at haround
    cases haround
  | error e app' =>
    rw [hrun] at haround
    have hbefore : Sym.recordedPeers call.app = [[7, 40]] := congrArg (·.2.1) haround
    have hafter : Sym.recordedPeers app' = [[7, 90]] := congrArg (·.2.2) haround
    refine ⟨call, hcall, e, app', hrun, hbefore, hafter, fun hsame => ?_⟩
    have hpeers : Sym.recordedPeers app' = Sym.recordedPeers call.app :=
      congrArg (List.map ConversationRecord.peerClassical) hsame.conversations
    rw [hbefore, hafter] at hpeers
    cases hpeers

end Presidium
