import Presidium.Demo.Serving

/-!
# Who vouches for a control message

The marker arms of `handle_direct` install keys: a bundle sets the peer
identity and the pending output of the handshake, a prekey message and a
ratchet key set the session, a group key sets the receiver keys.  Each of them
arrives in an envelope that its sender has signed, but only `decrypt` looks at
the signature.

`attribution` says which envelopes install keys, and under which identity, from
the envelope and the state before the call.  The keys are authenticated in a run
in which every such envelope was made by the node that has the key pair of that
identity, and nothing in `handle_direct` makes sure that it was.
-/

namespace Presidium

variable {B : Nat → Type} (P : Primitives B) [Serde (HybridSignature B)]

/-- `verify_envelope` accepts the envelope under the identity. -/
def Vouched (envelope : NetworkEnvelope) (identity : Option (IdentityPublicKey B)) : Prop :=
  ∃ id, identity = some id ∧ verifyEnvelope P id envelope = .ok true

/-- The identity and the pending output of a handshake. -/
def App.handshake (app : App B) : Option (IdentityPublicKey B) × Option (PqxdhOutput B) :=
  (app.initiator.bind InitiatorHandshake.peerIdentity, app.initiator.bind InitiatorHandshake.pending)

/-- What an envelope has replaced, it was accepted for: the session under the
identity of the new session, the receiver keys under the identity of the
session, and the handshake under the identity of the bundle. -/
structure Authenticated (envelope : NetworkEnvelope) (app app' : App B) : Prop where
  session : app'.session ≠ app.session →
    Vouched P envelope (app'.session.map ChatSession.peerIdentity)
  receiver : app'.group.receiver ≠ app.group.receiver →
    Vouched P envelope (app.session.map ChatSession.peerIdentity)
  handshake : app'.handshake ≠ app.handshake → Vouched P envelope app'.handshake.1

/-- The envelope was built by the node with the key pair of the identity. -/
def MadeBy (envelope : NetworkEnvelope) (identity : Option (IdentityPublicKey B)) : Prop :=
  ∃ (pair : IdentityKeyPair B) (deviceId : String) (kind : Int)
    (conversationId payload headerJson : Bytes) (now : Int),
    identity = some (pair.publicKey P) ∧
      envelope = buildRawEnvelope P pair deviceId kind conversationId payload headerJson now

variable {P} in
theorem MadeBy.vouched [LawfulSerde (HybridSignature B)] (hsig : P.SignaturesVerify)
    {envelope : NetworkEnvelope} {identity : Option (IdentityPublicKey B)}
    (h : MadeBy P envelope identity) : Vouched P envelope identity := by
  obtain ⟨pair, deviceId, kind, conversationId, payload, headerJson, now, rfl, rfl⟩ := h
  exact ⟨_, rfl, verifyEnvelope_buildRawEnvelope hsig ..⟩

/-- The identity to which an arm attributes the keys that it is about to install;
`none` where it installs none.  A handshake may have no identity to attribute a
ratchet key to. -/
def attribution [Serde (PreKeyBundle B)] [Serde (PqxdhPrekeyMessage B)]
    [Serde (GroupKeyDistribution B)] [Serde (SessionKeys B)] [Serde (RatchetSnapshot B)]
    (app : App B) (envelope : NetworkEnvelope) : Option (Option (IdentityPublicKey B)) :=
  let body := envelope.encryptedPayload.drop 1
  match envelope.arm with
  | .bundleReq => none
  | .bundle => do
    let bundle : PreKeyBundle B ← Serde.fromSlice body
    guard (app.initiator.isSome = true ∧ Database.Bindable app.store.deviceId ∧
      bundle.verify P = .ok ())
    return some bundle.identityKey
  | .prekey => do
    let message : PqxdhPrekeyMessage B ← Serde.fromSlice body
    guard (app.PrekeyTaken P envelope body)
    return some message.identityPublic
  | .ratchetPub => do
    let driver ← app.initiator
    guard (driver.pending.isSome = true)
    return driver.peerIdentity
  | .groupKey => do
    let _ : GroupKeyDistribution B ← Serde.fromSlice body
    let session ← app.session
    return some session.peerIdentity
  | .chat => do
    guard (app.session.isNone = true)
    let conversationId ← fromUtf8 envelope.conversationId
    let session : ChatSession B ← (resume app.store.db conversationId).toOption.join
    return some session.peerIdentity

namespace Authenticated

variable {P} {envelope : NetworkEnvelope} {app app' : App B}

/-- Nothing was replaced. -/
theorem of_eq (hsession : app'.session = app.session)
    (hreceiver : app'.group.receiver = app.group.receiver)
    (hhandshake : app'.handshake = app.handshake) : Authenticated P envelope app app' :=
  ⟨fun h => absurd hsession h, fun h => absurd hreceiver h, fun h => absurd hhandshake h⟩

/-- Only the session was replaced. -/
theorem of_session (hsession : Vouched P envelope (app'.session.map ChatSession.peerIdentity))
    (hreceiver : app'.group.receiver = app.group.receiver)
    (hhandshake : app'.handshake = app.handshake) : Authenticated P envelope app app' :=
  ⟨fun _ => hsession, fun h => absurd hreceiver h, fun h => absurd hhandshake h⟩

/-- Only the handshake was replaced. -/
theorem of_handshake (hsession : app'.session = app.session)
    (hreceiver : app'.group.receiver = app.group.receiver)
    (hhandshake : Vouched P envelope app'.handshake.1) : Authenticated P envelope app app' :=
  ⟨fun h => absurd hsession h, fun h => absurd hreceiver h, fun _ => hhandshake⟩

open Outcome (state) in
/-- What the node is handed is no key. -/
theorem sendDirect (h : Authenticated P envelope app app') (peer : PeerId)
    (out : NetworkEnvelope) :
    Authenticated P envelope app (state (App.sendDirect peer out app')) := by
  obtain ⟨node, hstate⟩ := App.exists_sendDirect_state peer out app'
  rw [hstate]
  exact ⟨h.session, h.receiver, h.handshake⟩

end Authenticated

section Arms

open Outcome (state)

variable {P} {envelope : NetworkEnvelope} {app : App B}

theorem authenticated_onBundleReq [Serde (PreKeyBundle B)] (sender : PeerId) (now : Int) :
    Authenticated P envelope app (state (App.onBundleReq P sender now app)) := by
  rw [App.onBundleReq_eq]
  cases app.responder with
  | none => exact .of_eq rfl rfl rfl
  | some h => exact Authenticated.sendDirect (.of_eq rfl rfl rfl) sender _

theorem authenticated_onBundle [Serde (PreKeyBundle B)] [Serde (PqxdhPrekeyMessage B)]
    {body : Bytes}
    (hvouched : ∀ (bundle : PreKeyBundle B) (h : InitiatorHandshake B),
      parseBundle body = .ok bundle → app.initiator = some h →
      Database.Bindable app.store.deviceId → bundle.verify P = .ok () →
      Vouched P envelope (some bundle.identityKey)) (draws : Draws B) :
    Authenticated P envelope app (state (App.onBundle P body draws app)) := by
  rw [App.onBundle_eq]
  cases hparse : (parseBundle body : Except AppError (PreKeyBundle B)) with
  | error e => exact .of_eq rfl rfl rfl
  | ok bundle =>
    cases hinitiator : app.initiator with
    | none => exact .of_eq rfl rfl rfl
    | some h =>
      by_cases hid : Database.Bindable app.store.deviceId
      · simp only [hid, if_true]
        have hidentity := hvouched bundle h hparse hinitiator hid
        rcases InitiatorHandshake.sendPrekey_cases (P := P) h bundle draws.ephemeral draws.coins
            draws.now with ⟨e, -, hrun⟩ | ⟨hverify, ⟨e, -, hrun⟩ | ⟨output, message, out, -, hrun⟩⟩
        · rw [hrun]
          refine .of_eq rfl rfl ?_
          unfold App.handshake
          rw [hinitiator]
          rfl
        · rw [hrun]
          exact .of_handshake rfl rfl (hidentity hverify)
        · rw [hrun, App.state_withContext]
          refine Authenticated.sendDirect ?_ out.peer out.envelope
          exact .of_handshake rfl rfl (hidentity hverify)
      · simp only [hid, if_false]
        exact .of_eq rfl rfl rfl

theorem authenticated_onPrekey [Serde (PqxdhPrekeyMessage B)] [Serde (SessionKeys B)]
    [Serde (RatchetSnapshot B)] {body : Bytes}
    (hvouched : ∀ message : PqxdhPrekeyMessage B, Serde.fromSlice body = some message →
      app.PrekeyTaken P envelope body → Vouched P envelope (some message.identityPublic))
    (sender : PeerId) (draws : Draws B) :
    Authenticated P envelope app (state (App.onPrekey P sender envelope body draws app)) := by
  rw [App.onPrekey_eq]
  cases hsender : senderConversation envelope with
  | error e => exact .of_eq rfl rfl rfl
  | ok conversationId =>
    cases hresponder : app.responder with
    | none => exact .of_eq rfl rfl rfl
    | some h =>
      simp only
      cases hrun : h.onPrekey P body conversationId draws.responderRatchet with
      | error e h' => exact .of_eq rfl rfl rfl
      | ok out h' =>
        obtain ⟨ratchetPublic, chat⟩ := out
        by_cases hid : Database.Bindable conversationId
        · simp only [hid, if_true]
          have hok := h.isOk_onPrekey (P := P) body conversationId draws.responderRatchet
          rw [hrun] at hok
          obtain ⟨_, signedPrekey, output, hparse', hprekey, hpqxdh⟩ := hok.mp trivial
          have htaken : app.PrekeyTaken P envelope body := (App.prekeyAccepted_iff P ..).mp
            ⟨conversationId, h, _, signedPrekey, output, hsender, hresponder, hparse', hprekey,
              hpqxdh, hid⟩
          obtain ⟨message, _, hparse, -, -, hchat⟩ := ResponderHandshake.onPrekey_eq_ok hrun
          have hpeer : chat.peerIdentity = message.identityPublic := by rw [hchat]
          refine Authenticated.sendDirect ?_ sender _
          refine .of_session ?_ rfl rfl
          show Vouched P envelope (some chat.peerIdentity)
          rw [hpeer]
          exact hvouched message hparse htaken
        · simp only [hid, if_false]
          exact .of_eq rfl rfl rfl

theorem authenticated_onGroupKey [Serde (GroupKeyDistribution B)] {body : Bytes}
    (hvouched : ∀ (distribution : GroupKeyDistribution B) (session : ChatSession B),
      Serde.fromSlice body = some distribution → app.session = some session →
      Vouched P envelope (some session.peerIdentity)) :
    Authenticated P envelope app (state (App.onGroupKey P body app)) := by
  rw [App.onGroupKey_eq]
  cases hparse : (Serde.fromSlice body : Option (GroupKeyDistribution B)) with
  | none => exact .of_eq rfl rfl rfl
  | some distribution =>
    cases hsession : app.session with
    | none => exact .of_eq rfl rfl rfl
    | some session =>
      refine ⟨fun h => absurd hsession.symm h, fun _ => ?_, fun h => absurd rfl h⟩
      rw [hsession]
      exact hvouched distribution session hparse hsession

variable [Serde (RatchetMessageHeader B)] [Serde (SessionKeys B)] [Serde (RatchetSnapshot B)]

theorem authenticated_onRatchetPub [Serde (GroupKeyDistribution B)] {body : Bytes}
    (hvouched : ∀ (h : InitiatorHandshake B) (output : PqxdhOutput B),
      app.initiator = some h → h.pending = some output → Vouched P envelope h.peerIdentity)
    (sender : PeerId) (draws : Draws B) :
    Authenticated P envelope app (state (App.onRatchetPub P sender body draws app)) := by
  rw [App.onRatchetPub_eq]
  cases hinitiator : app.initiator with
  | none => exact .of_eq rfl rfl rfl
  | some h =>
    simp only
    cases hpending : h.pending with
    | none =>
      have hrun : h.establish P body draws.initiatorRatchet =
          .error (.message "no pqxdh output") h := by
        unfold InitiatorHandshake.establish
        simp only [hpending]
      rw [hrun]
      refine .of_eq rfl rfl ?_
      unfold App.handshake
      rw [hinitiator]
      rfl
    | some output =>
      have hidentity := hvouched h output hinitiator hpending
      have hstate := h.establish_state (P := P) body draws.initiatorRatchet
      cases hrun : h.establish P body draws.initiatorRatchet with
      | error e h' =>
        rw [hrun] at hstate
        obtain rfl : h' = { h with pending := none } := hstate
        exact .of_handshake rfl rfl hidentity
      | ok chat h' =>
        obtain ⟨_, peer, _, -, hpeer, -, rfl, hchat⟩ := InitiatorHandshake.establish_eq_ok hrun
        have hsession : Vouched P envelope (some chat.peerIdentity) := by
          rw [hchat, ← hpeer]
          exact hidentity
        by_cases hid : Database.Bindable app.store.deviceId
        · simp only [hid, if_true]
          split
          · exact .of_handshake rfl rfl hidentity
          · have hadopted : (app.adopted P { h with pending := none } chat draws).session =
                some chat := rfl
            obtain ⟨node, store, r, hsent⟩ := App.exists_syncGreet_state P hadopted sender
              MARKER_GROUP_KEY _ draws.now
            rw [hsent]
            exact ⟨fun _ => hsession, fun hne => absurd rfl hne, fun _ => hidentity⟩
        · simp only [hid, if_false]
          exact .of_handshake rfl rfl hidentity

variable [DecidableEq (B X25519_PUBLIC_KEY_SIZE)]

omit [Serde (SessionKeys B)] [Serde (RatchetSnapshot B)] in
/-- `decrypt` moves the ratchet for a verified envelope only. -/
theorem verifyEnvelope_of_decrypt_ne {s : ChatSession B}
    (h : state (s.decrypt P envelope) ≠ s) :
    verifyEnvelope P s.peerIdentity envelope = .ok true := by
  rcases ChatSession.decrypt_cases (P := P) s envelope with ⟨⟨e, hrefused⟩, -⟩ | ⟨_, -, hverify, -⟩
  · rw [hrefused] at h
    exact absurd rfl h
  · exact hverify

/-- An exit of the chat arm with the session that is live, before or after
`decrypt`. -/
theorem Authenticated.of_live {app' : App B} {conversationId : String} {session : ChatSession B}
    (hlive : app.live conversationId = .ok (some session))
    (hresumed : app.session = none → resume app.store.db conversationId = .ok (some session) →
      Vouched P envelope (some session.peerIdentity))
    (hsession : app'.session = some session ∨
      app'.session = some (state (session.decrypt P envelope)))
    (hreceiver : app'.group.receiver = app.group.receiver)
    (hhandshake : app'.handshake = app.handshake) : Authenticated P envelope app app' := by
  obtain ⟨r, hstate⟩ := ChatSession.exists_decrypt_state (P := P) session envelope
  have hpeer : app'.session.map ChatSession.peerIdentity = some session.peerIdentity := by
    rcases hsession with h | h
    · rw [h]
      rfl
    · rw [h, hstate]
      rfl
  rcases App.live_eq_some hlive with hcurrent | ⟨hnone, hresume⟩
  · refine ⟨fun hne => ?_, fun h => absurd hreceiver h, fun h => absurd hhandshake h⟩
    rw [hpeer]
    refine ⟨_, rfl, verifyEnvelope_of_decrypt_ne fun hsame => hne ?_⟩
    rw [hcurrent]
    rcases hsession with h | h
    · exact h
    · rw [h, hsame]
  · refine .of_session ?_ hreceiver hhandshake
    rw [hpeer]
    exact hresumed hnone hresume

omit [DecidableEq (B X25519_PUBLIC_KEY_SIZE)] [Serde (RatchetMessageHeader B)]
  [Serde (SessionKeys B)] [Serde (RatchetSnapshot B)] in
theorem Authenticated.storeIncoming {app' : App B} (h : Authenticated P envelope app app')
    {session : ChatSession B} (hsession : app'.session = some session) (conversationId : String)
    (draws : Draws B) :
    Authenticated P envelope app
      (state (App.storeIncoming P conversationId envelope draws.messageNonce draws.now app')) := by
  obtain ⟨store, hstate⟩ := App.exists_storeIncoming_state P hsession conversationId envelope draws
  rw [hstate]
  exact ⟨h.session, h.receiver, h.handshake⟩

theorem authenticated_onChat
    (hvouched : ∀ (conversationId : String) (session : ChatSession B),
      fromUtf8 envelope.conversationId = some conversationId → app.session = none →
      resume app.store.db conversationId = .ok (some session) →
      Vouched P envelope (some session.peerIdentity)) (draws : Draws B) :
    Authenticated P envelope app (state (App.onChat P envelope draws app)) := by
  rw [App.onChat_eq]
  cases hid : fromUtf8 envelope.conversationId with
  | none => exact .of_eq rfl rfl rfl
  | some conversationId =>
    simp only
    cases hlive : app.live conversationId with
    | error e => exact .of_eq rfl rfl rfl
    | ok found =>
      cases found with
      | none => exact .of_eq rfl rfl rfl
      | some session =>
        have hresumed := hvouched conversationId session hid
        by_cases hbind : Database.Bindable conversationId
        · simp only [hbind, if_true]
          cases hdecrypt : session.decrypt P envelope with
          | error e session' =>
            exact .of_live hlive hresumed (.inr (by rw [hdecrypt]; rfl)) rfl rfl
          | ok plaintext session' =>
            simp only
            split
            · exact .of_live hlive hresumed (.inr (by rw [hdecrypt]; rfl)) rfl rfl
            · refine Authenticated.storeIncoming ?_ rfl conversationId draws
              exact .of_live hlive hresumed (.inr (by rw [hdecrypt]; rfl)) rfl rfl
        · simp only [hbind, if_false]
          exact .of_live hlive hresumed (.inl rfl) rfl rfl

end Arms

/-! ## Runs -/

section Runs

open Outcome (state)

variable {P} [Serde (RatchetMessageHeader B)] [Serde (PreKeyBundle B)]
  [Serde (PqxdhPrekeyMessage B)] [Serde (GroupKeyDistribution B)] [Serde (SessionKeys B)]
  [Serde (RatchetSnapshot B)] [DecidableEq (B X25519_PUBLIC_KEY_SIZE)]

/-- One call of `handle_direct`, from any state. -/
theorem authenticated_handleDirect {app : App B} {envelope : NetworkEnvelope}
    (hvouched : ∀ identity ∈ attribution P app envelope, Vouched P envelope identity)
    (sender : PeerId) (draws : Draws B) :
    Authenticated P envelope app (state (App.handleDirect P sender envelope draws app)) := by
  -- the arm runs on a state that knows its peer, and no arm reads that field
  have harm : Authenticated P envelope { app with peer := app.peer.or (some sender) }
      (state (App.handleDirect P sender envelope draws app)) := by
    show Authenticated P envelope _
      (state (App.runArm P envelope.arm sender envelope draws
        { app with peer := app.peer.or (some sender) }))
    unfold App.runArm
    unfold attribution at hvouched
    cases harm : envelope.arm with
    | bundleReq => exact authenticated_onBundleReq sender draws.now
    | bundle =>
      refine authenticated_onBundle (fun bundle h hparse hinitiator hid hverify => ?_) draws
      refine hvouched _ ?_
      have hinitiator' : app.initiator = some h := hinitiator
      have hid' : Database.Bindable app.store.deviceId := hid
      simp [-List.drop_one, guard, harm, parseBundle_eq_ok.mp hparse, hinitiator', hid', hverify]
    | prekey =>
      refine authenticated_onPrekey (fun message hparse htaken => hvouched _ ?_) sender draws
      have htaken' : app.PrekeyTaken P envelope (envelope.encryptedPayload.drop 1) := htaken
      simp [-List.drop_one, guard, harm, hparse, htaken']
    | ratchetPub =>
      refine authenticated_onRatchetPub (fun h output hinitiator hpending => ?_) sender draws
      refine hvouched _ ?_
      have hinitiator' : app.initiator = some h := hinitiator
      simp [guard, harm, hinitiator', hpending]
    | groupKey =>
      refine authenticated_onGroupKey fun distribution session hparse hsession => hvouched _ ?_
      have hsession' : app.session = some session := hsession
      simp [-List.drop_one, harm, hparse, hsession']
    | chat =>
      refine authenticated_onChat (fun conversationId session hid hsession hresume => ?_) draws
      refine hvouched _ ?_
      have hsession' : app.session = none := hsession
      have hresume' : resume app.store.db conversationId = .ok (some session) := hresume
      simp [guard, harm, hid, hsession', hresume', Except.toOption]
  exact ⟨harm.session, harm.receiver, harm.handshake⟩

variable [Serde SenderKeyMessage] [LawfulSerde (HybridSignature B)]

/-- In a run in which every envelope that installs keys was made by the node with
the key pair of the identity that they are attributed to, every key that
`handle_direct` replaces is authenticated. -/
theorem control_messages_authenticated (hsig : P.SignaturesVerify) (loop : RunLoop B)
    (inputs : List (Input B))
    (hmade : ∀ call ∈ (RunLoop.machine P).trace RunLoop.directCalls loop inputs,
      ∀ identity ∈ attribution P call.app call.envelope, MadeBy P call.envelope identity) :
    ∀ call ∈ (RunLoop.machine P).trace RunLoop.directCalls loop inputs,
      Authenticated P call.envelope call.app
        (state (App.handleDirect P call.sender call.envelope call.draws call.app)) := by
  intro call hcall
  refine authenticated_handleDirect (fun identity hidentity => ?_) call.sender call.draws
  exact (hmade call hcall identity hidentity).vouched hsig

end Runs

namespace Sym

/-- A sync envelope that nobody has signed. -/
def unsigned (marker : UInt8) (body : Bytes) : NetworkEnvelope :=
  { kind := KIND_SYNC
    conversationId := asBytes "m"
    encryptedPayload := marker :: body
    nonce := []
    mac := []
    senderDeviceId := asBytes "m"
    timestamp := 0
    protocolVersion := 1
    signature := [] }

/-- A stranger hands the initiator a bundle, a ratchet key and a group key. -/
def strangerInputs : List (Input Sym) :=
  [.event (.directMessage [7] (unsigned MARKER_BUNDLE (Serde.toVec responderBundle))) draws,
    .event (.directMessage [7] (unsigned MARKER_RATCHET_PUB [66])) draws,
    .event (.directMessage [7] (unsigned MARKER_GROUP_KEY
      (Serde.toVec ({ chainKey := [67], keyId := 1, messageIndex := 0 } :
        GroupKeyDistribution Sym)))) draws]

/-- Which of the three keys there are. -/
def installed (app : App Sym) : Bool × Bool × Bool :=
  (app.handshake.1.isSome, app.session.isSome, app.group.receiver.isSome)

/-- An envelope without a signature is accepted for nothing. -/
theorem not_authenticated_unsigned {envelope : NetworkEnvelope} {app app' : App Sym}
    (hsignature : envelope.signature = []) (hchanged : installed app' ≠ installed app) :
    ¬ Authenticated primitives envelope app app' := by
  intro h
  have hrefused : ∀ identity, ¬ Vouched primitives envelope identity := by
    rintro identity ⟨id, -, hverify⟩
    unfold verifyEnvelope at hverify
    rw [hsignature] at hverify
    cases hverify
  have hsession := not_not.mp fun hne => hrefused _ (h.session hne)
  have hreceiver := not_not.mp fun hne => hrefused _ (h.receiver hne)
  have hhandshake := not_not.mp fun hne => hrefused _ (h.handshake hne)
  apply hchanged
  unfold installed
  rw [hsession, hreceiver, hhandshake]

open scoped Presidium.Sym in
theorem installed_strangerInputs :
    ((RunLoop.machine primitives).trace RunLoop.directCalls (RunLoop.start freshInitiator)
      strangerInputs).map (fun call => (call.envelope.signature, installed call.app,
        installed (Outcome.state
          (App.handleDirect primitives call.sender call.envelope call.draws call.app)))) =
      [([], (false, false, false), (true, false, false)),
        ([], (true, false, false), (true, true, false)),
        ([], (true, true, false), (true, true, true))] := by
  decide +kernel

end Sym

namespace Sym

/-- The identity is `pair`, and the envelope is what `pair` builds. -/
def OwnKeys (pair : IdentityKeyPair Sym) (deviceId : String) (calls : List (DirectCall Sym)) :
    Prop :=
  ∀ call ∈ calls, ∀ identity ∈ attribution hashed call.app call.envelope,
    identity.map (fun id => (id.classical, id.pq)) =
        some ((pair.publicKey hashed).classical, (pair.publicKey hashed).pq) ∧
      call.envelope = buildRawEnvelope hashed pair deviceId call.envelope.kind
        call.envelope.conversationId call.envelope.encryptedPayload call.envelope.nonce
        call.envelope.timestamp.toNat

instance (pair : IdentityKeyPair Sym) (deviceId : String) (calls : List (DirectCall Sym)) :
    Decidable (OwnKeys pair deviceId calls) :=
  inferInstanceAs (Decidable (∀ _ ∈ _, _))

theorem OwnKeys.madeBy {pair : IdentityKeyPair Sym} {deviceId : String}
    {calls : List (DirectCall Sym)} (h : OwnKeys pair deviceId calls) :
    ∀ call ∈ calls, ∀ identity ∈ attribution hashed call.app call.envelope,
      MadeBy hashed call.envelope identity := by
  intro call hcall identity hidentity
  obtain ⟨hkeys, hbuilt⟩ := h call hcall identity hidentity
  obtain ⟨⟨classical, pq⟩, rfl, hpair⟩ := Option.map_eq_some_iff.mp hkeys
  obtain ⟨rfl, rfl⟩ := Prod.mk.inj hpair
  exact ⟨pair, deviceId, _, _, _, _, _, rfl, hbuilt⟩

/-- The calls of the initiator in the handshake, and those of the responder. -/
def answerCalls : List (DirectCall Sym) :=
  (RunLoop.machine hashed).trace RunLoop.directCalls (RunLoop.start hashedInitiator)
    (answers.map fun envelope => .event (.directMessage [1] envelope) draws)

def meetingCalls : List (DirectCall Sym) :=
  (RunLoop.machine hashed).trace RunLoop.directCalls (RunLoop.start hashedResponder)
    (meeting.map fun e => .event e.1 e.2)

/-- Which calls install keys. -/
def installing (calls : List (DirectCall Sym)) : List Bool :=
  calls.map fun call => (attribution hashed call.app call.envelope).isSome

end Sym

open scoped Presidium.Sym in
/-- The initiator takes the bundle and the ratchet key of the responder, and the
responder takes the prekey message and the group key.  Each has made what it
sends. -/
theorem control_messages_meeting :
    Sym.installing Sym.answerCalls = [true, true] ∧
    Sym.installing Sym.meetingCalls = [false, true, true, false] ∧
    (∀ call ∈ Sym.answerCalls,
      Authenticated Sym.hashed call.envelope call.app (Outcome.state
        (App.handleDirect Sym.hashed call.sender call.envelope call.draws call.app))) ∧
    ∀ call ∈ Sym.meetingCalls,
      Authenticated Sym.hashed call.envelope call.app (Outcome.state
        (App.handleDirect Sym.hashed call.sender call.envelope call.draws call.app)) := by
  have hanswers : Sym.OwnKeys Sym.firstBoot.identity "3334" Sym.answerCalls := by decide +kernel
  have hmeeting : Sym.OwnKeys Sym.alice "4647" Sym.meetingCalls := by decide +kernel
  exact ⟨by decide +kernel, by decide +kernel,
    control_messages_authenticated Sym.signaturesVerify_hashed _ _ hanswers.madeBy,
    control_messages_authenticated Sym.signaturesVerify_hashed _ _ hmeeting.madeBy⟩

open scoped Presidium.Sym in
/-- The initiator takes all three messages of the stranger.  None of them is
signed, and each one replaces a key. -/
theorem stranger_replaces_keys :
    App.startInitiator Sym.initiatorStore [1] = .ok Sym.freshInitiator ∧
    ((RunLoop.machine Sym.primitives).trace RunLoop.directCalls
      (RunLoop.start Sym.freshInitiator) Sym.strangerInputs).length = 3 ∧
    ∀ call ∈ (RunLoop.machine Sym.primitives).trace RunLoop.directCalls
        (RunLoop.start Sym.freshInitiator) Sym.strangerInputs,
      ¬ Authenticated Sym.primitives call.envelope call.app (Outcome.state
        (App.handleDirect Sym.primitives call.sender call.envelope call.draws call.app)) := by
  refine ⟨Sym.startInitiator_initiatorStore, ?_, ?_⟩
  · have hlength := congrArg List.length Sym.installed_strangerInputs
    rwa [List.length_map] at hlength
  · intro call hcall
    have hmem := List.mem_map_of_mem (f := fun call : DirectCall Sym =>
      (call.envelope.signature, Sym.installed call.app, Sym.installed (Outcome.state
        (App.handleDirect Sym.primitives call.sender call.envelope call.draws call.app)))) hcall
    rw [Sym.installed_strangerInputs] at hmem
    simp only [List.mem_cons, List.not_mem_nil, or_false, Prod.mk.injEq] at hmem
    have hsignature : call.envelope.signature = [] := by
      rcases hmem with h | h | h <;> exact h.1
    refine Sym.not_authenticated_unsigned hsignature fun hsame => ?_
    rcases hmem with ⟨-, hbefore, hafter⟩ | ⟨-, hbefore, hafter⟩ | ⟨-, hbefore, hafter⟩ <;>
      · rw [hbefore, hafter] at hsame
        cases hsame

end Presidium
