import Presidium.Demo.Inbound

/-!
# When `handle_direct` succeeds

For each arm the exact condition under which it gets to its end, with a node
that takes what it is handed: the roles, the parsers, the signatures, the
handshake, the ratchet and the statements of the database, in the order of the
source.  Every other envelope is an error, and an error ends the loop.
-/

namespace Presidium

variable {B : Nat → Type}

open Outcome (IsOk)

/-- A message can be stored in a conversation that there is: the header is a
text that can be bound, and the message id is new. -/
structure Database.Fits (db : Database) (conversationId : String) (messageId headerJson : Bytes) :
    Prop where
  header : ∃ header, fromUtf8 headerJson = some header ∧ Database.Bindable header
  unique : ∀ m ∈ db.messages, ¬ (m.conversationId = conversationId ∧ m.messageId = messageId)

theorem Database.fits_congr {db db' : Database} {conversationId : String}
    {messageId headerJson : Bytes} (h : db'.messages = db.messages) :
    db'.Fits conversationId messageId headerJson ↔
      db.Fits conversationId messageId headerJson := by
  constructor
  · exact fun hfits => ⟨hfits.header, by rw [← h]; exact hfits.unique⟩
  · exact fun hfits => ⟨hfits.header, by rw [h]; exact hfits.unique⟩

namespace App

section Arms

variable (P : Primitives B) [Serde (HybridSignature B)]

/-- The initiator takes the bundle. -/
def BundleAccepted [Serde (PreKeyBundle B)] (app : App B) (body : Bytes) (draws : Draws B) :
    Prop :=
  ∃ bundle h output, parseBundle body = .ok bundle ∧ app.initiator = some h ∧
    Database.Bindable app.store.deviceId ∧ bundle.verify P = .ok () ∧
    pqxdhInitiator P ⟨h.identity, draws.ephemeral, bundle⟩ draws.coins = .ok output

omit [Serde (HybridSignature B)] in
theorem isOk_sendDirect {app : App B} (hrunning : app.node.running = true) (peer : PeerId)
    (envelope : NetworkEnvelope) : IsOk (sendDirect peer envelope app) := by
  rw [sendDirect_ok hrunning]
  trivial

theorem isOk_onBundleReq [Serde (PreKeyBundle B)] {app : App B}
    (hrunning : app.node.running = true) (sender : PeerId) (now : Int) :
    IsOk (onBundleReq P sender now app) ↔ app.responder.isSome = true := by
  rw [onBundleReq_eq]
  cases app.responder with
  | none => simp
  | some h => exact iff_of_true (isOk_sendDirect hrunning sender _) rfl

theorem isOk_onBundle [Serde (PreKeyBundle B)] [Serde (PqxdhPrekeyMessage B)] {app : App B}
    (hrunning : app.node.running = true) (body : Bytes) (draws : Draws B) :
    IsOk (onBundle P body draws app) ↔ BundleAccepted P app body draws := by
  unfold BundleAccepted
  rw [onBundle_eq]
  cases hparse : (parseBundle body : Except AppError (PreKeyBundle B)) with
  | error e => simp
  | ok bundle =>
    cases hinitiator : app.initiator with
    | none => simp
    | some h =>
      by_cases hid : Database.Bindable app.store.deviceId
      · rcases h.sendPrekey_cases (P := P) bundle draws.ephemeral draws.coins draws.now with
          ⟨e, hverify, hrun⟩ | ⟨hverify, ⟨e, hpqxdh, hrun⟩ | ⟨output, message, out, hpqxdh, hrun⟩⟩
        · simp [hid, hrun, hverify]
        · simp [hid, hrun, hpqxdh]
        · simp only [hid, if_true, hrun]
          rw [isOk_withContext]
          refine iff_of_true (isOk_sendDirect (by exact hrunning) _ _) ?_
          exact ⟨bundle, h, (output, message), rfl, rfl, trivial, hverify, hpqxdh⟩
      · simp [hid]

/-- The responder takes the prekey message. -/
def PrekeyAccepted [Serde (PqxdhPrekeyMessage B)] (app : App B) (envelope : NetworkEnvelope)
    (body : Bytes) : Prop :=
  ∃ conversationId h message signedPrekey output,
    senderConversation envelope = .ok conversationId ∧ app.responder = some h ∧
    Serde.fromSlice body = some message ∧ h.prekey.privateKey P = .ok signedPrekey ∧
    pqxdhResponder P ⟨h.identity, signedPrekey, h.prekey.keyId, none, none⟩ message =
      .ok output ∧
    Database.Bindable conversationId

theorem isOk_onPrekey [Serde (PqxdhPrekeyMessage B)] [Serde (SessionKeys B)]
    [Serde (RatchetSnapshot B)] {app : App B} (hrunning : app.node.running = true)
    (sender : PeerId) (envelope : NetworkEnvelope) (body : Bytes) (draws : Draws B) :
    IsOk (onPrekey P sender envelope body draws app) ↔ PrekeyAccepted P app envelope body := by
  unfold PrekeyAccepted
  rw [onPrekey_eq]
  cases hsender : senderConversation envelope with
  | error e => simp
  | ok conversationId =>
    cases hresponder : app.responder with
    | none => simp
    | some h =>
      simp only
      have hok := h.isOk_onPrekey (P := P) body conversationId draws.responderRatchet
      cases hrun : h.onPrekey P body conversationId draws.responderRatchet with
      | error e h' =>
        rw [hrun] at hok
        refine iff_of_false (by simp) ?_
        rintro ⟨_, _, message, signedPrekey, output, -, hh, hparse, hprekey, hpqxdh, -⟩
        obtain rfl := Option.some.inj hh
        exact hok.mpr ⟨message, signedPrekey, output, hparse, hprekey, hpqxdh⟩
      | ok out h' =>
        rw [hrun] at hok
        obtain ⟨message, signedPrekey, output, hparse, hprekey, hpqxdh⟩ := hok.mp trivial
        by_cases hid : Database.Bindable conversationId
        · simp only [hid, if_true]
          refine iff_of_true (isOk_sendDirect (by exact hrunning) _ _) ?_
          exact ⟨conversationId, h, message, signedPrekey, output, rfl, rfl, hparse, hprekey,
            hpqxdh, hid⟩
        · simp [hid]

omit [Serde (HybridSignature B)] in
theorem isOk_onGroupKey [Serde (GroupKeyDistribution B)] (body : Bytes) (app : App B) :
    IsOk (onGroupKey P body app) ↔
      (Serde.fromSlice body : Option (GroupKeyDistribution B)).isSome = true ∧
        app.session.isSome = true := by
  rw [onGroupKey_eq]
  cases (Serde.fromSlice body : Option (GroupKeyDistribution B)) with
  | none => simp
  | some distribution =>
    cases app.session with
    | none => simp
    | some session => simp

variable [Serde (RatchetMessageHeader B)] [Serde (SessionKeys B)] [Serde (RatchetSnapshot B)]

omit [Serde (HybridSignature B)] [Serde (RatchetMessageHeader B)] in
theorem isOk_sendPersist {app : App B} (hrunning : app.node.running = true) (peer : PeerId)
    (envelope : NetworkEnvelope) (now : Int) :
    IsOk ((sendDirect peer envelope >>= fun _ => persistQuietly now) app) := by
  obtain ⟨sessions, hrun⟩ := exists_sendPersist_eq hrunning peer envelope now
  rw [hrun]
  trivial

theorem isOk_greet {app : App B} {chat : ChatSession B} (hrunning : app.node.running = true)
    (hsession : app.session = some chat) (peer : PeerId) (now : Int) :
    IsOk (greet P peer now app) ↔
      (chat.encrypt P app.store.identity app.store.deviceId (greetingOf app.store.deviceId)
        now).IsOk := by
  rw [greet_eq P hsession]
  cases chat.encrypt P app.store.identity app.store.deviceId
      (greetingOf app.store.deviceId) now with
  | error e chat' => simp
  | ok envelope chat' =>
    exact iff_of_true (isOk_sendPersist (by exact hrunning) peer envelope now) trivial

theorem isOk_syncGreet {app : App B} {chat : ChatSession B} (hrunning : app.node.running = true)
    (hsession : app.session = some chat) (peer : PeerId) (marker : UInt8) (body : Bytes)
    (now : Int) :
    IsOk ((sendSync P peer marker body now >>= fun _ => greet P peer now) app) ↔
      (chat.encrypt P app.store.identity app.store.deviceId (greetingOf app.store.deviceId)
        now).IsOk := by
  rw [Outcome.bind_ok (sendSync_ok P hrunning peer marker body now)]
  exact isOk_greet P (by exact hrunning) (by exact hsession) peer now

/-- The initiator takes the ratchet key of the responder. -/
def RatchetPubAccepted (app : App B) (body : Bytes) (draws : Draws B) : Prop :=
  ∃ h output peer peerPublic, app.initiator = some h ∧ h.pending = some output ∧
    h.peerIdentity = some peer ∧ P.tryFrom 32 body = some peerPublic ∧
    Database.Bindable app.store.deviceId ∧
    (h.session P output peer peerPublic draws.initiatorRatchet).Storable
      (app.store.recorded P app.store.deviceId peer false draws.now).db ∧
    ((h.session P output peer peerPublic draws.initiatorRatchet).encrypt P app.store.identity
      app.store.deviceId (greetingOf app.store.deviceId) draws.now).IsOk

omit [Serde (SessionKeys B)] [Serde (RatchetSnapshot B)] in
/-- The same for a handshake that the key completes. -/
theorem ratchetPubAccepted_iff {app : App B} {body : Bytes} {draws : Draws B}
    {h : InitiatorHandshake B} {output : PqxdhOutput B} {peer : IdentityPublicKey B}
    {peerPublic : B X25519_PUBLIC_KEY_SIZE} (hinitiator : app.initiator = some h)
    (hpending : h.pending = some output) (hpeer : h.peerIdentity = some peer)
    (hpublic : P.tryFrom 32 body = some peerPublic) :
    RatchetPubAccepted P app body draws ↔
      Database.Bindable app.store.deviceId ∧
      (h.session P output peer peerPublic draws.initiatorRatchet).Storable
        (app.store.recorded P app.store.deviceId peer false draws.now).db ∧
      ((h.session P output peer peerPublic draws.initiatorRatchet).encrypt P app.store.identity
        app.store.deviceId (greetingOf app.store.deviceId) draws.now).IsOk := by
  constructor
  · rintro ⟨_, _, _, _, hinitiator', hpending', hpeer', hpublic', hrest⟩
    cases hinitiator.symm.trans hinitiator'
    cases hpending.symm.trans hpending'
    cases hpeer.symm.trans hpeer'
    cases hpublic.symm.trans hpublic'
    exact hrest
  · exact fun hrest => ⟨h, output, peer, peerPublic, hinitiator, hpending, hpeer, hpublic, hrest⟩

theorem isOk_onRatchetPub [Serde (GroupKeyDistribution B)] {app : App B}
    (hrunning : app.node.running = true) (sender : PeerId) (body : Bytes) (draws : Draws B) :
    IsOk (onRatchetPub P sender body draws app) ↔ RatchetPubAccepted P app body draws := by
  rw [onRatchetPub_eq]
  cases hinitiator : app.initiator with
  | none =>
    refine iff_of_false id ?_
    rintro ⟨_, _, _, _, hsome, -⟩
    cases hinitiator.symm.trans hsome
  | some h =>
    simp only
    have hok := h.isOk_establish (P := P) body draws.initiatorRatchet
    cases hrun : h.establish P body draws.initiatorRatchet with
    | error e h' =>
      rw [hrun] at hok
      refine iff_of_false (by simp) ?_
      rintro ⟨_, output, peer, theirs, hsome, hpending, hpeer, hpublic, -⟩
      cases hinitiator.symm.trans hsome
      exact hok.mpr ⟨output, peer, theirs, hpending, hpeer, hpublic⟩
    | ok chat h' =>
      obtain ⟨output, peer, theirs, hpending, hpeer, hpublic, rfl, hchat⟩ :=
        InitiatorHandshake.establish_eq_ok hrun
      obtain rfl : chat = h.session P output peer theirs draws.initiatorRatchet := hchat
      rw [ratchetPubAccepted_iff P hinitiator hpending hpeer hpublic]
      by_cases hid : Database.Bindable app.store.deviceId
      · simp only [hid, if_true, true_and]
        by_cases hstorable : (h.session P output peer theirs draws.initiatorRatchet).Storable
            (app.store.recorded P app.store.deviceId
              (h.session P output peer theirs draws.initiatorRatchet).peerIdentity false
              draws.now).db
        · rw [ChatSession.persist_ok hstorable, and_iff_right (by exact hstorable)]
          exact isOk_syncGreet P (by exact hrunning) rfl sender _ _ draws.now
        · obtain ⟨e, herror⟩ := ChatSession.persist_error hstorable draws.now
          rw [herror]
          exact iff_of_false id fun haccepted => hstorable haccepted.1
      · simp [hid]

omit [Serde (HybridSignature B)] [Serde (RatchetMessageHeader B)] [Serde (SessionKeys B)]
  [Serde (RatchetSnapshot B)] in
/-- The row of a message goes into a conversation that was just recorded. -/
theorem isOk_insertMessage {app : App B} {conversationId : String}
    (hid : Database.Bindable conversationId)
    (hconversation : app.store.db.hasConversation conversationId = true)
    (sender : IdentityPublicKey B) (envelope : NetworkEnvelope) (direction : MessageDirection)
    (nonce : UInt32) (now : Int) :
    IsOk (insertMessage P conversationId sender envelope direction nonce now app) ↔
      app.store.db.Fits conversationId (messageIdBytes envelope.timestamp nonce)
        envelope.nonce := by
  rw [insertMessage_eq]
  cases hheader : fromUtf8 envelope.nonce with
  | none =>
    refine iff_of_false id fun hfits => ?_
    obtain ⟨header, hsome, -⟩ := hfits.header
    rw [hheader] at hsome
    cases hsome
  | some header =>
    simp only
    constructor
    · intro hok
      cases hinsert : app.store.insertMessage P conversationId
          (messageIdBytes envelope.timestamp nonce) sender envelope.encryptedPayload header
          direction now with
      | error e =>
        rw [hinsert] at hok
        exact hok.elim
      | ok out =>
        obtain ⟨haccepts, -, -⟩ := NodeStore.insertMessage_eq_ok hinsert
        exact ⟨⟨header, hheader, haccepts.header⟩, haccepts.unique⟩
    · intro hfits
      obtain ⟨header', hsome, hbind⟩ := hfits.header
      obtain rfl := Option.some.inj (hheader.symm.trans hsome)
      have haccepts : app.store.db.Accepts (NodeStore.messageRow P conversationId
          (messageIdBytes envelope.timestamp nonce) sender envelope.encryptedPayload header
          direction now) := ⟨hid, hbind, hfits.unique, hconversation⟩
      rw [NodeStore.insertMessage_ok haccepts]
      trivial

omit [Serde (HybridSignature B)] [Serde (RatchetMessageHeader B)] [Serde (SessionKeys B)]
  [Serde (RatchetSnapshot B)] in
theorem isOk_storeIncoming {app : App B} {session : ChatSession B}
    (hsession : app.session = some session) {conversationId : String}
    (hid : Database.Bindable conversationId)
    (hconversation : app.store.db.hasConversation conversationId = true)
    (envelope : NetworkEnvelope) (draws : Draws B) :
    IsOk (storeIncoming P conversationId envelope draws.messageNonce draws.now app) ↔
      app.store.db.Fits conversationId (messageIdBytes envelope.timestamp draws.messageNonce)
        envelope.nonce := by
  rw [← isOk_insertMessage P hid hconversation session.peerIdentity envelope .incoming
    draws.messageNonce draws.now]
  have hrun : storeIncoming P conversationId envelope draws.messageNonce draws.now app =
      (insertMessage P conversationId session.peerIdentity envelope .incoming draws.messageNonce
        draws.now >>= fun _ => pure ()) app :=
    (Outcome.bind_ok rfl).trans (Outcome.bind_ok (required_eq_ok hsession _ app))
  rw [hrun, Outcome.isOk_bind_pure]

variable [DecidableEq (B X25519_PUBLIC_KEY_SIZE)]

/-- A chat message is decrypted and stored. -/
def ChatAccepted (app : App B) (envelope : NetworkEnvelope) (draws : Draws B) : Prop :=
  ∃ conversationId session, fromUtf8 envelope.conversationId = some conversationId ∧
    app.live conversationId = .ok (some session) ∧ Database.Bindable conversationId ∧
    (session.decrypt P envelope).IsOk ∧ Database.Bindable session.conversationId ∧
    (app.store.db.hasConversation session.conversationId = true ∨
      conversationId = session.conversationId) ∧
    app.store.db.Fits conversationId (messageIdBytes envelope.timestamp draws.messageNonce)
      envelope.nonce

theorem isOk_onChat (envelope : NetworkEnvelope) (draws : Draws B) (app : App B) :
    IsOk (onChat P envelope draws app) ↔ ChatAccepted P app envelope draws := by
  unfold ChatAccepted
  rw [onChat_eq]
  cases hid : fromUtf8 envelope.conversationId with
  | none => simp
  | some conversationId =>
    simp only [Option.some.injEq, exists_and_left, exists_eq_left']
    cases hlive : app.live conversationId with
    | error e => simp
    | ok found =>
      cases found with
      | none => simp
      | some session =>
        simp only [Except.ok.injEq, Option.some.injEq, exists_eq_left']
        by_cases hbind : Database.Bindable conversationId
        · simp only [hbind, if_true, true_and]
          obtain ⟨r, hstate⟩ := ChatSession.exists_decrypt_state (P := P) session envelope
          cases hdecrypt : session.decrypt P envelope with
          | error e session' => simp
          | ok plaintext session' =>
            rw [hdecrypt, Outcome.state_ok] at hstate
            subst hstate
            have hstorable : ({ session with ratchet := r } : ChatSession B).Storable
                  (app.store.recorded P conversationId session.peerIdentity false draws.now).db ↔
                Database.Bindable session.conversationId ∧
                  (app.store.db.hasConversation session.conversationId = true ∨
                    conversationId = session.conversationId) := by
              rw [ChatSession.storable_iff, NodeStore.hasConversation_recorded]
              simp
            simp only [Outcome.isOk_ok, true_and, ← and_assoc, ← hstorable]
            by_cases hstores : ({ session with ratchet := r } : ChatSession B).Storable
                (app.store.recorded P conversationId session.peerIdentity false draws.now).db
            · rw [ChatSession.persist_ok hstores]
              simp only [hstores, true_and]
              refine (isOk_storeIncoming P (by rfl) hbind ?_ envelope draws).trans
                (Database.fits_congr rfl)
              show (app.store.recorded P conversationId session.peerIdentity false
                draws.now).db.hasConversation conversationId = true
              rw [NodeStore.hasConversation_recorded]
              simp
            · obtain ⟨e, herror⟩ := ChatSession.persist_error hstores draws.now
              rw [herror]
              simp [hstores]
        · simp [hbind]

variable [Serde (PreKeyBundle B)] [Serde (PqxdhPrekeyMessage B)] [Serde (GroupKeyDistribution B)]

/-- The arm of the envelope gets to its end. -/
def Accepted (app : App B) (envelope : NetworkEnvelope) (draws : Draws B) : Prop :=
  let body := envelope.encryptedPayload.drop 1
  match envelope.arm with
  | .bundleReq => app.responder.isSome = true
  | .bundle => app.BundleAccepted P body draws
  | .prekey => app.PrekeyAccepted P envelope body
  | .ratchetPub => app.RatchetPubAccepted P body draws
  | .groupKey =>
    (Serde.fromSlice body : Option (GroupKeyDistribution B)).isSome = true ∧
      app.session.isSome = true
  | .chat => app.ChatAccepted P envelope draws

theorem isOk_handleDirect {app : App B} (hrunning : app.node.running = true) (sender : PeerId)
    (envelope : NetworkEnvelope) (draws : Draws B) :
    IsOk (handleDirect P sender envelope draws app) ↔ app.Accepted P envelope draws := by
  -- no arm reads the peer that was just noted
  show IsOk (runArm P envelope.arm sender envelope draws
    { app with peer := app.peer.or (some sender) }) ↔ _
  unfold runArm Accepted
  cases envelope.arm with
  | bundleReq => exact isOk_onBundleReq P (by exact hrunning) sender draws.now
  | bundle => exact isOk_onBundle P (by exact hrunning) _ draws
  | prekey => exact isOk_onPrekey P (by exact hrunning) sender envelope _ draws
  | ratchetPub => exact isOk_onRatchetPub P (by exact hrunning) sender _ draws
  | groupKey => exact isOk_onGroupKey P _ _
  | chat => exact isOk_onChat P envelope draws _

end Arms

end App
end Presidium
