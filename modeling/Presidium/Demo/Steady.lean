import Presidium.Crypto.RatchetRuns
import Presidium.Demo.App

/-!
# What leaves the sending chain alone

The frame of the application for the chain that it sends from.  `SameSending`
is the frame of a session: `decrypt` may ratchet, store keys and move the
receiving chain, and the sending chain stays.  `App.Steady` is the frame of the
application: the session in memory sends from the same chain, and so does the
one on disk.

Of the steps of an initiator only three are not steady: `encrypt` moves the
chain, `persist` writes it, and the end of a handshake starts another one.
-/

namespace Presidium

variable {B : Nat → Type}

/-- The two sessions send from the same chain. -/
structure ChatSession.SameSending (s s' : ChatSession B) : Prop where
  conversation : s'.conversationId = s.conversationId
  chain : s.ratchet.Keyed →
    s'.ratchet.Keyed ∧ s'.ratchet.sendingChain.chainKey = s.ratchet.sendingChain.chainKey

namespace ChatSession

theorem SameSending.refl (s : ChatSession B) : SameSending s s := ⟨rfl, fun h => ⟨h, rfl⟩⟩

theorem SameSending.trans {s₁ s₂ s₃ : ChatSession B} (h : SameSending s₁ s₂)
    (h' : SameSending s₂ s₃) : SameSending s₁ s₃ := by
  refine ⟨h'.conversation.trans h.conversation, fun hkeyed => ?_⟩
  obtain ⟨hkeyed₂, hchain₂⟩ := h.chain hkeyed
  obtain ⟨hkeyed₃, hchain₃⟩ := h'.chain hkeyed₂
  exact ⟨hkeyed₃, hchain₃.trans hchain₂⟩

variable {P : Primitives B} [Serde (HybridSignature B)] [Serde (RatchetMessageHeader B)]
  [DecidableEq (B X25519_PUBLIC_KEY_SIZE)]

omit [Serde (HybridSignature B)] [Serde (RatchetMessageHeader B)] in
/-- The `dh_ratchet` of a keyed ratchet succeeds and leaves the sending chain
key alone. -/
theorem advance_keyed {r : DoubleRatchet B} (hr : r.Keyed) (header : RatchetMessageHeader B) :
    ∃ r₁, advance P r header = .ok () r₁ ∧ r₁.Keyed ∧
      r₁.sendingChain.chainKey = r.sendingChain.chainKey := by
  obtain ⟨ourKey, hour⟩ := hr.sendingKey
  unfold advance
  split
  · refine ⟨_, DoubleRatchet.dhRatchet_eq P hr.noReceivingKey hour _, ?_, rfl⟩
    exact ⟨hr.noReceivingKey, ourKey, hour⟩
  · exact ⟨r, rfl, hr, rfl⟩

omit [Serde (HybridSignature B)] in
theorem sameSending_ratchetDecrypt (s : ChatSession B) (header : RatchetMessageHeader B)
    (payload : Bytes) : SameSending s (s.ratchetDecrypt P header payload).state := by
  refine ⟨?_, fun hkeyed => ?_⟩
  · cases hadvance : advance P s.ratchet header with
    | error e r =>
      unfold ratchetDecrypt
      rw [hadvance]
      rfl
    | ok _ r => rw [ratchetDecrypt_state hadvance]
  · obtain ⟨r, hadvance, hr, hchain⟩ := advance_keyed (P := P) hkeyed header
    rw [ratchetDecrypt_state hadvance]
    refine ⟨hr.apply (.decrypt payload header), ?_⟩
    rw [DoubleRatchet.decrypt_sendingChain, hchain]

/-- `decrypt` does not touch the chain that the session sends from. -/
theorem sameSending_decrypt (s : ChatSession B) (envelope : NetworkEnvelope) :
    SameSending s (s.decrypt P envelope).state := by
  rcases decrypt_cases (P := P) s envelope with ⟨⟨e, hrefused⟩, -⟩ | ⟨header, -, -, hrun⟩
  · rw [hrefused]
    exact .refl s
  · rw [hrun]
    exact sameSending_ratchetDecrypt s header envelope.encryptedPayload

end ChatSession

namespace App

/-- The application sends from the same chain, and so does what it has
persisted. -/
structure Steady (app app' : App B) : Prop where
  responder : app'.responder = app.responder
  deviceId : app'.store.deviceId = app.store.deviceId
  sessions : app'.store.db.sessions = app.store.db.sessions
  session : ∀ s, app.session = some s → ∃ s', app'.session = some s' ∧ s.SameSending s'

/-- Only fields that have nothing to do with the chain were written. -/
theorem Steady.of_eq {app app' : App B} (hresponder : app'.responder = app.responder)
    (hstore : app'.store = app.store) (hsession : app'.session = app.session) :
    Steady app app' := by
  refine ⟨hresponder, by rw [hstore], by rw [hstore], fun s hs => ⟨s, ?_, .refl s⟩⟩
  rw [hsession]
  exact hs

theorem Steady.refl (app : App B) : Steady app app := .of_eq rfl rfl rfl

theorem Steady.trans (app₁ app₂ app₃ : App B) (h : Steady app₁ app₂) (h' : Steady app₂ app₃) :
    Steady app₁ app₃ := by
  refine ⟨h'.responder.trans h.responder, h'.deviceId.trans h.deviceId,
    h'.sessions.trans h.sessions, ?_⟩
  intro s hs
  obtain ⟨s₂, hs₂, hsame₂⟩ := h.session s hs
  obtain ⟨s₃, hs₃, hsame₃⟩ := h'.session s₂ hs₂
  exact ⟨s₃, hs₃, hsame₂.trans hsame₃⟩

theorem steady_notePeer (sender : PeerId) : Outcome.Moves Steady (notePeer sender : AppM B Unit) :=
  fun _ => .of_eq rfl rfl rfl

theorem steady_onInitiator {α : Type} (missing : String)
    (method : InitiatorHandshake B → Outcome AppError (InitiatorHandshake B) α) :
    Outcome.Moves Steady (onInitiator missing method) := by
  intro app
  unfold onInitiator inPlace
  split
  · exact .refl app
  · split <;> exact .of_eq rfl rfl rfl

theorem steady_onStore {α : Type} {statement : NodeStore B → Except AppError (NodeStore B × α)}
    (h : ∀ store store' a, statement store = .ok (store', a) →
      store'.deviceId = store.deviceId ∧ store'.db.sessions = store.db.sessions) :
    Outcome.Moves Steady (onStore statement) := by
  intro app
  unfold onStore
  cases hstatement : statement app.store with
  | error e => exact .refl app
  | ok out =>
    obtain ⟨hdevice, hsessions⟩ := h _ _ _ hstatement
    exact ⟨rfl, hdevice, hsessions, fun s hs => ⟨s, hs, .refl s⟩⟩

/-- A method of the session that sends from the same chain. -/
theorem steady_onSession {α : Type} (missing : String)
    {method : ChatSession B → Outcome AppError (ChatSession B) α}
    (h : ∀ s : ChatSession B, s.SameSending (method s).state) :
    Outcome.Moves Steady (onSession missing method) := by
  intro app
  cases hsession : app.session with
  | none =>
    unfold onSession inPlace
    rw [hsession]
    exact .refl app
  | some s =>
    -- both exits write the session of the method back
    have hwritten : ∀ s', s.SameSending s' → Steady app { app with session := some s' } := by
      intro s' hsame
      refine ⟨rfl, rfl, rfl, fun s₀ hs₀ => ⟨s', rfl, ?_⟩⟩
      rw [hsession] at hs₀
      rwa [← Option.some.inj hs₀]
    have hsame := h s
    cases hmethod : method s with
    | ok a s' =>
      rw [hmethod] at hsame
      rw [onSession_ok hsession hmethod]
      exact hwritten s' hsame
    | error e s' =>
      rw [hmethod] at hsame
      rw [onSession_error hsession hmethod]
      exact hwritten s' hsame

section Steps

variable (P : Primitives B)

theorem steady_upsertConversation (id : String) (peer : IdentityPublicKey B) (now : Int) :
    Outcome.Moves Steady (upsertConversation P id peer now) := by
  refine steady_onStore fun store store' _ h => ?_
  cases hupsert : store.upsertConversation P id peer false now with
  | error e =>
    rw [hupsert] at h
    cases h
  | ok written =>
    rw [hupsert] at h
    cases h
    exact NodeStore.upsertConversation_keeps hupsert

theorem steady_insertMessage (conversationId : String) (sender : IdentityPublicKey B)
    (envelope : NetworkEnvelope) (direction : MessageDirection) (nonce : UInt32) (now : Int) :
    Outcome.Moves Steady (insertMessage P conversationId sender envelope direction nonce now) :=
  .bind Steady.trans (moves_text Steady.refl _) fun _ =>
    steady_onStore fun _ _ _ h => NodeStore.insertMessage_keeps h

theorem steady_sendDirect (peer : PeerId) (envelope : NetworkEnvelope) :
    Outcome.Moves Steady (sendDirect peer envelope : AppM B Unit) := by
  intro app
  unfold sendDirect
  split
  · exact .of_eq rfl rfl rfl
  · exact .refl app

theorem steady_storeOutgoing (envelope : NetworkEnvelope) (nonce : UInt32) (now : Int) :
    Outcome.Moves Steady (storeOutgoing P envelope nonce now) := by
  refine .bind Steady.trans (moves_get Steady.refl) fun app => ?_
  refine .bind Steady.trans (moves_required Steady.refl _ _) fun session => ?_
  refine .bind Steady.trans (steady_insertMessage P _ _ _ _ _ _) fun row => ?_
  exact fun app => .of_eq rfl rfl rfl

theorem steady_storeIncoming (conversationId : String) (envelope : NetworkEnvelope)
    (nonce : UInt32) (now : Int) :
    Outcome.Moves Steady (storeIncoming P conversationId envelope nonce now) := by
  refine .bind Steady.trans (moves_get Steady.refl) fun app => ?_
  refine .bind Steady.trans (moves_required Steady.refl _ _) fun session => ?_
  refine .bind Steady.trans (steady_insertMessage P _ _ _ _ _ _) fun row => ?_
  exact moves_pure Steady.refl _

variable [Serde (SessionKeys B)] [Serde (RatchetSnapshot B)]

theorem steady_resumeIfNeeded (conversationId : String) :
    Outcome.Moves Steady (resumeIfNeeded conversationId : AppM B Unit) := by
  intro app
  unfold resumeIfNeeded
  split
  next => exact .refl app
  next hnone =>
    split
    next => exact .refl app
    next => exact .refl app
    next => exact ⟨rfl, rfl, rfl, fun s hs => by rw [hnone] at hs; cases hs⟩

theorem steady_openChat [Serde (HybridSignature B)] [Serde (RatchetMessageHeader B)]
    [DecidableEq (B X25519_PUBLIC_KEY_SIZE)] (envelope : NetworkEnvelope) (now : Int) :
    Outcome.Moves Steady (openChat P envelope now) := by
  refine .bind Steady.trans (moves_text Steady.refl _) fun conversationId => ?_
  refine .bind Steady.trans (steady_resumeIfNeeded _) fun _ => ?_
  refine .bind Steady.trans (moves_get Steady.refl) fun app => ?_
  refine .bind Steady.trans (moves_required Steady.refl _ _) fun session => ?_
  refine .bind Steady.trans (steady_upsertConversation P _ _ _) fun _ => ?_
  refine .bind Steady.trans (steady_onSession _ fun s => s.sameSending_decrypt envelope) fun _ => ?_
  exact moves_pure Steady.refl _

end Steps

/-! ## The other arms of an initiator -/

section Arms

variable (P : Primitives B)

theorem steady_onBundleReq [Serde (HybridSignature B)] [Serde (PreKeyBundle B)]
    (sender : PeerId) (now : Int) : Outcome.Moves Steady (onBundleReq P sender now) := by
  refine .bind Steady.trans (moves_get Steady.refl) fun app => ?_
  refine .bind Steady.trans (moves_required Steady.refl _ _) fun driver => ?_
  exact .bind Steady.trans (moves_get Steady.refl) fun app => steady_sendDirect _ _

theorem steady_onBundle [Serde (HybridSignature B)] [Serde (PreKeyBundle B)]
    [Serde (PqxdhPrekeyMessage B)] (body : Bytes) (draws : Draws B) :
    Outcome.Moves Steady (onBundle P body draws) := by
  refine .bind Steady.trans (moves_attempt Steady.refl _) fun bundle => ?_
  refine .bind Steady.trans (moves_get Steady.refl) fun app => ?_
  refine .bind Steady.trans (moves_required Steady.refl _ _) fun _ => ?_
  refine .bind Steady.trans (steady_upsertConversation P _ _ _) fun _ => ?_
  exact .bind Steady.trans (steady_onInitiator _ _) fun out =>
    moves_withContext (steady_sendDirect _ _) _

theorem steady_onGroupKey [Serde (GroupKeyDistribution B)] (body : Bytes) :
    Outcome.Moves Steady (onGroupKey P body) := by
  refine .bind Steady.trans (moves_attempt Steady.refl _) fun distribution => ?_
  refine .bind_get fun app => ?_
  cases hsession : app.session with
  | none => exact .refl app
  | some session => exact .of_eq rfl rfl hsession.symm

/-- A node that is no responder refuses a prekey message. -/
theorem steady_onPrekey [Serde (HybridSignature B)] [Serde (PqxdhPrekeyMessage B)]
    [Serde (SessionKeys B)] [Serde (RatchetSnapshot B)] {app : App B}
    (hresponder : app.responder = none) (sender : PeerId) (envelope : NetworkEnvelope)
    (body : Bytes) (draws : Draws B) :
    Steady app (Outcome.state (onPrekey P sender envelope body draws app)) := by
  unfold onPrekey
  cases senderConversation envelope with
  | error e => exact .refl app
  | ok conversationId =>
    have hrefused : onResponder "prekey on initiator" (fun driver =>
        driver.onPrekey P body conversationId draws.responderRatchet) app =
          .error (.message "prekey on initiator") app := by
      unfold onResponder inPlace
      rw [hresponder]
    refine (congrArg (Steady app) (congrArg Outcome.state (Outcome.bind_ok rfl))).mpr ?_
    rw [Outcome.bind_error hrefused]
    exact .refl app

/-- Without a pending handshake the ratchet key of the responder is refused. -/
theorem steady_onRatchetPub [Serde (HybridSignature B)] [Serde (RatchetMessageHeader B)]
    [Serde (GroupKeyDistribution B)] [Serde (SessionKeys B)] [Serde (RatchetSnapshot B)]
    {app : App B}
    (hpending : (app.initiator.bind InitiatorHandshake.pending) = none) (sender : PeerId)
    (body : Bytes) (draws : Draws B) :
    Steady app (Outcome.state (onRatchetPub P sender body draws app)) := by
  unfold onRatchetPub
  cases hinitiator : app.initiator with
  | none =>
    have hrefused : onInitiator "ratchet pub on responder" (fun driver =>
        driver.establish P body draws.initiatorRatchet) app =
          .error (.message "ratchet pub on responder") app := by
      unfold onInitiator inPlace
      rw [hinitiator]
    rw [Outcome.bind_error hrefused]
    exact .refl app
  | some driver =>
    rw [hinitiator] at hpending
    have hrefused : onInitiator "ratchet pub on responder" (fun driver =>
        driver.establish P body draws.initiatorRatchet) app =
          .error (.message "no pqxdh output") { app with initiator := some driver } := by
      have hnone : driver.pending = none := hpending
      unfold onInitiator inPlace InitiatorHandshake.establish
      simp only [hinitiator, hnone]
    rw [Outcome.bind_error hrefused]
    exact .of_eq rfl rfl rfl

variable [Serde (HybridSignature B)] [Serde (RatchetMessageHeader B)] [Serde (PreKeyBundle B)]
  [Serde (PqxdhPrekeyMessage B)] [Serde (GroupKeyDistribution B)] [Serde (SessionKeys B)]
  [Serde (RatchetSnapshot B)] [DecidableEq (B X25519_PUBLIC_KEY_SIZE)]

/-- On an initiator every arm is steady but the chat arm, which persists, and
the end of a handshake, which starts another session. -/
theorem steady_handleDirect {app : App B} (hresponder : app.responder = none) (sender : PeerId)
    {envelope : NetworkEnvelope} (hchat : envelope.arm ≠ .chat)
    (hestablish : envelope.arm = .ratchetPub →
      (app.initiator.bind InitiatorHandshake.pending) = none) (draws : Draws B) :
    Steady app (Outcome.state (handleDirect P sender envelope draws app)) := by
  have hnoted := steady_notePeer sender app
  set noted := Outcome.state (notePeer sender app)
  have hrun : handleDirect P sender envelope draws app =
      runArm P envelope.arm sender envelope draws noted := Outcome.bind_ok rfl
  rw [hrun]
  refine hnoted.trans _ _ _ ?_
  unfold runArm
  cases harm : envelope.arm with
  | bundleReq => exact steady_onBundleReq P sender draws.now noted
  | bundle => exact steady_onBundle P _ draws noted
  | prekey => exact steady_onPrekey P (hnoted.responder.trans hresponder) sender envelope _ draws
  | ratchetPub =>
    have hpending : (noted.initiator.bind InitiatorHandshake.pending) = none := hestablish harm
    exact steady_onRatchetPub P hpending sender _ draws
  | groupKey => exact steady_onGroupKey P _ noted
  | chat => exact absurd harm hchat

end Arms

end App

end Presidium
