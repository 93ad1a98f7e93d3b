import Presidium.Crypto.RatchetKeys
import Presidium.Demo.App
import Presidium.Lib.Machine

/-!
# The initiator as a process

The process of the initiator, one event for each statement that can be the
last one before a crash.  An outgoing message is encrypted, stored, handed to
the node and only then followed by `persist`, whose error is discarded.  The
greeting skips the store.  An inbound message is opened, the session is
persisted, and the row is stored.  A statement that fails stops the process,
and so does a crash at any point.  A restart resumes what was persisted last.

`log` and `clean` are not part of the process.  `log` lists the envelopes that
were handed to the node, each with the message key and the number it was
sealed under.  `clean` says that no envelope was handed over since the session
was last persisted.

`app_lineEvents`, `app_greetEvents` and `app_chatEvents` tie the events to
`handle_command` and `handle_direct`.
-/

namespace Presidium

variable {B : Nat → Type}

/-! ## The process -/

/-- An envelope with the text, the message key and the number under which it
was sealed. -/
structure Sealed (B : Nat → Type) where
  peer : PeerId
  plaintext : Bytes
  envelope : NetworkEnvelope
  key : B MESSAGE_KEY_SIZE
  number : UInt64

/-- How far the process is in the operation at hand. -/
inductive Stage (B : Nat → Type) where
  | idle
  /-- Encrypted, without a row. -/
  | encrypted (message : Sealed B)
  /-- Ready for `send_direct`. -/
  | stored (message : Sealed B)
  /-- Handed to the node, not yet persisted. -/
  | sent
  /-- An inbound envelope was decrypted. -/
  | opened (conversationId : String) (envelope : NetworkEnvelope)
  /-- An inbound envelope was decrypted and the session persisted. -/
  | kept (conversationId : String) (envelope : NetworkEnvelope)
  | stopped

/-- The envelope that is encrypted and not yet sent. -/
def Stage.pending : Stage B → Option (Sealed B)
  | encrypted message => some message
  | stored message => some message
  | _ => none

structure Process (B : Nat → Type) where
  app : App B
  stage : Stage B
  /-- The envelopes handed to the node so far, over all restarts. -/
  log : List (Sealed B)
  /-- No envelope was handed over since the session was last persisted. -/
  clean : Bool
  /-- How many times `encrypt` was called. -/
  calls : Nat

namespace Process

inductive Event (B : Nat → Type) where
  | encrypt (line : Bytes) (now : Int)
  | greet (peer : PeerId) (now : Int)
  | store (nonce : UInt32) (now : Int)
  | send
  /-- `persist` after a send.  The database may also fail by itself. -/
  | persist (now : Int) (fails : Bool)
  /-- An inbound chat message, up to `decrypt`. -/
  | receive (sender : PeerId) (envelope : NetworkEnvelope) (now : Int)
  /-- `persist` of the chat arm. -/
  | keep (now : Int) (fails : Bool)
  | file (nonce : UInt32) (now : Int)
  /-- An inbound message for one of the other arms. -/
  | sync (sender : PeerId) (envelope : NetworkEnvelope) (draws : Draws B)
  | crash
  | restart (peer : PeerId)

/-- Go on to the next stage, or stop. -/
def follow (p : Process B) (next : Stage B) : Outcome AppError (App B) Unit → Process B
  | .ok _ app => { p with app, stage := next }
  | .error _ app => { p with app, stage := .stopped }

section Step

variable (P : Primitives B) [Serde (HybridSignature B)] [Serde (RatchetMessageHeader B)]

/-- Encrypt a text for a peer. -/
def sealText (p : Process B) (peer : PeerId) (plaintext : Bytes) (now : Int)
    (next : Sealed B → Stage B) : Process B :=
  match p.app.session.bind fun s => s.ratchet.nextKey P, App.encrypt P plaintext now p.app with
  | some (key, number), .ok envelope app =>
    { p with app, stage := next { peer, plaintext, envelope, key, number }, calls := p.calls + 1 }
  | _, out => { p with app := Outcome.state out, stage := .stopped, calls := p.calls + 1 }

variable [Serde (SessionKeys B)] [Serde (RatchetSnapshot B)]

/-- Persist the session.  The flag says whether the database took it. -/
def tryPersist (p : Process B) (now : Int) (fails : Bool) : App B × Bool :=
  match fails, App.persistSession now p.app with
  | false, .ok _ app => (app, true)
  | _, _ => (p.app, false)

/-- The row of the outgoing message. -/
def storeStep (p : Process B) (nonce : UInt32) (now : Int) : Process B :=
  match p.stage with
  | .encrypted message =>
    p.follow (.stored message) (App.storeOutgoing P message.envelope nonce now p.app)
  | _ => p

/-- Hand the message to the node. -/
def sendStep (p : Process B) : Process B :=
  match p.stage with
  | .stored message =>
    match App.sendDirect message.peer message.envelope p.app with
    | .ok _ app => { p with app, stage := .sent, log := p.log ++ [message], clean := false }
    | .error _ app => { p with app, stage := .stopped }
  | _ => p

/-- Persist after the send, and go on in any case. -/
def persistStep (p : Process B) (now : Int) (fails : Bool) : Process B :=
  match p.stage with
  | .sent =>
    { p with
      app := (p.tryPersist now fails).1
      stage := .idle
      clean := p.clean || (p.tryPersist now fails).2 }
  | _ => p

/-- Persist in the chat arm, and stop when it fails. -/
def keepStep (p : Process B) (now : Int) (fails : Bool) : Process B :=
  match p.stage with
  | .opened conversationId envelope =>
    { p with
      app := (p.tryPersist now fails).1
      stage := if (p.tryPersist now fails).2 then .kept conversationId envelope else .stopped
      clean := p.clean || (p.tryPersist now fails).2 }
  | _ => p

/-- The row of the incoming message. -/
def fileStep (p : Process B) (nonce : UInt32) (now : Int) : Process B :=
  match p.stage with
  | .kept conversationId envelope =>
    p.follow .idle (App.storeIncoming P conversationId envelope nonce now p.app)
  | _ => p

/-- A new process on the database that the last one left. -/
def restartStep (p : Process B) (peer : PeerId) : Process B :=
  match App.startInitiator p.app.store peer with
  | .ok app => { p with app, stage := .idle }
  | .error _ => p

variable [DecidableEq (B X25519_PUBLIC_KEY_SIZE)]

/-- Decrypt an inbound envelope. -/
def receiveStep (p : Process B) (sender : PeerId) (envelope : NetworkEnvelope) (now : Int) :
    Process B :=
  match (App.notePeer sender >>= fun _ => App.openChat P envelope now) p.app with
  | .ok (conversationId, _) app => { p with app, stage := .opened conversationId envelope }
  | .error _ app => { p with app, stage := .stopped }

variable [Serde (PreKeyBundle B)] [Serde (PqxdhPrekeyMessage B)]
  [Serde (GroupKeyDistribution B)]

/-- The process after an event. -/
def step (p : Process B) : Event B → Process B
  | .encrypt line now =>
    match p.app.peer with
    | none => p
    | some peer => p.sealText P peer line now .encrypted
  | .greet peer now =>
    p.sealText P peer (App.greetingOf p.app.store.deviceId) now .stored
  | .store nonce now => p.storeStep P nonce now
  | .send => p.sendStep
  | .persist now fails => p.persistStep now fails
  | .receive sender envelope now => p.receiveStep P sender envelope now
  | .keep now fails => p.keepStep now fails
  | .file nonce now => p.fileStep P nonce now
  | .sync sender envelope draws =>
    p.follow .idle (App.handleDirect P sender envelope draws p.app)
  | .crash => { p with stage := .stopped }
  | .restart peer => p.restartStep peer

end Step

/-- When an event can occur.  `encrypt` is called fewer than `2 ^ 64` times, and
no second handshake ends, which would start another session. -/
def possible (p : Process B) (e : Event B) : Bool :=
  match e, p.stage with
  | .encrypt _ _, .idle => p.app.session.isSome && decide (p.calls + 1 < 2 ^ 64)
  | .greet _ _, .idle => p.app.session.isSome && decide (p.calls + 1 < 2 ^ 64)
  | .store _ _, .encrypted _ => true
  | .send, .stored _ => true
  | .persist _ _, .sent => true
  | .receive _ _ _, .idle => true
  | .keep _ _, .opened _ _ => true
  | .file _ _, .kept _ _ => true
  | .sync _ envelope _, .idle => envelope.arm != .chat &&
    (envelope.arm != .ratchetPub || (p.app.initiator.bind InitiatorHandshake.pending).isNone)
  | .crash, _ => true
  | .restart _, .stopped => true
  | _, _ => false

/-! ## The statements of the source

Without a crash the events run through the source: an outgoing line, the
greeting and an inbound chat message end in the application that the model of
`handle_command` and `handle_direct` computes. -/

section Encrypt

variable {P : Primitives B} [Serde (HybridSignature B)] [Serde (RatchetMessageHeader B)]

theorem sealText_ok {p : Process B} {plaintext : Bytes} {now : Int} {key : B MESSAGE_KEY_SIZE}
    {number : UInt64} {envelope : NetworkEnvelope} {app : App B}
    (hkey : (p.app.session.bind fun s => s.ratchet.nextKey P) = some (key, number))
    (hencrypt : App.encrypt P plaintext now p.app = .ok envelope app) (peer : PeerId)
    (next : Sealed B → Stage B) :
    p.sealText P peer plaintext now next =
      { p with
        app
        stage := next { peer, plaintext, envelope, key, number }
        calls := p.calls + 1 } := by
  unfold sealText
  rw [hkey, hencrypt]

theorem sealText_error {p : Process B} {plaintext : Bytes} {now : Int} {e : AppError} {app : App B}
    (hencrypt : App.encrypt P plaintext now p.app = .error e app) (peer : PeerId)
    (next : Sealed B → Stage B) :
    p.sealText P peer plaintext now next =
      { p with app, stage := .stopped, calls := p.calls + 1 } := by
  unfold sealText
  rw [hencrypt]
  split
  next heq => cases heq
  next => rfl

theorem app_encrypt_of_none {app : App B} (hsession : app.session = none) (plaintext : Bytes)
    (now : Int) : App.encrypt P plaintext now app = .error (.message "no session") app := by
  refine (Outcome.bind_ok rfl).trans ?_
  unfold App.onSession App.inPlace
  rw [hsession]

/-- An `encrypt` that succeeds has a key to record. -/
theorem nextKey_of_appEncrypt {app app' : App B} {plaintext : Bytes} {now : Int}
    {envelope : NetworkEnvelope} (h : App.encrypt P plaintext now app = .ok envelope app') :
    ∃ key number, (app.session.bind fun s => s.ratchet.nextKey P) = some (key, number) := by
  have hrun : App.encrypt P plaintext now app = App.onSession "no session"
      (fun s => s.encrypt P app.store.identity app.store.deviceId plaintext now) app :=
    Outcome.bind_ok rfl
  rw [hrun] at h
  cases hsession : app.session with
  | none =>
    rw [← hrun, app_encrypt_of_none hsession] at h
    cases h
  | some s =>
    cases hmethod : s.encrypt P app.store.identity app.store.deviceId plaintext now with
    | error e s' =>
      rw [App.onSession_error hsession hmethod] at h
      cases h
    | ok envelope' s' =>
      obtain ⟨ciphertext, header, r', hratchet, -⟩ := ChatSession.encrypt_eq_ok hmethod
      obtain ⟨key, hkey, -⟩ := DoubleRatchet.nextKey_of_encrypt hratchet
      exact ⟨key, _, hkey⟩

end Encrypt

section Source

variable {P : Primitives B} [Serde (SessionKeys B)] [Serde (RatchetSnapshot B)]

theorem tryPersist_quietly (p : Process B) (now : Int) :
    (p.tryPersist now false).1 = Outcome.state (App.persistQuietly now p.app) := by
  unfold App.persistQuietly
  cases hsession : p.app.session with
  | none =>
    have hrun : App.persistSession now p.app =
        .error (.message "no session established") p.app := by
      refine (Outcome.bind_ok rfl).trans (Outcome.bind_error ?_)
      rw [hsession]
      rfl
    unfold tryPersist
    rw [hrun]
    rfl
  | some s =>
    show (p.tryPersist now false).1 = Outcome.state (App.persist s now p.app)
    unfold tryPersist
    rw [App.persistSession_eq hsession]
    cases hpersist : s.persist p.app.store.db now with
    | error e => rw [App.persist_error hpersist]; rfl
    | ok db => rw [App.persist_ok hpersist]; rfl

/-- From a stored message on: send and persist. -/
theorem app_sendStep {p : Process B} {message : Sealed B}
    (hstage : p.stage = .stored message) (now : Int) :
    (p.sendStep.persistStep now false).app = Outcome.state
      ((App.sendDirect message.peer message.envelope >>= fun _ => App.persistQuietly now) p.app) := by
  unfold sendStep
  simp only [hstage]
  cases hsend : App.sendDirect message.peer message.envelope p.app with
  | error e app =>
    rw [Outcome.bind_error hsend]
    rfl
  | ok _ app =>
    rw [Outcome.bind_ok hsend]
    exact tryPersist_quietly _ now

/-- From an encrypted message on: store, send and persist. -/
theorem app_storeStep {p : Process B} {message : Sealed B} (hstage : p.stage = .encrypted message)
    (nonce : UInt32) (now : Int) :
    ((p.storeStep P nonce now).sendStep.persistStep now false).app = Outcome.state
      ((App.storeOutgoing P message.envelope nonce now >>= fun _ =>
        App.sendDirect message.peer message.envelope >>= fun _ => App.persistQuietly now) p.app) := by
  unfold storeStep
  simp only [hstage]
  cases hstore : App.storeOutgoing P message.envelope nonce now p.app with
  | error e app =>
    rw [Outcome.bind_error hstore]
    rfl
  | ok _ app =>
    rw [Outcome.bind_ok hstore]
    exact app_sendStep rfl now

/-- Without a message on its way to the node nothing happens. -/
theorem rest_of_line {p : Process B} (hstage : p.stage = .idle ∨ p.stage = .stopped)
    (nonce : UInt32) (now : Int) :
    ((p.storeStep P nonce now).sendStep.persistStep now false).app = p.app := by
  unfold storeStep sendStep persistStep
  rcases hstage with hstage | hstage <;> simp only [hstage]

/-- From an opened message on: persist and store. -/
theorem app_keepStep {p : Process B} {conversationId : String} {envelope : NetworkEnvelope}
    (hstage : p.stage = .opened conversationId envelope) (nonce : UInt32) (now : Int) :
    ((p.keepStep now false).fileStep P nonce now).app = Outcome.state
      ((App.persistSession now >>= fun _ =>
        App.storeIncoming P conversationId envelope nonce now) p.app) := by
  unfold keepStep
  simp only [hstage]
  cases hpersist : App.persistSession now p.app with
  | error e app =>
    have htry : p.tryPersist now false = (p.app, false) := by
      unfold tryPersist
      rw [hpersist]
    rw [Outcome.bind_error hpersist, htry]
    exact (App.persistSession_error hpersist).symm
  | ok _ app =>
    have htry : p.tryPersist now false = (app, true) := by
      unfold tryPersist
      rw [hpersist]
    rw [Outcome.bind_ok hpersist, htry]
    unfold fileStep follow
    simp only [if_true]
    cases App.storeIncoming P conversationId envelope nonce now app <;> rfl

variable [Serde (HybridSignature B)] [Serde (RatchetMessageHeader B)]
  [DecidableEq (B X25519_PUBLIC_KEY_SIZE)] [Serde (PreKeyBundle B)]
  [Serde (PqxdhPrekeyMessage B)] [Serde (GroupKeyDistribution B)]

variable (P) in
/-- The process, restricted to events that meet a condition. -/
def machine (Guard : Process B → Event B → Prop) :
    Machine (Process B) (Event B) where
  step := step P
  Enabled p e := p.possible e = true ∧ Guard p e

instance (Guard : Process B → Event B → Prop) [∀ p e, Decidable (Guard p e)] (p : Process B)
    (e : Event B) : Decidable ((machine P Guard).Enabled p e) :=
  inferInstanceAs (Decidable (p.possible e = true ∧ Guard p e))

/-- The events of an outgoing line. -/
def lineEvents (line : String) (draws : Draws B) : List (Event B) :=
  [.encrypt (asBytes line) draws.now, .store draws.messageNonce draws.now, .send,
    .persist draws.now false]

/-- The events of the greeting. -/
def greetEvents (peer : PeerId) (now : Int) : List (Event B) :=
  [.greet peer now, .send, .persist now false]

/-- The events of an inbound chat message. -/
def chatEvents (sender : PeerId) (envelope : NetworkEnvelope) (draws : Draws B) : List (Event B) :=
  [.receive sender envelope draws.now, .keep draws.now false,
    .file draws.messageNonce draws.now]

theorem app_lineEvents (Guard : Process B → Event B → Prop) {p : Process B}
    (hidle : p.stage = .idle) (line : String) (draws : Draws B) :
    ((machine P Guard).run p (lineEvents line draws)).app =
      Outcome.state (App.sendLine P line draws p.app) := by
  show ((((p.step P (.encrypt _ _)).storeStep P _ _).sendStep).persistStep _ _).app = _
  unfold Process.step
  cases hpeer : p.app.peer with
  | none =>
    have hline : App.sendLine P line draws p.app = .ok () p.app := by
      refine (Outcome.bind_ok rfl).trans ?_
      rw [hpeer]
      cases p.app.session <;> rfl
    rw [hline]
    exact rest_of_line (.inl hidle) _ _
  | some peer =>
    cases hencrypt : App.encrypt P (asBytes line) draws.now p.app with
    | error e app =>
      have hline : Outcome.state (App.sendLine P line draws p.app) = app := by
        have hread : App.sendLine P line draws p.app = _ := Outcome.bind_ok rfl
        rw [hread, hpeer]
        cases hsession : p.app.session with
        | none =>
          have hfails := app_encrypt_of_none (P := P) hsession (asBytes line) draws.now
          rw [hfails] at hencrypt
          cases hencrypt
          rfl
        | some s => exact congrArg Outcome.state (Outcome.bind_error hencrypt)
      simp only [sealText_error hencrypt]
      rw [hline]
      exact rest_of_line (.inr rfl) _ _
    | ok envelope app =>
      obtain ⟨key, number, hkey⟩ := nextKey_of_appEncrypt hencrypt
      have hline : App.sendLine P line draws p.app =
          (App.storeOutgoing P envelope draws.messageNonce draws.now >>= fun _ =>
            App.sendDirect peer envelope >>= fun _ => App.persistQuietly draws.now) app := by
        refine (Outcome.bind_ok rfl).trans ?_
        rw [hpeer]
        cases hsession : p.app.session with
        | none => simp [hsession] at hkey
        | some s => exact Outcome.bind_ok hencrypt
      simp only [sealText_ok hkey hencrypt]
      rw [hline]
      set message : Sealed B := ⟨peer, asBytes line, envelope, key, number⟩
      set sealed : Process B :=
        { p with app, stage := .encrypted message, calls := p.calls + 1 } with hsealed
      have hstage : sealed.stage = .encrypted message := by rw [hsealed]
      exact app_storeStep hstage draws.messageNonce draws.now

theorem app_greetEvents (Guard : Process B → Event B → Prop) (p : Process B) (peer : PeerId)
    (now : Int) :
    ((machine P Guard).run p (greetEvents peer now)).app =
      Outcome.state (App.greet P peer now p.app) := by
  have hread : App.greet P peer now p.app =
      (App.encrypt P (App.greetingOf p.app.store.deviceId) now >>= fun envelope =>
        App.sendDirect peer envelope >>= fun _ => App.persistQuietly now) p.app :=
    Outcome.bind_ok rfl
  rw [hread]
  show (((p.sealText P peer _ now .stored).sendStep).persistStep now false).app = _
  cases hencrypt : App.encrypt P (App.greetingOf p.app.store.deviceId) now p.app with
  | error e app =>
    rw [sealText_error hencrypt, Outcome.bind_error hencrypt]
    rfl
  | ok envelope app =>
    obtain ⟨key, number, hkey⟩ := nextKey_of_appEncrypt hencrypt
    rw [sealText_ok hkey hencrypt, Outcome.bind_ok hencrypt]
    set message : Sealed B := ⟨peer, _, envelope, key, number⟩
    set sealed : Process B :=
      { p with app, stage := .stored message, calls := p.calls + 1 } with hsealed
    have hstage : sealed.stage = .stored message := by rw [hsealed]
    exact app_sendStep hstage now

theorem app_chatEvents (Guard : Process B → Event B → Prop) (p : Process B) (sender : PeerId)
    {envelope : NetworkEnvelope} (hchat : envelope.arm = .chat) (draws : Draws B) :
    ((machine P Guard).run p (chatEvents sender envelope draws)).app =
      Outcome.state (App.handleDirect P sender envelope draws p.app) := by
  set noted := Outcome.state (App.notePeer sender p.app)
  have hdirect : App.handleDirect P sender envelope draws p.app =
      App.onChat P envelope draws noted := by
    refine (Outcome.bind_ok rfl).trans ?_
    rw [hchat]
    rfl
  have hreceive : (App.notePeer sender >>= fun _ => App.openChat P envelope draws.now) p.app =
      App.openChat P envelope draws.now noted := Outcome.bind_ok rfl
  rw [hdirect]
  show (((p.receiveStep P sender envelope draws.now).keepStep draws.now false).fileStep P
    draws.messageNonce draws.now).app = _
  unfold receiveStep
  rw [hreceive]
  cases hopen : App.openChat P envelope draws.now noted with
  | error e app =>
    have hrun : App.onChat P envelope draws noted = .error e app :=
      Outcome.bind_error (Outcome.bind_error hopen)
    rw [hrun]
    rfl
  | ok out app =>
    obtain ⟨conversationId, plaintext⟩ := out
    have hrun : App.onChat P envelope draws noted =
        (App.persistSession draws.now >>= fun _ => App.storeIncoming P conversationId envelope
          draws.messageNonce draws.now) app := by
      have hread : App.readChat P envelope draws.now noted =
          (App.persistSession draws.now >>= fun _ => pure (conversationId, plaintext)) app :=
        Outcome.bind_ok hopen
      unfold App.onChat
      rw [Outcome.bind_eq, hread, Outcome.bind_eq, Outcome.bind_eq]
      cases App.persistSession draws.now app <;> rfl
    rw [hrun]
    set opened : Process B :=
      { p with app, stage := .opened conversationId envelope } with hopened
    have hstage : opened.stage = .opened conversationId envelope := by rw [hopened]
    exact app_keepStep hstage draws.messageNonce draws.now

end Source

end Process

end Presidium
