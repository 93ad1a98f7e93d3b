import Presidium.Demo.Group
import Presidium.Demo.Handshake
import Presidium.Lib.LittleEndian

/-!
# The event handlers of the demo's `main.rs`

`App` is the state of the event loop.  A handler is a program in `AppM`: it
reads and writes the state, and it may stop with an error at any `?` of the
source, with the state as it is at that point.  An error ends the process.

The node takes an envelope as long as its task is running, and `sent` lists
what it has taken.  What the source draws or reads from the clock in one call
of a handler is in `Draws`.

`handle_direct` looks at the first byte of the payload only.  That choice is
`route`, and `handleDirect` runs the arm that it names.
-/

namespace Presidium

variable {B : Nat → Type}

/-- The handle of the network node. -/
structure P2pNode where
  running : Bool
  /-- What `send_direct` has handed to the node task. -/
  sent : List Outbound

/-- Application state shared by the event loop. -/
structure App (B : Nat → Type) where
  store : NodeStore B
  node : P2pNode
  initiator : Option (InitiatorHandshake B)
  responder : Option (ResponderHandshake B)
  session : Option (ChatSession B)
  group : GroupChat B
  peer : Option PeerId
  lastOutgoing : Option Int

abbrev AppM (B : Nat → Type) := EStateM AppError (App B)

/-- What one call of a handler draws, and the time it reads. -/
structure Draws (B : Nat → Type) where
  ephemeral : HybridKemPrivateKey B
  coins : Coins B
  responderRatchet : B X25519_PRIVATE_KEY_SIZE
  initiatorRatchet : B X25519_PRIVATE_KEY_SIZE
  groupChain : B CHAIN_KEY_SIZE
  messageNonce : UInt32
  now : Int

/-- A message id: the timestamp of the envelope and a random nonce. -/
def messageIdBytes (timestamp : UInt64) (nonce : UInt32) : Bytes :=
  LittleEndian.leBytes 8 timestamp.toNat ++ LittleEndian.leBytes 4 nonce.toNat

/-- The arms of `handle_direct`. -/
inductive Arm where
  | bundleReq
  | bundle
  | prekey
  | ratchetPub
  | groupKey
  | chat
  deriving DecidableEq, Repr

/-- The arm for the first byte of a payload. -/
def route : Option UInt8 → Arm
  | some MARKER_BUNDLE_REQ => .bundleReq
  | some MARKER_BUNDLE => .bundle
  | some MARKER_PREKEY => .prekey
  | some MARKER_RATCHET_PUB => .ratchetPub
  | some MARKER_GROUP_KEY => .groupKey
  | _ => .chat

/-- The arm that an envelope is routed to. -/
def NetworkEnvelope.arm (envelope : NetworkEnvelope) : Arm :=
  route envelope.encryptedPayload.head?

/-! ## The store methods -/

namespace NodeStore

variable (P : Primitives B)

/-- Upsert the 1:1 conversation metadata. -/
def upsertConversation (store : NodeStore B) (id : String) (peer : IdentityPublicKey B)
    (isGroup : Bool) (now : Int) : Except AppError (NodeStore B) :=
  match store.db.upsertConversation
      { id
        peerClassical := P.toVec peer.classical
        peerPq := P.toVec peer.pq
        isGroup
        createdAt := now } with
  | .error e => .error (.storage "upsert conversation" e)
  | .ok db => .ok { store with db }

/-- Store an incoming or outgoing message; returns the row id. -/
def insertMessage (store : NodeStore B) (conversationId : String) (messageId : Bytes)
    (sender : IdentityPublicKey B) (ciphertext : Bytes) (header : String)
    (direction : MessageDirection) (now : Int) : Except AppError (NodeStore B × Int) :=
  match store.db.insertMessage
      { id := 0
        conversationId
        messageId
        senderClassical := P.toVec sender.classical
        ciphertext
        header
        contentType := 0
        direction
        status := if direction = .incoming then .delivered else .sent
        createdAt := now } with
  | .error e => .error (.storage "insert message" e)
  | .ok (db, id) => .ok ({ store with db }, id)

variable {P}

/-- The row of a conversation leaves the sessions alone. -/
theorem upsertConversation_keeps {store store' : NodeStore B} {id : String}
    {peer : IdentityPublicKey B} {isGroup : Bool} {now : Int}
    (h : store.upsertConversation P id peer isGroup now = .ok store') :
    store'.deviceId = store.deviceId ∧ store'.db.sessions = store.db.sessions := by
  unfold upsertConversation at h
  split at h
  next => cases h
  next hdb =>
    cases h
    exact ⟨rfl, Database.sessions_upsertConversation hdb⟩

/-- So does the row of a message. -/
theorem insertMessage_keeps {store store' : NodeStore B} {conversationId : String}
    {messageId : Bytes} {sender : IdentityPublicKey B} {ciphertext : Bytes} {header : String}
    {direction : MessageDirection} {now row : Int}
    (h : store.insertMessage P conversationId messageId sender ciphertext header direction now =
      .ok (store', row)) :
    store'.deviceId = store.deviceId ∧ store'.db.sessions = store.db.sessions := by
  unfold insertMessage at h
  split at h
  next => cases h
  next hdb =>
    cases h
    exact ⟨rfl, Database.sessions_insertMessage hdb⟩

end NodeStore

namespace App

/-! ## Steps that the handlers share -/

/-- `?` on a result that has nothing to do with the state. -/
def attempt {α : Type} : Except AppError α → AppM B α
  | .ok a => pure a
  | .error e => throw e

/-- `context` on an `Option`. -/
def required {α : Type} (text : String) : Option α → AppM B α
  | some a => pure a
  | none => throw (.message text)

/-- `String::from_utf8`. -/
def text (bytes : Bytes) : AppM B String :=
  match fromUtf8 bytes with
  | some s => pure s
  | none => throw .utf8

/-- `context` on the result of a step. -/
def withContext {α : Type} (text : String) (step : AppM B α) : AppM B α := fun app =>
  match step app with
  | .ok a app => .ok a app
  | .error e app => .error (.context text e) app

theorem state_withContext {α : Type} (text : String) (step : AppM B α) (app : App B) :
    Outcome.state (withContext text step app) = Outcome.state (step app) := by
  unfold withContext
  cases step app <;> rfl

theorem isOk_withContext {α : Type} (text : String) (step : AppM B α) (app : App B) :
    Outcome.IsOk (withContext text step app) ↔ Outcome.IsOk (step app) := by
  unfold withContext
  cases step app <;> rfl

theorem moves_withContext {α : Type} {R : App B → App B → Prop} {step : AppM B α}
    (h : Outcome.Moves R step) (text : String) : Outcome.Moves R (withContext text step) := by
  intro app
  rw [state_withContext]
  exact h app

section Moves

variable {α : Type} {R : App B → App B → Prop} (hrefl : ∀ app, R app app)
include hrefl

theorem moves_get : Outcome.Moves R (get : AppM B (App B)) := .of_state hrefl fun _ => rfl

theorem moves_pure (a : α) : Outcome.Moves R (pure a : AppM B α) := .of_state hrefl fun _ => rfl

theorem moves_attempt (x : Except AppError α) : Outcome.Moves R (attempt x : AppM B α) :=
  .of_state hrefl fun app => by cases x <;> rfl

theorem moves_required (message : String) (o : Option α) :
    Outcome.Moves R (required message o : AppM B α) :=
  .of_state hrefl fun app => by cases o <;> rfl

theorem moves_text (bytes : Bytes) : Outcome.Moves R (text bytes : AppM B String) :=
  .of_state hrefl fun app => by unfold text; cases fromUtf8 bytes <;> rfl

end Moves

/-- Hand an envelope to the node task. -/
def sendDirect (peer : PeerId) (envelope : NetworkEnvelope) : AppM B Unit := fun app =>
  if app.node.running then
    .ok () { app with node := { app.node with sent := app.node.sent ++ [⟨peer, envelope⟩] } }
  else
    .error .notRunning app

/-- A method on a part of the state that may be missing.  It works on the part
in place, so the part is written back on either exit. -/
def inPlace {α δ : Type} (read : App B → Option δ) (write : App B → δ → App B)
    (missing : String) (method : δ → Outcome AppError δ α) : AppM B α := fun app =>
  match read app with
  | none => .error (.message missing) app
  | some part =>
    match method part with
    | .ok a part => .ok a (write app part)
    | .error e part => .error e (write app part)

section InPlace

variable {α δ : Type} {read : App B → Option δ} {write : App B → δ → App B}
  {method : δ → Outcome AppError δ α} {app : App B} {part part' : δ}

theorem inPlace_none (hread : read app = none) (missing : String) :
    inPlace read write missing method app = .error (.message missing) app := by
  unfold inPlace
  simp only [hread]

theorem inPlace_ok {a : α} (hread : read app = some part) (h : method part = .ok a part')
    (missing : String) : inPlace read write missing method app = .ok a (write app part') := by
  unfold inPlace
  simp only [hread, h]

theorem inPlace_error {e : AppError} (hread : read app = some part)
    (h : method part = .error e part') (missing : String) :
    inPlace read write missing method app = .error e (write app part') := by
  unfold inPlace
  simp only [hread, h]

end InPlace

def onInitiator {α : Type} (missing : String)
    (method : InitiatorHandshake B → Outcome AppError (InitiatorHandshake B) α) : AppM B α :=
  inPlace initiator (fun app driver => { app with initiator := some driver }) missing method

def onResponder {α : Type} (missing : String)
    (method : ResponderHandshake B → Outcome AppError (ResponderHandshake B) α) : AppM B α :=
  inPlace responder (fun app driver => { app with responder := some driver }) missing method

def onSession {α : Type} (missing : String)
    (method : ChatSession B → Outcome AppError (ChatSession B) α) : AppM B α :=
  inPlace session (fun app session => { app with session := some session }) missing method

section OnSession

variable {α : Type} {method : ChatSession B → Outcome AppError (ChatSession B) α} {app : App B}
  {s s' : ChatSession B}

theorem onSession_ok {a : α} (hs : app.session = some s) (h : method s = .ok a s')
    (missing : String) :
    onSession missing method app = .ok a { app with session := some s' } :=
  inPlace_ok hs h missing

theorem onSession_error {e : AppError} (hs : app.session = some s) (h : method s = .error e s')
    (missing : String) :
    onSession missing method app = .error e { app with session := some s' } :=
  inPlace_error hs h missing

end OnSession

/-- A statement on the store, with its error. -/
def onStore {α : Type} (statement : NodeStore B → Except AppError (NodeStore B × α)) :
    AppM B α := fun app =>
  match statement app.store with
  | .ok (store, a) => .ok a { app with store }
  | .error e => .error e app

theorem onStore_ok {α : Type} {statement : NodeStore B → Except AppError (NodeStore B × α)}
    {app : App B} {store : NodeStore B} {a : α} (h : statement app.store = .ok (store, a)) :
    onStore statement app = .ok a { app with store } := by
  unfold onStore
  rw [h]

theorem onStore_error {α : Type} {statement : NodeStore B → Except AppError (NodeStore B × α)}
    {app : App B} {e : AppError} (h : statement app.store = .error e) :
    onStore statement app = .error e app := by
  unfold onStore
  rw [h]

section Storage

variable (P : Primitives B)

def upsertConversation (id : String) (peer : IdentityPublicKey B) (now : Int) : AppM B Unit :=
  onStore fun store => (store.upsertConversation P id peer false now).map (·, ())

/-- `insert_message` of an envelope. -/
def insertMessage (conversationId : String) (sender : IdentityPublicKey B)
    (envelope : NetworkEnvelope) (direction : MessageDirection) (nonce : UInt32) (now : Int) :
    AppM B Int := do
  let header ← text envelope.nonce
  onStore fun store => store.insertMessage P conversationId
    (messageIdBytes envelope.timestamp nonce) sender envelope.encryptedPayload header direction now

variable [Serde (SessionKeys B)] [Serde (RatchetSnapshot B)]

/-- `persist` of a session, with its error. -/
def persist (session : ChatSession B) (now : Int) : AppM B Unit :=
  onStore fun store => (session.persist store.db now).map fun db => ({ store with db }, ())

theorem persist_ok {session : ChatSession B} {app : App B} {db : Database} {now : Int}
    (h : session.persist app.store.db now = .ok db) :
    persist session now app = .ok () { app with store := { app.store with db } } := by
  unfold persist onStore
  simp only [h]
  rfl

theorem persist_error {session : ChatSession B} {app : App B} {e : AppError} {now : Int}
    (h : session.persist app.store.db now = .error e) :
    persist session now app = .error e app := by
  unfold persist onStore
  simp only [h]
  rfl

/-- `persist` of the current session, its error discarded. -/
def persistQuietly (now : Int) : AppM B Unit := fun app =>
  match app.session with
  | none => .ok () app
  | some session => .ok () (Outcome.state (persist session now app))

end Storage

/-! ## The arms of `handle_direct` -/

section Direct

variable (P : Primitives B) [Serde (HybridSignature B)] [Serde (RatchetMessageHeader B)]
  [Serde (PreKeyBundle B)] [Serde (PqxdhPrekeyMessage B)] [Serde (GroupKeyDistribution B)]
  [Serde (SessionKeys B)] [Serde (RatchetSnapshot B)] [DecidableEq (B X25519_PUBLIC_KEY_SIZE)]

/-- A sync envelope of this node, sent to `peer`. -/
def sendSync (peer : PeerId) (marker : UInt8) (body : Bytes) (now : Int) : AppM B Unit := do
  let app ← get
  sendDirect peer (syncEnvelope P app.store.identity app.store.deviceId marker body now)

/-- The responder is asked for its bundle. -/
def onBundleReq (sender : PeerId) (now : Int) : AppM B Unit := do
  let app ← get
  let driver ← required "bundle request on initiator" app.responder
  sendSync P sender MARKER_BUNDLE (Serde.toVec (driver.bundle P)) now

/-- The initiator gets the bundle.  The conversation row is written before the
bundle is verified. -/
def onBundle (body : Bytes) (draws : Draws B) : AppM B Unit := do
  let bundle ← attempt (parseBundle body)
  let app ← get
  let _ ← required "bundle on responder" app.initiator
  upsertConversation P app.store.deviceId bundle.identityKey draws.now
  let out ← onInitiator "bundle on responder" fun driver =>
    driver.sendPrekey P bundle draws.ephemeral draws.coins draws.now
  withContext "send prekey message" (sendDirect out.peer out.envelope)

/-- The responder gets the prekey message. -/
def onPrekey (sender : PeerId) (envelope : NetworkEnvelope) (body : Bytes) (draws : Draws B) :
    AppM B Unit := do
  let conversationId ← attempt (senderConversation envelope)
  let (ratchetPublic, chat) ← onResponder "prekey on initiator" fun driver =>
    driver.onPrekey P body conversationId draws.responderRatchet
  let app ← get
  let peerIdentity ← required "no peer identity after prekey"
    (app.responder.bind ResponderHandshake.peerIdentity)
  upsertConversation P conversationId peerIdentity draws.now
  persist chat draws.now
  modify fun app => { app with session := some chat }
  sendSync P sender MARKER_RATCHET_PUB (P.toVec ratchetPublic) draws.now

/-- `encrypt` of the current session under the keys of the node.  Its callers
have made sure that there is a session. -/
def encrypt (plaintext : Bytes) (now : Int) : AppM B NetworkEnvelope := do
  let app ← get
  onSession "no session" fun session =>
    session.encrypt P app.store.identity app.store.deviceId plaintext now

/-- The text of the greeting. -/
def greetingOf (deviceId : String) : Bytes := asBytes ("hello from " ++ deviceId)

/-- The greeting: the first message of the initiator. -/
def greet (peer : PeerId) (now : Int) : AppM B Unit := do
  let app ← get
  let envelope ← encrypt P (greetingOf app.store.deviceId) now
  sendDirect peer envelope
  persistQuietly now

/-- The initiator gets the ratchet key of the responder. -/
def onRatchetPub (sender : PeerId) (body : Bytes) (draws : Draws B) : AppM B Unit := do
  let chat ← onInitiator "ratchet pub on responder" fun driver =>
    driver.establish P body draws.initiatorRatchet
  let app ← get
  let peerIdentity ← required "no peer identity after establish"
    (app.initiator.bind InitiatorHandshake.peerIdentity)
  upsertConversation P app.store.deviceId peerIdentity draws.now
  persist chat draws.now
  modify fun app => { app with session := some chat }
  -- distribute the group sender key
  let app ← get
  let (distribution, group) := app.group.createSender P app.store.identity draws.groupChain
  set { app with group }
  sendSync P sender MARKER_GROUP_KEY (Serde.toVec distribution) draws.now
  greet P sender draws.now

/-- The responder gets the group key. -/
def onGroupKey (body : Bytes) : AppM B Unit := do
  let distribution ← attempt
    (match (Serde.fromSlice body : Option (GroupKeyDistribution B)) with
      | none => .error (.context "parse group key" .json)
      | some distribution => .ok distribution)
  let app ← get
  let peer ← required "no session for group key" (app.session.map ChatSession.peerIdentity)
  set { app with group := app.group.applyGroupKey P distribution peer }

/-- Resume the session from the database when there is none. -/
def resumeIfNeeded (conversationId : String) : AppM B Unit := fun app =>
  match app.session with
  | some _ => .ok () app
  | none =>
    match resume app.store.db conversationId with
    | .error e => .error e app
    | .ok none => .ok () app
    | .ok (some chat) => .ok () { app with session := some chat }

/-- The first part of the chat arm, up to `decrypt`. -/
def openChat (envelope : NetworkEnvelope) (now : Int) : AppM B (String × Bytes) := do
  let conversationId ← text envelope.conversationId
  resumeIfNeeded conversationId
  let app ← get
  let session ← required "no session established" app.session
  upsertConversation P conversationId session.peerIdentity now
  let plaintext ← onSession "no session established" fun session => session.decrypt P envelope
  return (conversationId, plaintext)

/-- `persist` of the current session, with its error. -/
def persistSession (now : Int) : AppM B Unit := do
  let app ← get
  let session ← required "no session established" app.session
  persist session now

omit [Serde (HybridSignature B)] [Serde (RatchetMessageHeader B)] [Serde (PreKeyBundle B)]
  [Serde (PqxdhPrekeyMessage B)] [Serde (GroupKeyDistribution B)]
  [DecidableEq (B X25519_PUBLIC_KEY_SIZE)] in
theorem persistSession_eq {app : App B} {session : ChatSession B}
    (hsession : app.session = some session) (now : Int) :
    persistSession now app = persist session now app := by
  refine (Outcome.bind_ok rfl).trans (Outcome.bind_ok ?_)
  rw [hsession]
  rfl

omit [Serde (HybridSignature B)] [Serde (RatchetMessageHeader B)] [Serde (PreKeyBundle B)]
  [Serde (PqxdhPrekeyMessage B)] [Serde (GroupKeyDistribution B)]
  [DecidableEq (B X25519_PUBLIC_KEY_SIZE)] in
theorem persistSession_error {app app' : App B} {e : AppError} {now : Int}
    (h : persistSession now app = .error e app') : app' = app := by
  cases hsession : app.session with
  | none =>
    have hrun : persistSession now app = .error (.message "no session established") app := by
      refine (Outcome.bind_ok rfl).trans (Outcome.bind_error ?_)
      rw [hsession]
      rfl
    rw [hrun] at h
    cases h
    rfl
  | some session =>
    rw [persistSession_eq hsession] at h
    cases hpersist : session.persist app.store.db now with
    | ok db =>
      rw [persist_ok hpersist] at h
      cases h
    | error e =>
      rw [persist_error hpersist] at h
      cases h
      rfl

/-- The row of an incoming envelope. -/
def storeIncoming (conversationId : String) (envelope : NetworkEnvelope) (nonce : UInt32)
    (now : Int) : AppM B Unit := do
  let app ← get
  let session ← required "no session established" app.session
  let _ ← insertMessage P conversationId session.peerIdentity envelope .incoming nonce now

/-- An encrypted chat message, up to the line that prints the text. -/
def readChat (envelope : NetworkEnvelope) (now : Int) : AppM B (String × Bytes) := do
  let (conversationId, text) ← openChat P envelope now
  persistSession now
  return (conversationId, text)

/-- An encrypted chat message. -/
def onChat (envelope : NetworkEnvelope) (draws : Draws B) : AppM B Unit := do
  let (conversationId, _) ← readChat P envelope draws.now
  storeIncoming P conversationId envelope draws.messageNonce draws.now

/-- The arm of `handle_direct` for an envelope. -/
def runArm (arm : Arm) (sender : PeerId) (envelope : NetworkEnvelope) (draws : Draws B) :
    AppM B Unit :=
  let body := envelope.encryptedPayload.drop 1
  match arm with
  | .bundleReq => onBundleReq P sender draws.now
  | .bundle => onBundle P body draws
  | .prekey => onPrekey P sender envelope body draws
  | .ratchetPub => onRatchetPub P sender body draws
  | .groupKey => onGroupKey P body
  | .chat => onChat P envelope draws

/-- The first sender is the peer, if there is none yet. -/
def notePeer (sender : PeerId) : AppM B Unit :=
  modify fun app => { app with peer := app.peer.or (some sender) }

/-- Route an inbound direct message by its sync marker. -/
def handleDirect (sender : PeerId) (envelope : NetworkEnvelope) (draws : Draws B) :
    AppM B Unit := do
  notePeer sender
  runArm P envelope.arm sender envelope draws

/-! ## Outgoing chat messages -/

/-- The row of an outgoing envelope. -/
def storeOutgoing (envelope : NetworkEnvelope) (nonce : UInt32) (now : Int) : AppM B Unit := do
  let app ← get
  let session ← required "no session" app.session
  let row ← insertMessage P session.conversationId (app.store.identity.publicKey P) envelope
    .outgoing nonce now
  modify fun app => { app with lastOutgoing := some row }

/-- The part of `handle_command` for a line that is no command. -/
def sendLine (line : String) (draws : Draws B) : AppM B Unit := do
  let app ← get
  match app.session, app.peer with
  | some _, some peer => do
    let envelope ← encrypt P (asBytes line) draws.now
    storeOutgoing P envelope draws.messageNonce draws.now
    sendDirect peer envelope
    persistQuietly draws.now
  -- no session or no peer: a line of text and nothing else
  | _, _ => return

end Direct

/-- The application of an initiator at the start of the process: it resumes
the session that the last process has persisted, if there is one. -/
def startInitiator [Serde (SessionKeys B)] [Serde (RatchetSnapshot B)] (store : NodeStore B)
    (peer : PeerId) : Except AppError (App B) := do
  let session ← resume store.db store.deviceId
  return {
    store
    node := { running := true, sent := [] }
    initiator := some (.new store.identity store.deviceId peer)
    responder := none
    session
    group := .new
    peer := some peer
    lastOutgoing := none }

end App
end Presidium
