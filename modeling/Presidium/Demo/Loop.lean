import Presidium.Demo.Dispatch
import Presidium.Lib.Machine
import Presidium.Network.Node

/-!
# The event loop of the demo's `main.rs`

`run_loop` takes a line of its input or an event of the node, whichever comes
first, and hands it to `handle_command` or `handle_event`.  An error of either
one ends the loop, and with it the process.

`RunLoop` is the loop with what it has returned so far, and a run is a list of
inputs.  What is printed is left out.
-/

namespace Presidium

open Network (NodeEvent)

variable {B : Nat → Type}

/-- What `run_loop` keeps. -/
structure LoopState (B : Nat → Type) where
  app : App B
  handshakeStarted : Bool

abbrev LoopM (B : Nat → Type) := EStateM AppError (LoopState B)

/-- The commands of the prompt. -/
inductive Command where
  | quit
  | info
  | history
  | group (text : String)
  | chat (line : String)
  deriving DecidableEq

/-- The command on a line. -/
def Command.ofLine (line : String) : Command :=
  if line = "q" ∨ line = "@quit" ∨ line = "exit" then .quit
  else if line = "@info" then .info
  else if line = "@history" then .history
  else if "@group ".toList.isPrefixOf line.toList then .group (String.ofList (line.toList.drop 7))
  else .chat line

namespace NodeStore

def updateMessageStatus (store : NodeStore B) (row : Int) (status : MessageStatus) :
    NodeStore B :=
  { store with db := store.db.updateMessageStatus row status }

/-- The rows that `print_history` prints. -/
def printHistory (store : NodeStore B) (conversationId : String) :
    Except AppError (List MessageRecord) :=
  match store.db.listMessages conversationId none 100 with
  | .error e => .error (.storage "list messages" e)
  | .ok messages => .ok messages

end NodeStore

namespace App

/-- The outcome of a direct message goes to the row in `last_outgoing`. -/
def settle (status : MessageStatus) : AppM B Unit :=
  modify fun app =>
    match app.lastOutgoing with
    | none => app
    | some row =>
      { app with lastOutgoing := none, store := app.store.updateMessageStatus row status }

theorem settle_of_none {app : App B} (h : app.lastOutgoing = none) (status : MessageStatus) :
    settle status app = .ok () app := by
  show EStateM.Result.ok () _ = _
  simp only [h]

theorem settle_of_some {app : App B} {row : Int} (h : app.lastOutgoing = some row)
    (status : MessageStatus) :
    settle status app = .ok () { app with
      lastOutgoing := none
      store := app.store.updateMessageStatus row status } := by
  show EStateM.Result.ok () _ = _
  simp only [h]

section Group

variable (P : Primitives B) [Serde (HybridSignature B)] [Serde SenderKeyMessage]

/-- The identity that a group message is stored under. -/
def groupSender (app : App B) : IdentityPublicKey B :=
  (app.session.map ChatSession.peerIdentity).getD (app.store.identity.publicKey P)

/-- The rows of a group message that was decrypted. -/
def storeGroup (envelope : NetworkEnvelope) (draws : Draws B) : AppM B Unit := do
  let app ← get
  let sender := app.groupSender P
  onStore fun store =>
    (store.upsertConversation P app.group.conversationId sender true draws.now).map (·, ())
  let _ ← insertMessage P app.group.conversationId sender envelope .incoming draws.messageNonce
    draws.now

/-- A group message.  One that does not decrypt is only reported. -/
def onGossip (envelope : NetworkEnvelope) (draws : Draws B) : AppM B Unit := fun app =>
  match app.group.decrypt P envelope with
  | .error _ group => .ok () { app with group }
  | .ok _ group => storeGroup P envelope draws { app with group }

/-- Publish a text to the group. -/
def publish (text : String) (now : Int) : AppM B Unit := fun app =>
  match app.group.publish P app.node.running app.store.identity app.store.deviceId
      (asBytes text) now with
  | .error e group => .error e { app with group }
  | .ok _ group => .ok () { app with group }

end Group

end App

/-! ## The handlers -/

section Handlers

variable (P : Primitives B) [Serde (HybridSignature B)] [Serde (RatchetMessageHeader B)]
  [Serde (PreKeyBundle B)] [Serde (PqxdhPrekeyMessage B)] [Serde (GroupKeyDistribution B)]
  [Serde (SessionKeys B)] [Serde (RatchetSnapshot B)] [Serde SenderKeyMessage]
  [DecidableEq (B X25519_PUBLIC_KEY_SIZE)]

/-- A step on the application. -/
def onApp {α : Type} (step : AppM B α) : LoopM B α := fun loop =>
  match step loop.app with
  | .ok a app => .ok a { loop with app }
  | .error e app => .error e { loop with app }

/-- A connection.  The initiator asks for the bundle once. -/
def onPeerConnected (peer : PeerId) (now : Int) : LoopM B Unit := do
  onApp (App.notePeer peer)
  let loop ← get
  match loop.app.initiator with
  | none => return
  | some driver =>
    if loop.app.session.isNone && !loop.handshakeStarted then
      set { loop with handshakeStarted := true }
      let out := driver.requestBundle P now
      onApp (App.withContext "send bundle request" (App.sendDirect out.peer out.envelope))

/-- The arms of `handle_event`. -/
def dispatch (draws : Draws B) : NodeEvent → LoopM B Unit
  | .listen _ => pure ()
  | .peerConnected peer => onPeerConnected P peer draws.now
  | .peerDisconnected _ => pure ()
  | .peerDiscovered _ _ => pure ()
  | .directMessage sender envelope => onApp (App.handleDirect P sender envelope draws)
  | .directDelivered _ _ status =>
    onApp (App.settle (if status.status = 1 then .delivered else .failed))
  | .directFailed _ _ => onApp (App.settle .failed)
  | .gossipMessage _ _ envelope => onApp (App.onGossip P envelope draws)

/-- Handle a node event; returns false when the loop must exit, which no event
asks for. -/
def handleEvent (event : NodeEvent) (draws : Draws B) : LoopM B Bool := do
  dispatch P draws event
  return true

/-- Handle an interactive command; returns false when the loop must exit. -/
def handleCommand (line : String) (draws : Draws B) : AppM B Bool := do
  match Command.ofLine line with
  | .quit => return false
  | .info => return true
  | .history =>
    let app ← get
    let _ ← App.attempt (app.store.printHistory app.store.deviceId)
    let _ ← App.attempt (app.store.printHistory app.group.conversationId)
    return true
  | .group text =>
    let app ← get
    match app.group.sender with
    | none => return true
    | some _ =>
      App.publish P text draws.now
      return true
  | .chat line =>
    App.sendLine P line draws
    return true

end Handlers

/-! ## The loop -/

/-- What the loop may take next: a line of its input, trimmed, or an event. -/
inductive Input (B : Nat → Type) where
  | line (line : String) (draws : Draws B)
  | endOfInput
  | event (event : NodeEvent) (draws : Draws B)
  | channelClosed

/-- The loop, and what it has returned once it is over. -/
structure RunLoop (B : Nat → Type) where
  state : LoopState B
  returned : Option (Except AppError Unit)

namespace RunLoop

/-- The loop before its first input. -/
def start (app : App B) : RunLoop B :=
  { state := { app, handshakeStarted := false }, returned := none }

/-- Go on or leave the loop, as a handler says. -/
def follow : Outcome AppError (LoopState B) Bool → RunLoop B
  | .ok true state => { state, returned := none }
  | .ok false state => { state, returned := some (.ok ()) }
  | .error e state => { state, returned := some (.error e) }

section Step

variable (P : Primitives B) [Serde (HybridSignature B)] [Serde (RatchetMessageHeader B)]
  [Serde (PreKeyBundle B)] [Serde (PqxdhPrekeyMessage B)] [Serde (GroupKeyDistribution B)]
  [Serde (SessionKeys B)] [Serde (RatchetSnapshot B)] [Serde SenderKeyMessage]
  [DecidableEq (B X25519_PUBLIC_KEY_SIZE)]

/-- One turn of the loop. -/
def turn (state : LoopState B) : Input B → RunLoop B
  | .line line draws =>
    if line = "" then { state, returned := none }
    else follow (onApp (handleCommand P line draws) state)
  | .endOfInput => { state, returned := some (.ok ()) }
  | .event event draws => follow (handleEvent P event draws state)
  | .channelClosed => { state, returned := some (.ok ()) }

/-- A loop that has returned takes nothing. -/
def step (loop : RunLoop B) (input : Input B) : RunLoop B :=
  match loop.returned with
  | none => turn P loop.state input
  | some _ => loop

def machine : Machine (RunLoop B) (Input B) where
  step := step P
  Enabled := fun loop _ => loop.returned = none

end Step

end RunLoop

/-! ## The calls of a handler -/

/-- A call of `handle_direct` with its arguments. -/
structure DirectCall (B : Nat → Type) where
  app : App B
  sender : PeerId
  envelope : NetworkEnvelope
  draws : Draws B

/-- The call that an input makes. -/
def RunLoop.directCalls (loop : RunLoop B) : Input B → List (DirectCall B)
  | .event (.directMessage sender envelope) draws =>
    match loop.returned with
    | none => [{ app := loop.state.app, sender, envelope, draws }]
    | some _ => []
  | _ => []

namespace App

/-- The application of a responder at the start of the process. -/
def startResponder (store : NodeStore B) (prekey : PrekeyMaterial B) : App B :=
  { store
    node := { running := true, sent := [] }
    initiator := none
    responder := some (.new store.identity prekey)
    session := none
    group := .new
    peer := none
    lastOutgoing := none }

end App

/-! ## Nodes over symbolic keys -/

namespace Sym

/-- What the initiator draws at its first start. -/
def aliceBoot : BootDraws Sym := { firstBoot with identity := alice, deviceId := [70, 71] }

/-- The store of an initiator after its first start. -/
def initiatorStore : NodeStore Sym := (NodeDatabase.first primitives aliceBoot).store

/-- The initiator before its first event. -/
def freshInitiator : App Sym :=
  { store := initiatorStore
    node := { running := true, sent := [] }
    initiator := some (.new alice initiatorStore.deviceId [1])
    responder := none
    session := none
    group := .new
    peer := some [1]
    lastOutgoing := none }

theorem startInitiator_initiatorStore :
    App.startInitiator initiatorStore [1] = .ok freshInitiator := rfl

/-- The bundle of the responder. -/
def responderBundle : PreKeyBundle Sym :=
  (firstPrekey primitives firstBoot).toBundle primitives firstBoot.identity

/-- The answer of the responder to a bundle request. -/
def bundleEnvelope : NetworkEnvelope :=
  syncEnvelope primitives firstBoot.identity "b2" MARKER_BUNDLE (Serde.toVec responderBundle) 8

/-- The initiator and the responder with short values. -/
def hashedInitiator : App Sym :=
  { freshInitiator with store := (NodeDatabase.first hashed aliceBoot).store }

def hashedResponder : App Sym :=
  App.startResponder (NodeDatabase.first hashed firstBoot).store (firstPrekey hashed firstBoot)

end Sym
end Presidium
