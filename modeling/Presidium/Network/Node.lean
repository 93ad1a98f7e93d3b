import Mathlib.Data.List.AList
import Presidium.Demo.Handshake
import Presidium.Lib.Machine

/-!
# The P2P node: `node.rs` and `discovery.rs` of `presidium-network`

The node's task owns the swarm.  After its start it takes a command of the
application or an event of the swarm, whichever comes first, and handles it to
the end before it takes the next one.  A run is the list of what it takes.

libp2p is outside.  What the task asks of the swarm is an `Action`, like the
events that it reports to the application.  The results of the calls are only
logged, but for `send_request`, whose request id comes in with the command.
Log lines are left out, and an event for which the application's receiver is
closed counts as emitted.
-/

namespace Presidium.Network

/-! ## Addresses -/

/-- A component of a multiaddress. -/
inductive Protocol where
  | p2p (peer : PeerId)
  | other (text : String)
  deriving DecidableEq

abbrev Multiaddr := List Protocol

inductive NetworkError where
  /-- No dialable address in the address. -/
  | invalidAddress (addr : Multiaddr)
  deriving DecidableEq

/-- The peer id, if the address has one at its end, and the dialable part. -/
structure BootstrapPeer where
  peer : Option PeerId
  address : Multiaddr
  deriving DecidableEq

/-- A trailing peer id, and the components before it. -/
def popPeer (addr : Multiaddr) : Option PeerId × Multiaddr :=
  match addr.getLast? with
  | some (.p2p id) => (some id, addr.dropLast)
  | _ => (none, addr)

/-- Split a multiaddr into its dialable part and an optional trailing peer id. -/
def parseBootstrapPeer (addr : Multiaddr) : Except NetworkError BootstrapPeer :=
  let (peer, parts) := popPeer addr
  if parts.isEmpty then .error (.invalidAddress addr) else .ok { peer, address := parts }

/-- What the task reads of the configuration. -/
structure NodeConfig where
  listen : List Multiaddr := []
  bootstrapPeers : List Multiaddr := []
  mdnsEnabled : Bool := true
  autoDial : Bool := true
  subscribeTopics : List String := []

/-! ## What comes in and what goes out -/

/-- The id of an outbound request, as the swarm gives it. -/
abbrev RequestId := Nat

/-- The channel that an inbound request is answered on. -/
abbrev ResponseChannel := Nat

structure NetworkRequest where
  envelope : Option NetworkEnvelope
  deriving DecidableEq

structure NetworkResponse where
  status : Int
  ackId : Bytes
  deriving DecidableEq

def STATUS_OK : Int := 1

/-- The protobuf encoding of an envelope. -/
structure EnvelopeCodec where
  encodeToVec : NetworkEnvelope → Bytes
  decode : Bytes → Option NetworkEnvelope

/-- Control messages of the public API. -/
inductive Control where
  | dial (addr : Multiaddr)
  | sendDirect (peer : PeerId) (envelope : NetworkEnvelope)
  | publish (topic : String) (envelope : NetworkEnvelope)
  | subscribe (topic : String)
  | unsubscribe (topic : String)
  /-- Send the listen addresses on a one-shot channel. -/
  | listenAddrs (reply : Nat)
  | shutdown

/-- Events reported to the application. -/
inductive NodeEvent where
  | listen (address : Multiaddr)
  | peerConnected (peer : PeerId)
  | peerDisconnected (peer : PeerId)
  | peerDiscovered (peer : PeerId) (address : Multiaddr)
  | directMessage (sender : PeerId) (envelope : NetworkEnvelope)
  | directDelivered (receiver : PeerId) (conversationId : Bytes) (status : NetworkResponse)
  | directFailed (receiver : PeerId) (error : String)
  | gossipMessage (sender : PeerId) (topic : String) (envelope : NetworkEnvelope)
  deriving DecidableEq

/-- A `DirectDelivered` or `DirectFailed`. -/
def NodeEvent.outcome : NodeEvent → Option NodeEvent
  | directDelivered receiver conversationId status =>
    some (directDelivered receiver conversationId status)
  | directFailed receiver error => some (directFailed receiver error)
  | _ => none

/-- Events of the swarm. -/
inductive SwarmEvent where
  | newListenAddr (address : Multiaddr)
  | connectionEstablished (peer : PeerId)
  | connectionClosed (peer : PeerId)
  | mdnsDiscovered (list : List (PeerId × Multiaddr))
  | mdnsExpired (list : List (PeerId × Multiaddr))
  /-- Kademlia knows at least one address of the peer. -/
  | routingUpdated (peer : PeerId) (first : Multiaddr) (others : List Multiaddr)
  | gossipMessage (propagationSource : PeerId) (topic : String) (data : Bytes)
  | request (peer : PeerId) (request : NetworkRequest) (channel : ResponseChannel)
  | response (peer : PeerId) (response : NetworkResponse) (requestId : RequestId)
  | outboundFailure (peer : PeerId) (requestId : RequestId) (error : String)
  | inboundFailure
  /-- Any other event. -/
  | other

/-- What the task does: it reports an event or calls the swarm. -/
inductive Action where
  | emit (event : NodeEvent)
  | listenOn (addr : Multiaddr)
  | dial (addr : Multiaddr)
  | addAddress (peer : PeerId) (addr : Multiaddr)
  | removeAddress (peer : PeerId) (addr : Multiaddr)
  | subscribe (topic : String)
  | unsubscribe (topic : String)
  | publish (topic : String) (data : Bytes)
  | sendRequest (requestId : RequestId) (peer : PeerId) (request : NetworkRequest)
  | sendResponse (channel : ResponseChannel) (response : NetworkResponse)
  | sendListeners (reply : Nat)
  deriving DecidableEq

/-- Pending outbound direct requests: request id to peer and conversation id. -/
abbrev Pending := AList fun _ : RequestId => PeerId × Bytes

/-- What the task takes next.  A command comes with the id that `send_request`
gives back, should the command send one. -/
inductive Turn where
  | control (command : Control) (requestId : RequestId)
  | swarm (event : SwarmEvent)

/-! ## The task -/

section Task

variable (config : NodeConfig) (codec : EnvelopeCodec)

/-- What `run_loop` does before its loop. -/
def startup : List Action :=
  let listenAddrs :=
    if config.listen.isEmpty then [[.other "/ip4/0.0.0.0", .other "/tcp/0"]] else config.listen
  listenAddrs.map .listenOn ++ config.subscribeTopics.map .subscribe ++
    config.bootstrapPeers.flatMap fun addr =>
      match parseBootstrapPeer addr with
      | .ok peer => (peer.peer.toList.map fun id => .addAddress id peer.address) ++
          [.dial peer.address]
      | .error _ => []

/-- The `control` arm of the loop. -/
def handleControl (requestId : RequestId) (pending : Pending) : Control → List Action × Pending
  | .dial addr => ([.dial addr], pending)
  | .sendDirect peer envelope =>
    ([.sendRequest requestId peer { envelope := some envelope }],
      pending.insert requestId (peer, envelope.conversationId))
  | .publish topic envelope => ([.publish topic (codec.encodeToVec envelope)], pending)
  | .subscribe topic => ([.subscribe topic], pending)
  | .unsubscribe topic => ([.unsubscribe topic], pending)
  | .listenAddrs reply => ([.sendListeners reply], pending)
  -- the loop has ended
  | .shutdown => ([], pending)

def handleSwarmEvent (pending : Pending) : SwarmEvent → List Action × Pending
  | .newListenAddr address => ([.emit (.listen address)], pending)
  | .connectionEstablished peer => ([.emit (.peerConnected peer)], pending)
  | .connectionClosed peer => ([.emit (.peerDisconnected peer)], pending)
  | .mdnsDiscovered list =>
    (if config.mdnsEnabled then
      list.flatMap fun (peer, address) =>
        [.addAddress peer address, .emit (.peerDiscovered peer address)] ++
          if config.autoDial then [.dial address] else []
    else [], pending)
  | .mdnsExpired list =>
    (if config.mdnsEnabled then list.map fun (peer, address) => .removeAddress peer address
    else [], pending)
  | .routingUpdated peer first _ => ([.emit (.peerDiscovered peer first)], pending)
  | .gossipMessage propagationSource topic data =>
    match codec.decode data with
    | some envelope => ([.emit (.gossipMessage propagationSource topic envelope)], pending)
    | none => ([], pending)
  | .request peer request channel =>
    let ackId := (request.envelope.map NetworkEnvelope.conversationId).getD []
    let status : NetworkResponse := { status := STATUS_OK, ackId }
    match request.envelope with
    | some envelope =>
      ([.sendResponse channel status, .emit (.directMessage peer envelope)], pending)
    | none => ([], pending)
  | .response _ response requestId =>
    match pending.extract requestId with
    | (some (receiver, conversationId), pending) =>
      ([.emit (.directDelivered receiver conversationId response)], pending)
    | (none, pending) => ([], pending)
  | .outboundFailure peer requestId error =>
    ([.emit (.directFailed peer error)], pending.erase requestId)
  | .inboundFailure => ([], pending)
  | .other => ([], pending)

/-- One round of the loop. -/
def handle (pending : Pending) : Turn → List Action × Pending
  | .control command requestId => handleControl codec requestId pending command
  | .swarm event => handleSwarmEvent config codec pending event

/-- The loop as a machine. -/
def loop : Machine Pending Turn where
  step pending turn := (handle config codec pending turn).2
  Enabled _ _ := True

def Turn.isShutdown : Turn → Bool
  | .control .shutdown _ => true
  | _ => false

/-- The loop breaks at a `Shutdown`. -/
def handled (turns : List Turn) : List Turn := turns.takeWhile fun turn => !turn.isShutdown

/-- What `run_loop` does, and the pending requests after it. -/
def runLoop (turns : List Turn) : List Action × Pending :=
  (startup config ++
      (loop config codec).trace (fun pending turn => (handle config codec pending turn).1) ∅
        (handled turns),
    (loop config codec).run ∅ (handled turns))

end Task

end Presidium.Network
