import BasisRust.Lib.HashSet
import BasisRust.Transport.Peer

/-!
# The transport: peers, addresses and ids

`TransportHandle` with the calls the server makes on it.  A call runs in a `World`: the handle, the clock,
the outcomes the socket and the event queue have in store, and what has been sent and emitted so far.  An
error ends a call where it occurs and leaves what was done before.
-/

namespace BasisRust.Transport

open Lib Protocol

/-! ### Data -/

inductive TransportError where
  | io
  | eventChannelClosed
  deriving DecidableEq, Repr

structure ConnectionRequest where
  remoteAddr : SocketAddr
  payload : Bytes
  connectionNumber : UInt8
  connectTime : Int64
  localPeerId : Int32
  deriving DecidableEq, Repr

inductive DisconnectReason where
  | remote
  | timeout
  | rejected (reason : String)
  deriving DecidableEq, Repr

inductive ServerEvent where
  | connectionRequest (request : ConnectionRequest)
  | peerConnected (peer : PeerId)
  | peerDisconnected (peer : PeerId) (reason : DisconnectReason)
  | message (peer : PeerId) (channel : UInt8) (delivery : DeliveryMethod) (payload : Bytes)
  | networkError (text : String)
  | unconnectedRequest (remoteAddr : SocketAddr) (nonce : UInt16) (payload : Bytes)
  | natIntroductionRequest (remoteAddr localAddr : SocketAddr) (token : String)
  deriving DecidableEq, Repr

structure PendingRequestInfo where
  connectTime : Int64
  connectionNumber : UInt8
  deriving DecidableEq, Repr

structure TransportHandle where
  peers : Dict PeerId PeerState := ∅
  byAddr : Dict SocketAddr PeerId := ∅
  pendingRequests : Dict SocketAddr PendingRequestInfo := ∅
  nextPeerId : UInt16 := 0
  reusablePeerIds : List PeerId := []
  retiredPeerIds : HashSet PeerId := ∅

/-- What the bounded event queue answers to `try_send`. -/
inductive QueueResult where
  | accepted
  | full
  | closed
  deriving DecidableEq, Repr

structure World where
  handle : TransportHandle := {}
  /-- `Instant::now()`, in milliseconds -/
  now : ℕ := 0
  /-- `dotnet_utc_ticks()` -/
  utcTicks : Int64 := 0
  /-- whether the sends still to come succeed; all do when the list has run out -/
  sendResults : List Bool := []
  /-- the answers of the queue still to come; `accepted` when the list has run out -/
  queueResults : List QueueResult := []
  sent : List (SocketAddr × Bytes) := []
  events : List ServerEvent := []

abbrev TransportM := EStateM TransportError World

/-! ### Socket and queue -/

def modifyHandle (f : TransportHandle → TransportHandle) : TransportM Unit :=
  modify fun w => { w with handle := f w.handle }

def sendRawTo (bytes : Bytes) (addr : SocketAddr) : TransportM Unit := fun w =>
  match w.sendResults with
  | false :: rest => .error .io { w with sendResults := rest }
  | results => .ok () { w with sendResults := results.tail, sent := w.sent ++ [(addr, bytes)] }

/-- A full queue is waited for; the wait ends with room or with the queue closed. -/
def enqueueEvent (event : ServerEvent) : TransportM Unit := fun w =>
  match w.queueResults with
  | .closed :: rest => .error .eventChannelClosed { w with queueResults := rest }
  | results => .ok () { w with queueResults := results.tail, events := w.events ++ [event] }

def enqueueLossyEvent (event : ServerEvent) : TransportM Unit := fun w =>
  match w.queueResults with
  | .closed :: rest => .error .eventChannelClosed { w with queueResults := rest }
  | .full :: rest => .ok () { w with queueResults := rest }
  | results => .ok () { w with queueResults := results.tail, events := w.events ++ [event] }

/-! ### Small packets -/

def sendSimpleProperty (remoteAddr : SocketAddr) (property : PacketProperty) : TransportM Unit :=
  sendRawTo [property.toU8] remoteAddr

def connectAcceptBytes (connectionNumber : UInt8) (connectTime : Int64) (peerId : PeerId) : Bytes :=
  putU8 (headerByte .connectAccept connectionNumber) ++ putI64 connectTime ++ putU8 connectionNumber ++
    putU8 0 ++ putI32 (Int32.ofNat peerId.toNat)

def sendConnectAccept (remoteAddr : SocketAddr) (connectionNumber : UInt8) (connectTime : Int64)
    (peerId : PeerId) : TransportM Unit :=
  sendRawTo (connectAcceptBytes connectionNumber connectTime peerId) remoteAddr

def sendPong (remoteAddr : SocketAddr) (connectionNumber : UInt8) (sequence : UInt16) : TransportM Unit := do
  let w ← get
  sendRawTo (putU8 (headerByte .pong connectionNumber) ++ putU16 sequence ++ putI64 w.utcTicks) remoteAddr

def sendMtuOk (remoteAddr : SocketAddr) (mtuCheckPacket : Bytes) : TransportM Unit :=
  match mtuCheckPacket with
  | [] => return
  | header :: rest => sendRawTo (((header &&& 0xe0) ||| PacketProperty.mtuOk.toU8) :: rest) remoteAddr

/-- The disconnect datagram `reject` and `disconnect` send. -/
def disconnectBytes (connectionNumber : UInt8) (connectTime : Int64) (reason : String) : Bytes :=
  putU8 (headerByte .disconnect connectionNumber) ++ putI64 connectTime ++ putBytes (putString reason)

/-! ### Ids -/

namespace TransportHandle

def retirePeerId (peer : PeerId) (handle : TransportHandle) : TransportHandle :=
  { handle with retiredPeerIds := handle.retiredPeerIds.insert peer }

/-- The loop of `allocate_peer_id`; the fuel bounds its rounds. -/
def allocatePeerId : ℕ → TransportHandle → Option (PeerId × TransportHandle)
  | 0, _ => none
  | fuel + 1, handle =>
    match handle.reusablePeerIds with
    | id :: rest =>
      let handle := { handle with reusablePeerIds := rest }
      if id ∈ handle.peers then allocatePeerId fuel handle else some (id, handle)
    | [] =>
      let id := handle.nextPeerId
      let handle := { handle with nextPeerId := id + 1 }
      if id ∈ handle.peers then allocatePeerId fuel handle else some (id, handle)

def recyclePeerId (peer : PeerId) (handle : TransportHandle) : TransportHandle :=
  if peer ∈ handle.peers then handle
  else if peer ∉ handle.retiredPeerIds then handle
  else
    let handle := { handle with retiredPeerIds := handle.retiredPeerIds.erase peer }
    if peer ∈ handle.reusablePeerIds then handle
    else { handle with reusablePeerIds := handle.reusablePeerIds ++ [peer] }

def removePending (addr : SocketAddr) (handle : TransportHandle) : TransportHandle :=
  { handle with pendingRequests := handle.pendingRequests.erase addr }

def insertPeer (peer : PeerState) (handle : TransportHandle) : TransportHandle :=
  { handle with byAddr := handle.byAddr.insert peer.addr peer.id, peers := handle.peers.insert peer.id peer }

/-- The peer leaves both tables and its id is retired. -/
def dropPeer (peerId : PeerId) (addr : SocketAddr) (handle : TransportHandle) : TransportHandle :=
  retirePeerId peerId
    { handle with peers := handle.peers.erase peerId, byAddr := handle.byAddr.erase addr }

end TransportHandle

/-! ### Calls -/

/-- `none` when the fuel ends before `allocate_peer_id` does. -/
def accept (fuel : ℕ) (request : ConnectionRequest) : TransportM (Option PeerId) := do
  modifyHandle (.removePending request.remoteAddr)
  let w ← get
  match w.handle.allocatePeerId fuel with
  | none => return none
  | some (id, handle) =>
    let state := PeerState.new id request.remoteAddr request.connectionNumber request.connectTime w.now
    modifyHandle fun _ => handle.insertPeer state
    sendConnectAccept request.remoteAddr request.connectionNumber request.connectTime id
    return some id

def reject (request : ConnectionRequest) (reason : String) : TransportM Unit := do
  modifyHandle (.removePending request.remoteAddr)
  sendRawTo (disconnectBytes request.connectionNumber request.connectTime reason) request.remoteAddr

def disconnect (peer : PeerId) (reason : String) : TransportM Unit := do
  let w ← get
  match w.handle.peers.lookup peer with
  | none => return
  | some state =>
    modifyHandle (.dropPeer peer state.addr)
    sendRawTo (disconnectBytes state.connectionNumber state.connectTime reason) state.addr

def recyclePeerId (peer : PeerId) : TransportM Unit := modifyHandle (.recyclePeerId peer)

/-- `timeout_loop` for one peer of its list; an event the queue no longer takes is dropped. -/
def timeoutPeer (peerId : PeerId) : TransportM Unit := do
  let w ← get
  match w.handle.peers.lookup peerId with
  | none => return
  | some peer =>
    modifyHandle (.dropPeer peerId peer.addr)
    tryCatch (enqueueEvent (.peerDisconnected peerId .timeout)) fun _ => return

end BasisRust.Transport
