import BasisRust.Lib.FinalState
import BasisRust.Transport.Handle
import BasisRust.Transport.Merged

/-!
# Processing a datagram

`process_packet` with an arm for every property.  A merged datagram hands the packets in it back to
`process_packet`, so a datagram is a tree whose leaves (`leaves`) are the packets acted on;
`relates_processPacket` carries what every leaf does over to the whole datagram.
-/

namespace BasisRust.Transport

open Lib Protocol

/-! ### Dispatch -/

/-- What `process_packet` makes of a datagram before it looks at the tables. -/
inductive Dispatch where
  | serverInfo (payload : Bytes)
  | ignored
  | packet (property : PacketProperty) (connectionNumber : UInt8)
  deriving DecidableEq, Repr

def dispatch (bytes : Bytes) : Dispatch :=
  match (serverInfoPayload bytes).filter fun payload => payload.length ≥ serverInfoMinRequestBytes with
  | some payload => .serverInfo payload
  | none =>
    match bytes with
    | [] => .ignored
    | header :: _ =>
      match PacketProperty.fromByte header with
      | none => .ignored
      | some property => .packet property (connectionNumberOf header)

/-! ### The arms -/

namespace TransportHandle

def modifyPeer (peerId : PeerId) (f : PeerState → PeerState) (handle : TransportHandle) : TransportHandle :=
  { handle with peers := handle.peers.modify peerId f }

def unbind (addr : SocketAddr) (handle : TransportHandle) : TransportHandle :=
  { handle with byAddr := handle.byAddr.erase addr }

end TransportHandle

/-- `last_seen` of the peer the address is bound to. -/
def touchPeer (remoteAddr : SocketAddr) : TransportM Unit := do
  let w ← get
  match w.handle.byAddr.lookup remoteAddr with
  | none => return
  | some peerId => modifyHandle (.modifyPeer peerId fun peer => { peer with lastSeen := w.now })

/-- A request of the address is pending that is newer or the very same. -/
def TransportHandle.isRequested (remoteAddr : SocketAddr) (connectionNumber : UInt8)
    (parsed : ParsedConnectRequest) (handle : TransportHandle) : Bool :=
  match handle.pendingRequests.lookup remoteAddr with
  | none => false
  | some existing =>
    decide (parsed.connectTime < existing.connectTime) ||
      (parsed.connectTime = existing.connectTime && connectionNumber = existing.connectionNumber)

/-- The end of the connect-request arm: a request not seen before is queued. -/
def enterRequest (remoteAddr : SocketAddr) (connectionNumber : UInt8) (parsed : ParsedConnectRequest) :
    TransportM Unit := do
  let w ← get
  if w.handle.isRequested remoteAddr connectionNumber parsed then return
  else
    modifyHandle fun handle =>
      { handle with
        pendingRequests := handle.pendingRequests.insert remoteAddr
          { connectTime := parsed.connectTime, connectionNumber } }
    enqueueEvent (.connectionRequest
      { remoteAddr, payload := parsed.payload, connectionNumber, connectTime := parsed.connectTime,
        localPeerId := parsed.localPeerId })

def processConnectRequest (remoteAddr : SocketAddr) (connectionNumber : UInt8) (bytes : Bytes) :
    TransportM Unit :=
  match parseConnectRequest bytes with
  | .malformed => return
  | .invalidProtocol => sendSimpleProperty remoteAddr .invalidProtocol
  | .ok parsed => do
    let w ← get
    match w.handle.byAddr.lookup remoteAddr with
    | none => enterRequest remoteAddr connectionNumber parsed
    | some existingPeerId =>
      match w.handle.peers.lookup existingPeerId with
      | none => enterRequest remoteAddr connectionNumber parsed
      | some existing =>
        if parsed.connectTime = existing.connectTime then
          sendConnectAccept remoteAddr existing.connectionNumber existing.connectTime existing.id
        else if parsed.connectTime < existing.connectTime then return
        else
          modifyHandle (.dropPeer existingPeerId existing.addr)
          enqueueEvent (.peerDisconnected existingPeerId .remote)
          enterRequest remoteAddr connectionNumber parsed

def processDisconnect (remoteAddr : SocketAddr) (connectionNumber : UInt8) (bytes : Bytes) :
    TransportM Unit := do
  let w ← get
  match w.handle.byAddr.lookup remoteAddr with
  | none => return
  | some peerId =>
    modifyHandle (.unbind remoteAddr)
    match w.handle.peers.lookup peerId with
    | none => return
    | some peer =>
      modifyHandle fun handle => { handle with peers := handle.peers.erase peerId }
      if !disconnectMatches peer bytes connectionNumber then
        modifyHandle fun handle =>
          { handle with
            byAddr := handle.byAddr.insert remoteAddr peerId
            peers := handle.peers.insert peerId peer }
      else
        modifyHandle (.retirePeerId peerId)
        sendSimpleProperty remoteAddr .shutdownOk
        enqueueEvent (.peerDisconnected peerId .remote)

def processAckPacket (remoteAddr : SocketAddr) (bytes : Bytes) : TransportM Unit := do
  let w ← get
  match w.handle.byAddr.lookup remoteAddr with
  | none => return
  | some peerId =>
    modifyHandle (.modifyPeer peerId fun peer => processAck { peer with lastSeen := w.now } bytes)

def processMessage (remoteAddr : SocketAddr) (property : PacketProperty) (bytes : Bytes) :
    TransportM Unit := do
  touchPeer remoteAddr
  let w ← get
  match w.handle.byAddr.lookup remoteAddr with
  | none => return
  | some peerId =>
    match parseMessagePacket property bytes with
    | none => return
    | some (channel, delivery, payload) =>
      if delivery = .reliableOrdered ∨ delivery = .reliableUnordered then
        modifyHandle (.modifyPeer peerId fun peer => queueAck peer (u8At bytes 3) (u16At bytes 1))
      let event := .message peerId channel delivery payload
      if delivery = .unreliable ∨ delivery = .sequenced then enqueueLossyEvent event
      else enqueueEvent event

/-- The arms of `process_packet` but for merged datagrams. -/
def processSingle (remoteAddr : SocketAddr) (property : PacketProperty) (connectionNumber : UInt8)
    (bytes : Bytes) : TransportM Unit :=
  match property with
  | .connectRequest => processConnectRequest remoteAddr connectionNumber bytes
  | .disconnect => processDisconnect remoteAddr connectionNumber bytes
  | .ping => do
    touchPeer remoteAddr
    if bytes.length ≥ 3 then sendPong remoteAddr connectionNumber (u16At bytes 1)
  | .mtuCheck => do
    touchPeer remoteAddr
    sendMtuOk remoteAddr bytes
  | .mtuOk => touchPeer remoteAddr
  | .natMessage =>
    match parseNatIntroduceRequest (bytes.drop 1) with
    | none => return
    | some (localAddr, token) => enqueueEvent (.natIntroductionRequest remoteAddr localAddr token)
  | .ack => processAckPacket remoteAddr bytes
  | .channeled | .unreliable => processMessage remoteAddr property bytes
  | _ => return

def processServerInfo (remoteAddr : SocketAddr) (payload : Bytes) : TransportM Unit :=
  enqueueEvent (.unconnectedRequest remoteAddr ((parseServerInfoQueryNonce payload).getD 0) payload)

/-! ### The recursion -/

lemma length_lt_of_mem_mergedPackets {bytes packet : Bytes} (h : packet ∈ mergedPackets bytes) :
    packet.length < bytes.length := by
  rw [mergedPackets, mergedPacketsFrom_eq] at h
  have hlt := length_lt_of_mem_cutFrames (List.mem_of_mem_filter h)
  rw [List.length_drop] at hlt
  omega

def processPacket (remoteAddr : SocketAddr) (bytes : Bytes) : TransportM Unit :=
  match dispatch bytes with
  | .serverInfo payload => processServerInfo remoteAddr payload
  | .ignored => return
  | .packet .merged _ => do
    touchPeer remoteAddr
    (mergedPackets bytes).attach.forM fun packet => processPacket remoteAddr packet.1
  | .packet property connectionNumber => processSingle remoteAddr property connectionNumber bytes
termination_by bytes.length
decreasing_by exact length_lt_of_mem_mergedPackets packet.2

/-- The packets a datagram makes the transport act on, merged datagrams taken apart. -/
def leaves (bytes : Bytes) : List Bytes :=
  match dispatch bytes with
  | .packet .merged _ => (mergedPackets bytes).attach.flatMap fun packet => leaves packet.1
  | _ => [bytes]
termination_by bytes.length
decreasing_by exact length_lt_of_mem_mergedPackets packet.2

/-- `process_packet` on a leaf. -/
def processLeaf (remoteAddr : SocketAddr) (bytes : Bytes) : TransportM Unit :=
  match dispatch bytes with
  | .serverInfo payload => processServerInfo remoteAddr payload
  | .ignored => return
  | .packet property connectionNumber => processSingle remoteAddr property connectionNumber bytes

lemma processPacket_of_not_merged (remoteAddr : SocketAddr) {bytes : Bytes}
    (h : ∀ connectionNumber, dispatch bytes ≠ .packet .merged connectionNumber) :
    processPacket remoteAddr bytes = processLeaf remoteAddr bytes := by
  rw [processPacket, processLeaf]
  cases hdispatch : dispatch bytes with
  | serverInfo payload => rfl
  | ignored => rfl
  | packet property connectionNumber =>
    cases property with
    | merged => exact absurd hdispatch (h connectionNumber)
    | _ => rfl

/-- **From leaves to datagrams.**  A preorder that every leaf and the update of `last_seen` respect is
respected by the whole datagram. -/
theorem relates_processPacket {R : World → World → Prop} (hrefl : ∀ w, R w w)
    (htrans : ∀ w w' w'', R w w' → R w' w'' → R w w'') {remoteAddr : SocketAddr}
    (htouch : Relates R (touchPeer remoteAddr)) (bytes : Bytes) :
    (∀ leaf ∈ leaves bytes, Relates R (processLeaf remoteAddr leaf)) →
      Relates R (processPacket remoteAddr bytes) := by
  fun_induction leaves bytes with
  | case1 bytes c hmerged ih =>
    intro hleaves
    rw [processPacket, hmerged]
    refine Relates.bind htrans htouch fun _ => Relates.forM hrefl htrans fun packet hpacket => ?_
    refine ih packet fun leaf hleaf => hleaves leaf ?_
    exact List.mem_flatMap.mpr ⟨packet, hpacket, hleaf⟩
  | case2 bytes hsingle =>
    intro hleaves
    rw [processPacket_of_not_merged remoteAddr hsingle]
    exact hleaves bytes (List.mem_singleton_self bytes)

end BasisRust.Transport
