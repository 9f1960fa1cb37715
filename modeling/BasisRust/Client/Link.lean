import BasisRust.Client.Session
import BasisRust.Transport.Window

/-!
# A client and its peer on the server

Both ends of one connection with the network between them.  The network keeps every packet it was given and hands any
of them over any number of times, in any order, or never; packets for the client come merged with others or alone.
What either end does when its loops come round is up to them.
-/

namespace BasisRust.Client

open Lib Protocol Transport

/-! ### The server's end -/

/-- What a call of the server sends to the peer. -/
def sends (s : PeerRun) : PeerCall → List Bytes
  | .send _ (channel, delivery, payload) =>
    if isReliableDelivery delivery then [] else [(buildOutboundPacket s.peer channel delivery payload).1.bytes]
  | .processAck _ => []
  | .ping now => (pingIfDue now s.peer).2
  | .drainAcks => (drainAcks s.peer).2
  | .take => []
  | .record now queued => [(sendQueued now s.peer queued).2]
  | .resend now => (resendDue now s.peer).2

/-- What `process_packet` makes of the peer when a packet comes from its address that does not end the connection. -/
def heardFrom (now : ℕ) (peer : PeerState) (packet : Bytes) : PeerState :=
  match dispatch packet with
  | .packet .ack _ => Transport.processAck { peer with lastSeen := now } packet
  | .packet .channeled _ =>
    let peer := { peer with lastSeen := now }
    match parseMessagePacket .channeled packet with
    | none => peer
    | some (_, delivery, _) =>
      if delivery = .reliableOrdered ∨ delivery = .reliableUnordered then
        queueAck peer (u8At packet 3) (u16At packet 1)
      else peer
  | .packet .unreliable _ | .packet .ping _ | .packet .mtuCheck _ | .packet .mtuOk _ => { peer with lastSeen := now }
  | _ => peer

/-- The packet ends a connection or asks for one. -/
def Renews (packet : Bytes) : Prop :=
  ∃ connectionNumber, dispatch packet = .packet .connectRequest connectionNumber ∨
    dispatch packet = .packet .disconnect connectionNumber

section Peer

variable {addr : SocketAddr} {id : PeerId} {peer : PeerState} {w : World}

lemma lookup_modifyPeer (hpeer : w.handle.peers.lookup id = some peer) (f : PeerState → PeerState) :
    (w.handle.modifyPeer id f).peers.lookup id = some (f peer) := by
  rw [TransportHandle.modifyPeer, Dict.lookup_modify, if_pos rfl, hpeer]
  rfl

lemma touchPeer_of_bound (hbound : w.handle.byAddr.lookup addr = some id) :
    touchPeer addr w = .ok () { w with handle := w.handle.modifyPeer id fun peer => { peer with lastSeen := w.now } } := by
  unfold touchPeer
  rw [get_bind_apply, hbound]
  rfl

lemma lookup_processMessage {property : PacketProperty} {bytes : Bytes} (hbound : w.handle.byAddr.lookup addr = some id)
    (hpeer : w.handle.peers.lookup id = some peer) :
    (final (processMessage addr property bytes) w).handle.peers.lookup id =
      some (match parseMessagePacket property bytes with
        | none => { peer with lastSeen := w.now }
        | some (_, delivery, _) =>
          if delivery = .reliableOrdered ∨ delivery = .reliableUnordered then
            queueAck { peer with lastSeen := w.now } (u8At bytes 3) (u16At bytes 1)
          else { peer with lastSeen := w.now }) := by
  have htouched := lookup_modifyPeer hpeer fun peer => { peer with lastSeen := w.now }
  have hstill : (w.handle.modifyPeer id fun peer => { peer with lastSeen := w.now }).byAddr.lookup addr = some id := hbound
  have hevent (handle : TransportHandle) (event : ServerEvent) (p : Prop) [Decidable p] :
      (final (if p then enqueueLossyEvent event else enqueueEvent event) { w with handle }).handle = handle := by
    split
    next => exact handle_enqueueLossyEvent event _
    next => exact handle_enqueueEvent event _
  rw [processMessage, final_bind_ok (touchPeer_of_bound hbound), final_get_bind]
  dsimp only
  rw [hstill]
  dsimp only
  cases parseMessagePacket property bytes with
  | none => exact htouched
  | some message =>
    obtain ⟨channel, delivery, payload⟩ := message
    dsimp only
    split
    next =>
      rw [final_modifyHandle_bind, hevent]
      exact lookup_modifyPeer htouched fun peer => queueAck peer (u8At bytes 3) (u16At bytes 1)
    next =>
      rw [hevent]
      exact htouched

/-- **The peer of the link is the one of the transport.** -/
theorem lookup_processLeaf {packet : Bytes} (hbound : w.handle.byAddr.lookup addr = some id)
    (hpeer : w.handle.peers.lookup id = some peer) (hkeeps : ¬ Renews packet) :
    (final (processLeaf addr packet) w).handle.peers.lookup id = some (heardFrom w.now peer packet) := by
  have htouched := lookup_modifyPeer hpeer fun peer => { peer with lastSeen := w.now }
  have htouch := touchPeer_of_bound hbound
  unfold processLeaf heardFrom
  cases hdispatch : dispatch packet with
  | serverInfo payload =>
    dsimp only
    rw [processServerInfo, handle_enqueueEvent]
    exact hpeer
  | ignored => exact hpeer
  | packet property connectionNumber =>
    cases property with
    | connectRequest => exact absurd ⟨connectionNumber, .inl hdispatch⟩ hkeeps
    | disconnect => exact absurd ⟨connectionNumber, .inr hdispatch⟩ hkeeps
    | channeled => exact lookup_processMessage hbound hpeer
    | unreliable =>
      refine (lookup_processMessage hbound hpeer).trans (congrArg some ?_)
      by_cases hshort : packet.length < 2
      · rw [parseMessagePacket, if_pos hshort]
      · rw [parseMessagePacket, if_neg hshort]
        rfl
    | ack =>
      change (final (processAckPacket addr packet) w).handle.peers.lookup id = _
      rw [processAckPacket, final_get_bind]
      dsimp only
      rw [hbound]
      exact lookup_modifyPeer hpeer fun peer => Transport.processAck { peer with lastSeen := w.now } packet
    | ping =>
      change (final (touchPeer addr >>= fun _ => _) w).handle.peers.lookup id = _
      rw [final_bind_ok htouch]
      split
      next =>
        rw [Transport.sendPong, final_get_bind, handle_sendRawTo]
        exact htouched
      next => exact htouched
    | mtuCheck =>
      change (final (touchPeer addr >>= fun _ => sendMtuOk addr packet) w).handle.peers.lookup id = _
      rw [final_bind_ok htouch]
      unfold sendMtuOk
      split
      next => exact htouched
      next =>
        rw [handle_sendRawTo]
        exact htouched
    | mtuOk =>
      change (final (touchPeer addr) w).handle.peers.lookup id = _
      rw [final_of_ok htouch]
      exact htouched
    | natMessage =>
      change (final (processSingle addr .natMessage connectionNumber packet) w).handle.peers.lookup id = _
      rw [processSingle]
      split
      next => exact hpeer
      next =>
        rw [handle_enqueueEvent]
        exact hpeer
    | _ => exact hpeer

end Peer

/-! ### The client's end -/

/-- What is outside the client during a step. -/
structure ClientIo where
  now : ℕ := 0
  utcTicks : Int64 := 0
  sendResults : List Bool := []

/-- What the client's loops and workers do. -/
inductive ClientAct where
  | receive (datagram : Bytes)
  | sendReliable (channel : UInt8) (payload : Bytes)
  | sendUnreliable (channel : UInt8) (payload : Bytes)
  | ping
  | resend
  | disconnect

def ClientAct.run (responsePayload : Bytes → Option Bytes) : ClientAct → ClientM Unit
  | receive datagram => handlePacket responsePayload datagram
  | sendReliable channel payload => Client.sendReliable channel payload
  | sendUnreliable channel payload => Client.sendUnreliable channel payload
  | ping => sendPing
  | resend => resendReliable
  | disconnect => Client.disconnect

/-- The packets the client has got when the act is done. -/
def ClientAct.gets : ClientAct → List Bytes
  | receive datagram => leaves datagram
  | _ => []

def ClientWorld.enter (w : ClientWorld) (io : ClientIo) : ClientWorld :=
  { w with now := io.now, utcTicks := io.utcTicks, sendResults := io.sendResults }

/-- The client after the act, with all it has sent. -/
def ClientWorld.outcome (responsePayload : Bytes → Option Bytes) (w : ClientWorld) (act : ClientAct) (io : ClientIo) :
    ClientWorld := final (act.run responsePayload) (w.enter io)

/-! ### Both ends -/

structure Link where
  server : PeerRun
  client : ClientWorld
  /-- the packets the server has given the network -/
  toClient : List Bytes := []
  /-- the packets of the client that have come in -/
  arrived : List Bytes := []
  /-- the packets of the server that have come in -/
  got : List Bytes := []

inductive LinkLabel where
  | call (call : PeerCall)
  | other (packet : Bytes)
  | arrive (now : ℕ) (packet : Bytes)
  | client (act : ClientAct) (io : ClientIo)

namespace Link

variable (responsePayload : Bytes → Option Bytes)

/-- The server's calls and its resend loop; whatever else the transport sends to the address, which is neither
channeled nor an ack packet; a packet of the client comes in; the client does something, with what it is sent at hand. -/
inductive Steps : Link → LinkLabel → Link → Prop
  | call {l : Link} {call : PeerCall} {server : PeerRun} (hcall : ∀ bytes, call ≠ .processAck bytes)
      (hstep : PeerStep l.server call server) :
      Steps l (.call call) { l with server, toClient := l.toClient ++ sends l.server call }
  | other {l : Link} {packet : Bytes} (hchanneled : propertyOf packet ≠ some .channeled)
      (hack : propertyOf packet ≠ some .ack) : Steps l (.other packet) { l with toClient := l.toClient ++ [packet] }
  | arrive {l : Link} {packet : Bytes} (now : ℕ) (hsent : packet ∈ l.client.sent) (hkeeps : ¬ Renews packet) :
      Steps l (.arrive now packet)
        { l with
          server := { l.server with peer := heardFrom now l.server.peer packet }
          arrived := l.arrived ++ [packet] }
  | client {l : Link} (act : ClientAct) (io : ClientIo) (hgets : ∀ packet ∈ act.gets, packet ∈ l.toClient) :
      Steps l (.client act io)
        { l with client := l.client.outcome responsePayload act io, got := l.got ++ act.gets }

/-- Both ends as they are when the connection begins. -/
structure Begins (l : Link) : Prop where
  server : ∃ id addr connectionNumber connectTime now,
    l.server = ⟨PeerState.new id addr connectionNumber connectTime now, []⟩
  session : l.client.session.reliableSequence = 0 ∧ l.client.session.pendingReliable = []
  sent : l.client.sent = [] ∧ l.client.numbered = []
  network : l.toClient = [] ∧ l.arrived = [] ∧ l.got = []

end Link

end BasisRust.Client
