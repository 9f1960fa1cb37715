import BasisRust.Lib.Checked
import BasisRust.Transport.Process

/-!
# `process_packet` with its accesses checked

The parsers look into a datagram by hand-written offsets, and merged datagrams are cut by a loop over a
position.  Here the same functions are written once more with every index, slice and `usize` subtraction of
the source, each of which may be a fault, with fuel for the recursion and a count of the calls of
`process_packet`.  No fault ever occurs, fuel for the length of the datagram is enough, and a datagram of
`n` bytes makes at most `1 + n / 3` calls: every packet in a merged datagram costs two bytes of length
besides its own bytes, and the merged header costs one.
-/

namespace BasisRust.Transport.Checked

open Lib Lib.Checked Protocol

/-! ### Parsers -/

def parseConnectRequest (bytes : Bytes) : Lib.Checked ConnectRequestParse := do
  if bytes.length < 18 then return .malformed
  let protocol := UInt32.ofNat (leVal (← indices bytes 1 4))
  if (⟨protocol⟩ : Int32) ≠ litenetlibProtocolId then return .invalidProtocol
  let connectionNumber := connectionNumberOf (← index bytes 0)
  if connectionNumber ≥ 4 then return .malformed
  let connectTimeBytes ← range bytes 5 13
  if connectTimeBytes.length ≠ 8 then return .malformed
  let localPeerIdBytes ← range bytes 13 17
  if localPeerIdBytes.length ≠ 4 then return .malformed
  let addrLen := (← index bytes 17).toNat
  if addrLen ≠ 16 ∧ addrLen ≠ 28 then return .malformed
  if bytes.length < 18 + addrLen then return .malformed
  let payload ← rangeFrom bytes (18 + addrLen)
  return .ok
    { payload
      connectTime := ⟨UInt64.ofNat (leVal connectTimeBytes)⟩
      localPeerId := ⟨UInt32.ofNat (leVal localPeerIdBytes)⟩ }

def parseMessagePacket (property : PacketProperty) (bytes : Bytes) :
    Lib.Checked (Option (UInt8 × DeliveryMethod × Bytes)) :=
  match property with
  | .unreliable => do
    if bytes.length < 2 then return none
    return some (← index bytes 1, .unreliable, ← rangeFrom bytes 2)
  | .channeled => do
    if bytes.length < 4 then return none
    let channelId ← index bytes 3
    return some (channelId / 4, DeliveryMethod.fromChannelId channelId, ← rangeFrom bytes 4)
  | _ => return none

def parseServerInfoQueryNonce (bytes : Bytes) : Lib.Checked (Option UInt16) := do
  if bytes.length < 8 then return none
  let magic := UInt32.ofNat (leVal (← range bytes 0 4))
  let protocol := UInt16.ofNat (leVal (← range bytes 4 6))
  if magic ≠ serverInfoQueryMagic ∨ protocol ≠ serverInfoProtocolVersion then return none
  return some (UInt16.ofNat (leVal (← range bytes 6 8)))

def looksLikeServerInfoPayload (bytes : Bytes) : Lib.Checked Bool := do
  if bytes.length < 6 then return false
  let magic := UInt32.ofNat (leVal (← indices bytes 0 4))
  let protocol := UInt16.ofNat (leVal (← indices bytes 4 2))
  return decide (magic = serverInfoQueryMagic ∧ protocol = serverInfoProtocolVersion)

def serverInfoPayload (bytes : Bytes) : Lib.Checked (Option Bytes) := do
  if ← looksLikeServerInfoPayload bytes then return some bytes
  if bytes.head?.map (· &&& 0x1f) = some PacketProperty.unconnectedMessage.toU8 then
    let payload ← rangeFrom bytes 1
    if ← looksLikeServerInfoPayload payload then return some payload
  return none

/-- The fields behind the hash are read with `get`, which answers an offset out of range with `None`. -/
def parseNatIntroduceRequest (bytes : Bytes) : Lib.Checked (Option (SocketAddr × String)) := do
  if bytes.length < 8 then return none
  let hash := UInt64.ofNat (leVal (← range bytes 0 8))
  if hash ≠ natIntroduceRequestHash then return none
  let read : StateT Bytes Option (SocketAddr × String) := do
    let localAddr ← readLitenetEndpoint
    let token ← readLitenetString
    return (localAddr, token)
  return (read (bytes.drop 8)).map (·.1)

def disconnectMatches (peer : PeerState) (bytes : Bytes) (connectionNumber : UInt8) :
    Lib.Checked Bool := do
  if bytes.length < 9 ∨ connectionNumber ≠ peer.connectionNumber then return false
  let connectTimeBytes ← expectLength 8 (← range bytes 1 9)
  return decide ((⟨UInt64.ofNat (leVal connectTimeBytes)⟩ : Int64) = peer.connectTime)

def processAck (peer : PeerState) (bytes : Bytes) : Lib.Checked PeerState := do
  if bytes.length < 4 then return peer
  let ackWindowStart := UInt16.ofNat (leVal (← indices bytes 1 2))
  let channelId ← index bytes 3
  let ackBits ← rangeFrom bytes 4
  let acked (sequence : UInt16) : Bool :=
    let rel := relativeSequence sequence ackWindowStart
    if rel < 0 ∨ rel.toNat ≥ defaultWindowSize then false
    else getBit ackBits (sequence.toNat % defaultWindowSize)
  return { peer with
    pendingReliable := Dict.retain
      (fun key _ => if key.channelId ≠ channelId then true else !acked key.sequence) peer.pendingReliable }

/-- The body of `queue_ack` once the entry is there; the words of the bitmap are reached with `get_mut`. -/
def receive (ack : AckState) (sequence : UInt16) : Lib.Checked AckState := do
  let rel := relativeSequence sequence ack.windowStart
  if rel < 0 then return ack
  let ack ←
    if rel.toNat ≥ defaultWindowSize then
      let shift := (← sub rel.toNat defaultWindowSize) + 1
      pure (ack.slide shift)
    else pure ack
  return { ack with bits := setBit ack.bits (sequence.toNat % defaultWindowSize) }

def queueAck (peer : PeerState) (channelId : UInt8) (sequence : UInt16) : Lib.Checked PeerState := do
  let ack ← receive ((peer.outgoingAcks.lookup channelId).getD (AckState.fresh sequence)) sequence
  return { peer with outgoingAcks := peer.outgoingAcks.insert channelId ack }

/-! ### The checks suffice -/

section Parsers

variable {bytes : Bytes}

theorem parseConnectRequest_eq : parseConnectRequest bytes = .ok (Transport.parseConnectRequest bytes) := by
  unfold parseConnectRequest Transport.parseConnectRequest
  by_cases hlen : bytes.length < 18
  · rw [if_pos hlen, if_pos hlen]
    rfl
  · rw [if_neg hlen, if_neg hlen]
    have hprotocol : indices bytes 1 4 = .ok (slice bytes 1 4) := indices_eq (by omega)
    have hheader : index bytes 0 = .ok (u8At bytes 0) := index_eq (by omega) 0
    have htime : range bytes 5 13 = .ok (slice bytes 5 8) := range_eq (by omega) (by omega)
    have hpeer : range bytes 13 17 = .ok (slice bytes 13 4) := range_eq (by omega) (by omega)
    have haddr : index bytes 17 = .ok (u8At bytes 17) := index_eq (by omega) 0
    have htime8 : ¬ (slice bytes 5 8).length ≠ 8 := by
      rw [slice, List.length_take, List.length_drop]
      omega
    have hpeer4 : ¬ (slice bytes 13 4).length ≠ 4 := by
      rw [slice, List.length_take, List.length_drop]
      omega
    simp only [hprotocol, hheader, htime, hpeer, haddr, ok_bind, if_neg htime8, if_neg hpeer4]
    change (if i32At bytes 1 ≠ litenetlibProtocolId then _ else _) = _
    split
    next => rfl
    next =>
      split
      next => rfl
      next =>
        split
        next => rfl
        next =>
          split
          next => rfl
          next hpayload =>
            rw [rangeFrom_eq (not_lt.mp hpayload)]
            rfl

theorem parseMessagePacket_eq (property : PacketProperty) :
    parseMessagePacket property bytes = .ok (Transport.parseMessagePacket property bytes) := by
  unfold parseMessagePacket Transport.parseMessagePacket
  cases property with
  | unreliable =>
    dsimp only
    by_cases hlen : bytes.length < 2
    · rw [if_pos hlen, if_pos hlen]
      rfl
    · rw [if_neg hlen, if_neg hlen]
      simp only [index_eq (by omega : 1 < bytes.length) 0,
        rangeFrom_eq (by omega : 2 ≤ bytes.length), ok_bind]
      rfl
  | channeled =>
    dsimp only
    by_cases hlen : bytes.length < 4
    · rw [if_pos hlen, if_pos hlen]
      rfl
    · rw [if_neg hlen, if_neg hlen]
      simp only [index_eq (by omega : 3 < bytes.length) 0,
        rangeFrom_eq (by omega : 4 ≤ bytes.length), ok_bind]
      rfl
  | _ => rfl

theorem parseServerInfoQueryNonce_eq :
    parseServerInfoQueryNonce bytes = .ok (Transport.parseServerInfoQueryNonce bytes) := by
  unfold parseServerInfoQueryNonce Transport.parseServerInfoQueryNonce
  by_cases hlen : bytes.length < 8
  · rw [if_pos hlen, if_pos hlen]
    rfl
  · rw [if_neg hlen, if_neg hlen]
    have hmagic : range bytes 0 4 = .ok (slice bytes 0 4) := range_eq (by omega) (by omega)
    have hprotocol : range bytes 4 6 = .ok (slice bytes 4 2) := range_eq (by omega) (by omega)
    have hnonce : range bytes 6 8 = .ok (slice bytes 6 2) := range_eq (by omega) (by omega)
    simp only [hmagic, hprotocol, hnonce, ok_bind]
    change (if u32At bytes 0 ≠ serverInfoQueryMagic ∨ u16At bytes 4 ≠ serverInfoProtocolVersion then _ else _) = _
    split <;> rfl

theorem looksLikeServerInfoPayload_eq :
    looksLikeServerInfoPayload bytes = .ok (Transport.looksLikeServerInfoPayload bytes) := by
  unfold looksLikeServerInfoPayload Transport.looksLikeServerInfoPayload
  by_cases hlen : bytes.length < 6
  · rw [if_pos hlen, if_pos hlen]
    rfl
  · rw [if_neg hlen, if_neg hlen]
    simp only [indices_eq (by omega : 0 + 4 ≤ bytes.length),
      indices_eq (by omega : 4 + 2 ≤ bytes.length), ok_bind]
    rfl

theorem serverInfoPayload_eq : serverInfoPayload bytes = .ok (Transport.serverInfoPayload bytes) := by
  unfold serverInfoPayload Transport.serverInfoPayload
  rw [looksLikeServerInfoPayload_eq, ok_bind]
  split
  next => rfl
  next =>
    cases bytes with
    | nil => rfl
    | cons header payload =>
      have hrest : rangeFrom (header :: payload) 1 = .ok payload := rangeFrom_eq (Nat.le_add_left 1 payload.length)
      dsimp only
      rw [hrest, ok_bind, looksLikeServerInfoPayload_eq, ok_bind]
      by_cases hheader : header &&& 0x1f = PacketProperty.unconnectedMessage.toU8
      · have hfirst : (header :: payload).head?.map (· &&& 0x1f) = some PacketProperty.unconnectedMessage.toU8 :=
          congrArg some hheader
        rw [if_pos hfirst]
        by_cases hlooks : Transport.looksLikeServerInfoPayload payload = true
        · rw [if_pos hlooks, if_pos ⟨hheader, hlooks⟩]
          rfl
        · rw [if_neg hlooks, if_neg (not_and_of_not_right _ hlooks)]
          rfl
      · have hfirst : (header :: payload).head?.map (· &&& 0x1f) ≠ some PacketProperty.unconnectedMessage.toU8 :=
          fun h => hheader (Option.some.inj h)
        rw [if_neg hfirst, if_neg (not_and_of_not_left _ hheader)]
        rfl

theorem parseNatIntroduceRequest_eq :
    parseNatIntroduceRequest bytes = .ok (Transport.parseNatIntroduceRequest bytes) := by
  unfold parseNatIntroduceRequest Transport.parseNatIntroduceRequest
  by_cases hlen : bytes.length < 8
  · rw [if_pos hlen, if_pos hlen]
    rfl
  · rw [if_neg hlen, if_neg hlen]
    have hhash : range bytes 0 8 = .ok (slice bytes 0 8) := range_eq (by omega) (by omega)
    simp only [hhash, ok_bind]
    change (if u64At bytes 0 ≠ natIntroduceRequestHash then _ else _) = _
    split <;> rfl

theorem disconnectMatches_eq (peer : PeerState) (connectionNumber : UInt8) :
    disconnectMatches peer bytes connectionNumber
      = .ok (Transport.disconnectMatches peer bytes connectionNumber) := by
  unfold disconnectMatches Transport.disconnectMatches
  by_cases hlen : bytes.length < 9 ∨ connectionNumber ≠ peer.connectionNumber
  · rw [if_pos hlen, if_pos hlen]
    rfl
  · rw [if_neg hlen, if_neg hlen]
    rw [not_or] at hlen
    have htime : range bytes 1 9 = .ok (slice bytes 1 8) := range_eq (by omega) (by omega)
    have htime8 : (slice bytes 1 8).length = 8 := by
      rw [slice, List.length_take, List.length_drop]
      omega
    simp only [htime, expectLength_eq htime8, ok_bind]
    rfl

theorem processAck_eq (peer : PeerState) : processAck peer bytes = .ok (Transport.processAck peer bytes) := by
  unfold processAck Transport.processAck
  by_cases hlen : bytes.length < 4
  · rw [if_pos hlen, if_pos hlen]
    rfl
  · rw [if_neg hlen, if_neg hlen]
    simp only [indices_eq (by omega : 1 + 2 ≤ bytes.length),
      index_eq (by omega : 3 < bytes.length) 0, rangeFrom_eq (by omega : 4 ≤ bytes.length), ok_bind]
    rfl

theorem queueAck_eq (peer : PeerState) (channelId : UInt8) (sequence : UInt16) :
    queueAck peer channelId sequence = .ok (Transport.queueAck peer channelId sequence) := by
  have hreceive (ack : AckState) : receive ack sequence = .ok (ack.receive sequence) := by
    unfold receive AckState.receive
    dsimp only
    split
    next => rfl
    next =>
      split
      next hrel =>
        rw [sub_eq hrel]
        rfl
      next => rfl
  rw [queueAck, hreceive]
  rfl

end Parsers

/-! ### The arms -/

open MeteredM (run checked outOfFuel tick)

abbrev CheckedM := MeteredM TransportError World

def processServerInfo (remoteAddr : SocketAddr) (payload : Bytes) : CheckedM Unit := do
  let nonce ← checked (parseServerInfoQueryNonce payload)
  run (enqueueEvent (.unconnectedRequest remoteAddr (nonce.getD 0) payload))

def processConnectRequest (remoteAddr : SocketAddr) (connectionNumber : UInt8) (bytes : Bytes) :
    CheckedM Unit := do
  match ← checked (parseConnectRequest bytes) with
  | .malformed => return
  | .invalidProtocol => run (sendSimpleProperty remoteAddr .invalidProtocol)
  | .ok parsed => do
    let w ← run get
    match w.handle.byAddr.lookup remoteAddr with
    | none => run (enterRequest remoteAddr connectionNumber parsed)
    | some existingPeerId =>
      match w.handle.peers.lookup existingPeerId with
      | none => run (enterRequest remoteAddr connectionNumber parsed)
      | some existing =>
        if parsed.connectTime = existing.connectTime then
          run (sendConnectAccept remoteAddr existing.connectionNumber existing.connectTime existing.id)
        else if parsed.connectTime < existing.connectTime then return
        else
          run (modifyHandle (.dropPeer existingPeerId existing.addr))
          run (enqueueEvent (.peerDisconnected existingPeerId .remote))
          run (enterRequest remoteAddr connectionNumber parsed)

def processDisconnect (remoteAddr : SocketAddr) (connectionNumber : UInt8) (bytes : Bytes) :
    CheckedM Unit := do
  let w ← run get
  match w.handle.byAddr.lookup remoteAddr with
  | none => return
  | some peerId =>
    run (modifyHandle (.unbind remoteAddr))
    match w.handle.peers.lookup peerId with
    | none => return
    | some peer =>
      run (modifyHandle fun handle => { handle with peers := handle.peers.erase peerId })
      let matched ← checked (disconnectMatches peer bytes connectionNumber)
      if !matched then
        run (modifyHandle fun handle =>
          { handle with
            byAddr := handle.byAddr.insert remoteAddr peerId
            peers := handle.peers.insert peerId peer })
      else
        run (modifyHandle (.retirePeerId peerId))
        run (sendSimpleProperty remoteAddr .shutdownOk)
        run (enqueueEvent (.peerDisconnected peerId .remote))

def processPing (remoteAddr : SocketAddr) (connectionNumber : UInt8) (bytes : Bytes) : CheckedM Unit := do
  run (touchPeer remoteAddr)
  if bytes.length ≥ 3 then
    let sequence := UInt16.ofNat (leVal (← checked (indices bytes 1 2)))
    run (sendPong remoteAddr connectionNumber sequence)

def processMtuCheck (remoteAddr : SocketAddr) (bytes : Bytes) : CheckedM Unit := do
  run (touchPeer remoteAddr)
  if bytes = [] then return
  let header ← checked (index bytes 0)
  run (sendRawTo (bytes.set 0 ((header &&& 0xe0) ||| PacketProperty.mtuOk.toU8)) remoteAddr)

def processNatMessage (remoteAddr : SocketAddr) (bytes : Bytes) : CheckedM Unit := do
  let request ← checked (rangeFrom bytes 1)
  match ← checked (parseNatIntroduceRequest request) with
  | none => return
  | some (localAddr, token) => run (enqueueEvent (.natIntroductionRequest remoteAddr localAddr token))

/-- The update of a peer in place, where there is one. -/
def updatePeer (peerId : PeerId) (f : PeerState → Lib.Checked PeerState) : CheckedM Unit := do
  let w ← run get
  match w.handle.peers.lookup peerId with
  | none => return
  | some peer =>
    let peer ← checked (f peer)
    run (modifyHandle fun handle => { handle with peers := handle.peers.insert peerId peer })

def processAckPacket (remoteAddr : SocketAddr) (bytes : Bytes) : CheckedM Unit := do
  let w ← run get
  match w.handle.byAddr.lookup remoteAddr with
  | none => return
  | some peerId => updatePeer peerId fun peer => processAck { peer with lastSeen := w.now } bytes

def processMessage (remoteAddr : SocketAddr) (property : PacketProperty) (bytes : Bytes) : CheckedM Unit := do
  run (touchPeer remoteAddr)
  let w ← run get
  match w.handle.byAddr.lookup remoteAddr with
  | none => return
  | some peerId =>
    match ← checked (parseMessagePacket property bytes) with
    | none => return
    | some (channel, delivery, payload) =>
      if delivery = .reliableOrdered ∨ delivery = .reliableUnordered then
        let sequence := UInt16.ofNat (leVal (← checked (indices bytes 1 2)))
        let channelId ← checked (index bytes 3)
        updatePeer peerId fun peer => queueAck peer channelId sequence
      let event := .message peerId channel delivery payload
      if delivery = .unreliable ∨ delivery = .sequenced then run (enqueueLossyEvent event)
      else run (enqueueEvent event)

/-! ### The dispatcher and its loop -/

mutual

def processPacket : ℕ → SocketAddr → Bytes → CheckedM Unit
  | 0, _, _ => outOfFuel
  | fuel + 1, remoteAddr, bytes => do
    tick
    let payload ← checked (serverInfoPayload bytes)
    match payload.filter fun payload => payload.length ≥ serverInfoMinRequestBytes with
    | some payload => processServerInfo remoteAddr payload
    | none =>
      match bytes.head? with
      | none => return
      | some header =>
        match PacketProperty.fromByte header with
        | none => return
        | some .connectRequest => processConnectRequest remoteAddr (connectionNumberOf header) bytes
        | some .disconnect => processDisconnect remoteAddr (connectionNumberOf header) bytes
        | some .ping => processPing remoteAddr (connectionNumberOf header) bytes
        | some .merged => do
          run (touchPeer remoteAddr)
          processMergedPacket fuel remoteAddr bytes 1
        | some .mtuCheck => processMtuCheck remoteAddr bytes
        | some .mtuOk => run (touchPeer remoteAddr)
        | some .natMessage => processNatMessage remoteAddr bytes
        | some .ack => processAckPacket remoteAddr bytes
        | some .channeled => processMessage remoteAddr .channeled bytes
        | some .unreliable => processMessage remoteAddr .unreliable bytes
        | some _ => return

/-- The loop of `process_merged_packet` from a position on. -/
def processMergedPacket : ℕ → SocketAddr → Bytes → ℕ → CheckedM Unit
  | 0, _, _, _ => outOfFuel
  | fuel + 1, remoteAddr, bytes, position =>
    if position < bytes.length then
      if position + 2 > bytes.length then return
      else do
        let lo ← checked (index bytes position)
        let hi ← checked (index bytes (position + 1))
        let size := (UInt16.ofNat (leVal [lo, hi])).toNat
        if size = 0 then return
        else do
          let rest ← checked (sub bytes.length (position + 2))
          if rest < size then return
          else do
            let packet ← checked (range bytes (position + 2) (position + 2 + size))
            if isValidMergedPacket packet then processPacket fuel remoteAddr packet
            processMergedPacket fuel remoteAddr bytes (position + 2 + size)
    else return

end

/-! ### The arms meet no fault -/

/-- Only a channeled packet asks for an acknowledgement, and it has a whole header. -/
lemma length_of_reliable {property : PacketProperty} {bytes : Bytes} {channel : UInt8}
    {delivery : DeliveryMethod} {payload : Bytes}
    (h : Transport.parseMessagePacket property bytes = some (channel, delivery, payload))
    (hreliable : delivery = .reliableOrdered ∨ delivery = .reliableUnordered) : 4 ≤ bytes.length := by
  unfold Transport.parseMessagePacket at h
  cases property with
  | unreliable =>
    rw [Option.ite_none_left_eq_some] at h
    obtain ⟨-, h⟩ := h
    cases h
    rcases hreliable with hreliable | hreliable <;> cases hreliable
  | channeled =>
    rw [Option.ite_none_left_eq_some] at h
    exact not_lt.mp h.1
  | _ => cases h

section Arms

variable (remoteAddr : SocketAddr) (connectionNumber : UInt8) (bytes : Bytes)

theorem meets_processServerInfo (payload : Bytes) :
    Meets 0 (processServerInfo remoteAddr payload) (Transport.processServerInfo remoteAddr payload) := by
  rw [processServerInfo, parseServerInfoQueryNonce_eq, MeteredM.checked_ok_bind]
  exact Meets.run _

theorem meets_processConnectRequest : Meets 0 (processConnectRequest remoteAddr connectionNumber bytes)
    (Transport.processConnectRequest remoteAddr connectionNumber bytes) := by
  rw [processConnectRequest, parseConnectRequest_eq, MeteredM.checked_ok_bind, Transport.processConnectRequest]
  cases Transport.parseConnectRequest bytes with
  | malformed => exact Meets.pure _
  | invalidProtocol => exact Meets.run _
  | ok parsed =>
    refine Meets.run_bind _ fun w => ?_
    cases w.handle.byAddr.lookup remoteAddr with
    | none => exact Meets.run _
    | some peerId =>
      dsimp only
      cases w.handle.peers.lookup peerId with
      | none => exact Meets.run _
      | some existing =>
        dsimp only
        split
        next => exact Meets.run _
        next =>
          split
          next => exact Meets.pure _
          next => exact Meets.run_bind _ fun _ => Meets.run_bind _ fun _ => Meets.run _

theorem meets_processDisconnect : Meets 0 (processDisconnect remoteAddr connectionNumber bytes)
    (Transport.processDisconnect remoteAddr connectionNumber bytes) := by
  refine Meets.run_bind _ fun w => ?_
  cases w.handle.byAddr.lookup remoteAddr with
  | none => exact Meets.pure _
  | some peerId =>
    refine Meets.run_bind _ fun _ => ?_
    cases w.handle.peers.lookup peerId with
    | none => exact Meets.pure _
    | some peer =>
      refine Meets.run_bind _ fun _ => ?_
      rw [disconnectMatches_eq, MeteredM.checked_ok_bind]
      split
      next => exact Meets.run _
      next => exact Meets.run_bind _ fun _ => Meets.run_bind _ fun _ => Meets.run _

theorem meets_processPing : Meets 0 (processPing remoteAddr connectionNumber bytes)
    (processSingle remoteAddr .ping connectionNumber bytes) := by
  refine Meets.run_bind _ fun _ => ?_
  split
  next hlen =>
    rw [indices_eq (by omega : 1 + 2 ≤ bytes.length), MeteredM.checked_ok_bind]
    exact Meets.run _
  next => exact Meets.pure _

theorem meets_processMtuCheck : Meets 0 (processMtuCheck remoteAddr bytes)
    (processSingle remoteAddr .mtuCheck connectionNumber bytes) := by
  refine Meets.run_bind _ fun _ => ?_
  cases bytes with
  | nil => exact Meets.pure _
  | cons header rest => exact Meets.run _

theorem meets_processNatMessage (hne : bytes ≠ []) : Meets 0 (processNatMessage remoteAddr bytes)
    (processSingle remoteAddr .natMessage connectionNumber bytes) := by
  have hlen : 1 ≤ bytes.length := List.length_pos_iff.mpr hne
  rw [processNatMessage, rangeFrom_eq hlen, MeteredM.checked_ok_bind, parseNatIntroduceRequest_eq,
    MeteredM.checked_ok_bind, processSingle]
  cases Transport.parseNatIntroduceRequest (bytes.drop 1) with
  | none => exact Meets.pure _
  | some request => exact Meets.run _

/-- An update that meets no fault is a plain one. -/
lemma meets_updatePeer (peerId : PeerId) {f : PeerState → Lib.Checked PeerState} {g : PeerState → PeerState}
    (h : ∀ peer, f peer = .ok (g peer)) :
    Meets 0 (updatePeer peerId f) (modifyHandle (.modifyPeer peerId g)) := by
  intro s
  refine ⟨0, Nat.le_refl 0, ?_⟩
  have hmodify : modifyHandle (.modifyPeer peerId g) s.state =
      .ok () { s.state with handle := s.state.handle.modifyPeer peerId g } := rfl
  rw [updatePeer, MeteredM.run_get_bind_apply, MeteredM.add, hmodify, TransportHandle.modifyPeer, Dict.modify]
  cases s.state.handle.peers.lookup peerId with
  | none => rfl
  | some peer =>
    dsimp only
    rw [h, MeteredM.checked_ok_bind]
    rfl

theorem meets_processAckPacket :
    Meets 0 (processAckPacket remoteAddr bytes) (Transport.processAckPacket remoteAddr bytes) := by
  refine Meets.run_bind _ fun w => ?_
  cases w.handle.byAddr.lookup remoteAddr with
  | none => exact Meets.pure _
  | some peerId => exact meets_updatePeer peerId fun peer => processAck_eq _

theorem meets_processMessage (property : PacketProperty) :
    Meets 0 (processMessage remoteAddr property bytes)
      (Transport.processMessage remoteAddr property bytes) := by
  refine Meets.run_bind _ fun _ => Meets.run_bind _ fun w => ?_
  cases w.handle.byAddr.lookup remoteAddr with
  | none => exact Meets.pure _
  | some peerId =>
    dsimp only
    rw [parseMessagePacket_eq, MeteredM.checked_ok_bind]
    cases hparse : Transport.parseMessagePacket property bytes with
    | none => exact Meets.pure _
    | some message =>
      obtain ⟨channel, delivery, payload⟩ := message
      have hevent : Meets 0
          (if delivery = .unreliable ∨ delivery = .sequenced then
            run (enqueueLossyEvent (.message peerId channel delivery payload))
          else run (enqueueEvent (.message peerId channel delivery payload)))
          (if delivery = .unreliable ∨ delivery = .sequenced then
            enqueueLossyEvent (.message peerId channel delivery payload)
          else enqueueEvent (.message peerId channel delivery payload)) := by
        split
        next => exact Meets.run _
        next => exact Meets.run _
      dsimp only
      split
      next hreliable =>
        have hlen : 4 ≤ bytes.length := length_of_reliable hparse hreliable
        rw [indices_eq (by omega : 1 + 2 ≤ bytes.length), MeteredM.checked_ok_bind,
          index_eq (by omega : 3 < bytes.length) 0, MeteredM.checked_ok_bind]
        exact (meets_updatePeer peerId fun peer => queueAck_eq peer _ _).bind fun _ => hevent
      next => exact hevent

end Arms

/-! ### The whole datagram -/

/-- What the calls for a datagram of `n` bytes may cost: the header of a nonempty one pays for its call. -/
def budget (n : ℕ) : ℕ := max n 1 + 2

lemma budget_of_pos {n : ℕ} (h : n ≠ 0) : budget n = n + 2 := by
  rw [budget, max_eq_left (Nat.one_le_iff_ne_zero.mpr h)]

lemma drop_eq_cons_cons {bytes : Bytes} {position : ℕ} (h : position + 2 ≤ bytes.length) :
    ∃ lo hi rest, bytes.drop position = lo :: hi :: rest := by
  have hlen : 2 ≤ (bytes.drop position).length := by
    rw [List.length_drop]
    omega
  generalize bytes.drop position = tail at hlen
  rcases tail with _ | ⟨lo, _ | ⟨hi, rest⟩⟩
  · exact absurd hlen (by simp)
  · exact absurd hlen (by simp)
  · exact ⟨lo, hi, rest, rfl⟩

/-- The packets the loop still has to hand over at a position. -/
lemma mergedPacketsFrom_drop {bytes : Bytes} {position : ℕ} (h : position + 2 ≤ bytes.length) :
    mergedPacketsFrom (bytes.drop position) =
      let size := leVal (slice bytes position 2)
      let packet := slice bytes (position + 2) size
      if size = 0 ∨ bytes.length < position + 2 + size then []
      else if isValidMergedPacket packet then packet :: mergedPacketsFrom (bytes.drop (position + 2 + size))
      else mergedPacketsFrom (bytes.drop (position + 2 + size)) := by
  obtain ⟨lo, hi, rest, hdrop⟩ := drop_eq_cons_cons h
  have hrest : bytes.drop (position + 2) = rest := by rw [← List.drop_drop, hdrop]; rfl
  have hmore (size : ℕ) : bytes.drop (position + 2 + size) = rest.drop size := by
    rw [← List.drop_drop, hrest]
  have hlen : rest.length + (position + 2) = bytes.length := by
    rw [← hrest, List.length_drop]
    omega
  have hsize : slice bytes position 2 = [lo, hi] := by rw [slice, hdrop]; rfl
  rw [hdrop, mergedPacketsFrom, hsize]
  simp only [slice, hrest, hmore]
  by_cases hzero : leVal [lo, hi] = 0
  · rw [if_pos hzero, if_pos (.inl hzero)]
  · rw [if_neg hzero]
    by_cases hshort : rest.length < leVal [lo, hi]
    · rw [if_pos hshort, if_pos (.inr (by omega))]
    · rw [if_neg hshort, if_neg (not_or.mpr ⟨hzero, by omega⟩)]

/-- Less than a length prefix is left. -/
lemma mergedPacketsFrom_of_short {bytes : Bytes} {position : ℕ} (h : bytes.length < position + 2) :
    mergedPacketsFrom (bytes.drop position) = [] := by
  have hlen : (bytes.drop position).length < 2 := by
    rw [List.length_drop]
    omega
  generalize bytes.drop position = tail at hlen
  rcases tail with _ | ⟨lo, _ | ⟨hi, rest⟩⟩
  · rw [mergedPacketsFrom]
  · rw [mergedPacketsFrom]
  · exact absurd hlen (by simp)

/-- The two bytes of a length prefix. -/
lemma sizeAt_eq {bytes : Bytes} {position : ℕ} (h : position + 2 ≤ bytes.length) :
    (UInt16.ofNat (leVal [u8At bytes position, u8At bytes (position + 1)])).toNat
      = leVal (slice bytes position 2) := by
  obtain ⟨lo, hi, rest, hdrop⟩ := drop_eq_cons_cons h
  have hword : slice bytes position 2 = [lo, hi] := by rw [slice, hdrop]; rfl
  have hlo : u8At bytes position = lo := by
    rw [u8At, List.getD_eq_getElem?_getD, ← Nat.add_zero position, ← List.getElem?_drop, hdrop]
    rfl
  have hhi : u8At bytes (position + 1) = hi := by
    rw [u8At, List.getD_eq_getElem?_getD, ← List.getElem?_drop, hdrop]
    rfl
  have hlt : leVal [lo, hi] < 65536 := by
    have h₀ := lo.toNat_lt
    have h₁ := hi.toNat_lt
    simp only [leVal_cons, leVal_nil]
    omega
  rw [hlo, hhi, hword, UInt16.toNat_ofNat']
  exact Nat.mod_eq_of_lt hlt

lemma forM_attach {α : Type} (l : List α) (f : α → TransportM Unit) :
    (l.attach.forM fun a => f a.1) = l.forM f := by
  have h := List.forM_map (m := TransportM) (l := l.attach) (g := Subtype.val) (f := f)
  rw [List.attach_map_subtype_val] at h
  exact h.symm

/-- **One induction for both.**  With fuel for its length a datagram, and with fuel for what is left the loop,
does what the plain functions do, within budget. -/
theorem meets_both (remoteAddr : SocketAddr) (fuel : ℕ) :
    (∀ bytes : Bytes, bytes.length < fuel →
      Meets (budget bytes.length) (processPacket fuel remoteAddr bytes)
        (Transport.processPacket remoteAddr bytes)) ∧
    ∀ (bytes : Bytes) (position : ℕ), bytes.length - position < fuel →
      Meets (bytes.length - position) (processMergedPacket fuel remoteAddr bytes position)
        ((mergedPacketsFrom (bytes.drop position)).forM (Transport.processPacket remoteAddr)) := by
  induction fuel with
  | zero => exact ⟨fun _ h => absurd h (Nat.not_lt_zero _), fun _ _ h => absurd h (Nat.not_lt_zero _)⟩
  | succ fuel ih =>
    obtain ⟨ihPacket, ihLoop⟩ := ih
    refine ⟨fun bytes hfuel => ?_, fun bytes position hfuel => ?_⟩
    · rw [processPacket, serverInfoPayload_eq, Transport.processPacket, dispatch.eq_def]
      have hbudget : 3 + 0 ≤ budget bytes.length := by
        unfold budget
        omega
      have harm {c : CheckedM Unit} {x : TransportM Unit} (h : Meets 0 c x) :
          Meets (budget bytes.length) (tick >>= fun _ => c) x := (Meets.tick_bind h).mono hbudget
      simp only [MeteredM.checked_ok_bind]
      cases (Transport.serverInfoPayload bytes).filter _ with
      | some payload => exact harm (meets_processServerInfo remoteAddr payload)
      | none =>
        cases bytes with
        | nil => exact harm (Meets.pure _)
        | cons header rest =>
          dsimp only [List.head?_cons]
          cases PacketProperty.fromByte header with
          | none => exact harm (Meets.pure _)
          | some property =>
            cases property with
            | connectRequest => exact harm (meets_processConnectRequest remoteAddr _ _)
            | disconnect => exact harm (meets_processDisconnect remoteAddr _ _)
            | ping => exact harm (meets_processPing remoteAddr _ _)
            | merged =>
              have hpos : (header :: rest).length ≠ 0 := Nat.succ_ne_zero _
              have hloop := ihLoop (header :: rest) 1 (by omega)
              rw [List.drop_one, List.tail_cons] at hloop
              refine (Meets.tick_bind (Meets.run_bind _ fun _ => ?_)).mono (b := 3 + ((header :: rest).length - 1)) ?_
              · rwa [forM_attach]
              · rw [budget_of_pos hpos]
                omega
            | mtuCheck => exact harm (meets_processMtuCheck remoteAddr (connectionNumberOf header) _)
            | mtuOk => exact harm (Meets.run _)
            | natMessage =>
              exact harm (meets_processNatMessage remoteAddr (connectionNumberOf header) _ (List.cons_ne_nil _ _))
            | ack => exact harm (meets_processAckPacket remoteAddr _)
            | channeled => exact harm (meets_processMessage remoteAddr _ .channeled)
            | unreliable => exact harm (meets_processMessage remoteAddr _ .unreliable)
            | _ => exact harm (Meets.pure _)
    · rw [processMergedPacket]
      by_cases hmore : position + 2 ≤ bytes.length
      · have hlo : index bytes position = .ok (u8At bytes position) := index_eq (by omega) 0
        have hhi : index bytes (position + 1) = .ok (u8At bytes (position + 1)) := index_eq (by omega) 0
        have hsize : (UInt16.ofNat (leVal [u8At bytes position, u8At bytes (position + 1)])).toNat
            = leVal (slice bytes position 2) := sizeAt_eq hmore
        rw [if_pos (by omega), if_neg (by omega), hlo, MeteredM.checked_ok_bind, hhi, MeteredM.checked_ok_bind,
          sub_eq hmore, mergedPacketsFrom_drop hmore]
        simp only [hsize, MeteredM.checked_ok_bind]
        generalize leVal (slice bytes position 2) = size
        by_cases hzero : size = 0
        · rw [if_pos hzero, if_pos (.inl hzero)]
          exact (Meets.pure _).mono (Nat.zero_le _)
        · rw [if_neg hzero]
          by_cases hshort : bytes.length - (position + 2) < size
          · rw [if_pos hshort, if_pos (.inr (by omega))]
            exact (Meets.pure _).mono (Nat.zero_le _)
          · rw [if_neg hshort, if_neg (not_or.mpr ⟨hzero, by omega⟩),
              range_eq (Nat.le_add_right _ _) (by omega), MeteredM.checked_ok_bind, Nat.add_sub_cancel_left, ← slice]
            have hpacket : (slice bytes (position + 2) size).length = size := by
              rw [slice, List.length_take, List.length_drop]
              omega
            have hloop := ihLoop bytes (position + 2 + size) (by omega)
            by_cases hvalid : isValidMergedPacket (slice bytes (position + 2) size) = true
            · have hfirst := ihPacket (slice bytes (position + 2) size) (by omega)
              rw [hpacket, budget_of_pos hzero] at hfirst
              simp only [if_pos hvalid]
              refine (hfirst.bind fun _ => hloop).mono ?_
              omega
            · simp only [if_neg hvalid]
              refine hloop.mono ?_
              omega
      · have hdone : mergedPacketsFrom (bytes.drop position) = [] := mergedPacketsFrom_of_short (by omega)
        rw [hdone]
        split
        next => 
          rw [if_pos (by omega)]
          exact (Meets.pure _).mono (Nat.zero_le _)
        next => exact (Meets.pure _).mono (Nat.zero_le _)

/-- **Processing is total and linear.**  From any address, in any state and on any datagram, with fuel for one
more than its length or any more: `process_packet` returns or stops with an error of the socket or the queue,
as the plain function does and in the same state; no access is out of range, nothing is subtracted below zero;
and it is called at most `1 + n / 3` times. -/
theorem processPacket_total (remoteAddr : SocketAddr) (bytes : Bytes) (w : World) (spare : ℕ) :
    ∃ calls ≤ 1 + bytes.length / 3,
      (∃ w', Transport.processPacket remoteAddr bytes w = .ok () w' ∧
        processPacket (bytes.length + 1 + spare) remoteAddr bytes ⟨w, 0⟩ = .ok () ⟨w', calls⟩) ∨
      ∃ e w', Transport.processPacket remoteAddr bytes w = .error e w' ∧
        processPacket (bytes.length + 1 + spare) remoteAddr bytes ⟨w, 0⟩ = .error (.error e) ⟨w', calls⟩ := by
  have hmeets := (meets_both remoteAddr (bytes.length + 1 + spare)).1 bytes (by omega)
  obtain ⟨k, hk, heq⟩ := hmeets ⟨w, 0⟩
  unfold budget at hk
  refine ⟨k, by omega, ?_⟩
  rw [heq, MeteredM.add, Nat.zero_add]
  cases Transport.processPacket remoteAddr bytes w with
  | ok u w' => exact .inl ⟨w', rfl, rfl⟩
  | error e w' => exact .inr ⟨e, w', rfl, rfl⟩

end BasisRust.Transport.Checked
