import BasisRust.Transport.Delivery

/-!
# What a peer is sent is what it is heard to say

The packets `build_outbound_packet` and `build_queued_reliable_packet` make, given back to `process_packet` from
the address of the same peer.  Header, channel id and payload come back as they went in.  What comes between is
the test for a server-information query, which looks at the first bytes of every datagram before its header: the
six bytes it looks for are also the start of one packet of connection 0.
-/

namespace BasisRust.Transport

open Lib Protocol

/-! ### Channel ids -/

/-- Channel and delivery method of a channel id, for the channels whose product does not wrap. -/
theorem channelId_div_four {channel : UInt8} (h : channel < 64) {delivery : DeliveryMethod}
    (hdelivery : delivery ≠ .unreliable) :
    DeliveryMethod.channelId channel delivery / 4 = channel ∧
      DeliveryMethod.fromChannelId (DeliveryMethod.channelId channel delivery) = delivery := by
  have key : ∀ c : UInt8, c < 64 → DeliveryMethod.channelId c delivery / 4 = c ∧
      DeliveryMethod.fromChannelId (DeliveryMethod.channelId c delivery) = delivery := by
    cases delivery with
    | unreliable => exact absurd rfl hdelivery
    | reliableUnordered => decide +kernel
    | sequenced => decide +kernel
    | reliableOrdered => decide +kernel
    | reliableSequenced => decide +kernel
  exact key channel h

/-! ### The test for a query -/

/-- The six bytes a query starts with. -/
def serverInfoMagicBytes : Bytes := [0x01, 0x51, 0x51, 0xBA, 0x01, 0x00]

lemma looksLikeServerInfoPayload_iff {bytes : Bytes} :
    looksLikeServerInfoPayload bytes ↔ bytes.take 6 = serverInfoMagicBytes := by
  have hword {k : ℕ} {xs ys : Bytes} (hxs : xs.length = k) (hys : ys.length = k) :
      leVal xs = leVal ys ↔ xs = ys := ⟨leVal_inj (hxs.trans hys.symm), congrArg leVal⟩
  unfold looksLikeServerInfoPayload
  split
  next hlength =>
    refine iff_of_false Bool.false_ne_true fun h => ?_
    have := congrArg List.length h
    rw [List.length_take, serverInfoMagicBytes] at this
    simp only [List.length_cons, List.length_nil] at this
    omega
  next hlength =>
    have hlow : u32At bytes 0 = serverInfoQueryMagic ↔ bytes.take 4 = [0x01, 0x51, 0x51, 0xBA] := by
      have hlt := leVal_lt (bytes.take 4)
      have hfour : (bytes.take 4).length = 4 := List.length_take_of_le (by omega)
      rw [hfour] at hlt
      rw [← hword hfour rfl, u32At, slice, List.drop_zero, ← UInt32.toNat_inj, UInt32.toNat_ofNat_of_lt' hlt]
      rfl
    have hhigh : u16At bytes 4 = serverInfoProtocolVersion ↔ slice bytes 4 2 = [0x01, 0x00] := by
      have htwo : (slice bytes 4 2).length = 2 := by
        rw [slice, List.length_take, List.length_drop]
        omega
      have hlt := leVal_lt (slice bytes 4 2)
      rw [htwo] at hlt
      rw [← hword htwo rfl, u16At, ← UInt16.toNat_inj, UInt16.toNat_ofNat_of_lt' hlt]
      rfl
    rw [decide_eq_true_eq, hlow, hhigh, show (6 : ℕ) = 4 + 2 from rfl, List.take_add, ← slice]
    constructor
    · rintro ⟨h, h'⟩
      rw [h, h']
      rfl
    · intro h
      exact List.append_inj h (by rw [List.length_take_of_le (by omega)]; rfl)

/-- A datagram whose property is not `UnconnectedMessage` is a query when it starts as one and is long enough. -/
lemma dispatch_of_header {header : UInt8} {rest : Bytes} {property : PacketProperty}
    (hproperty : PacketProperty.fromByte header = some property) (hmessage : property ≠ .unconnectedMessage) :
    dispatch (header :: rest) =
      if (header :: rest).take 6 = serverInfoMagicBytes ∧ (header :: rest).length ≥ serverInfoMinRequestBytes then
        .serverInfo (header :: rest)
      else .packet property (connectionNumberOf header) := by
  have hheader : header &&& 0x1f ≠ PacketProperty.unconnectedMessage.toU8 := by
    intro h
    rw [PacketProperty.fromByte, h] at hproperty
    cases hproperty
    exact hmessage rfl
  have hpayload : serverInfoPayload (header :: rest) =
      if (header :: rest).take 6 = serverInfoMagicBytes then some (header :: rest) else none := by
    rw [serverInfoPayload]
    simp only [looksLikeServerInfoPayload_iff, hheader, false_and, if_false]
  unfold dispatch
  rw [hpayload]
  by_cases hmagic : (header :: rest).take 6 = serverInfoMagicBytes
  · rw [if_pos hmagic, Option.filter_some]
    by_cases hlong : (header :: rest).length ≥ serverInfoMinRequestBytes
    · rw [if_pos (decide_eq_true hlong), if_pos ⟨hmagic, hlong⟩]
    · rw [if_neg fun h => hlong (of_decide_eq_true h), if_neg fun h => hlong h.2]
      simp only [hproperty]
  · rw [if_neg hmagic, if_neg fun h => hmagic h.1, Option.filter_none]
    simp only [hproperty]

/-! ### Packets built for a peer -/

/-- The bytes a payload is sent as. -/
inductive Builds (peer : PeerState) (channel : UInt8) (delivery : DeliveryMethod) (payload : Bytes) : Bytes → Prop
  | outbound : Builds peer channel delivery payload (buildOutboundPacket peer channel delivery payload).1.bytes
  | queued (reliable : isReliableDelivery delivery) : Builds peer channel delivery payload
      (buildQueuedReliablePacket peer (DeliveryMethod.channelId channel delivery) payload).1.bytes

lemma Builds.cases {peer : PeerState} {channel : UInt8} {delivery : DeliveryMethod} {payload bytes : Bytes}
    (h : Builds peer channel delivery payload bytes) :
    (delivery = .unreliable ∧ bytes = headerByte .unreliable peer.connectionNumber :: channel :: payload) ∨
    (delivery ≠ .unreliable ∧ ∃ sequence,
      bytes = channeledBytes peer sequence (DeliveryMethod.channelId channel delivery) payload ∧
      (delivery = .reliableOrdered → sequence = nextOn (DeliveryMethod.channelId channel delivery) peer)) := by
  cases h with
  | outbound =>
    cases delivery with
    | unreliable => exact .inl ⟨rfl, rfl⟩
    | sequenced => exact .inr ⟨fun h => (by cases h), _, rfl, fun h => (by cases h)⟩
    | reliableUnordered => exact .inr ⟨fun h => (by cases h), _, rfl, fun h => (by cases h)⟩
    | reliableOrdered => exact .inr ⟨fun h => (by cases h), _, rfl, fun _ => rfl⟩
    | reliableSequenced => exact .inr ⟨fun h => (by cases h), _, rfl, fun h => (by cases h)⟩
  | queued hreliable =>
    refine .inr ⟨?_, _, rfl, fun _ => rfl⟩
    rintro rfl
    cases hreliable

/-- The packet starts as a query does and is as long as one: packet 20817 of the ordered channel 46 of connection
0, with a payload of at least 380 bytes that starts with 1 and 0. -/
def ReadsAsServerInfo (peer : PeerState) (channel : UInt8) (delivery : DeliveryMethod) (payload : Bytes) : Prop :=
  peer.connectionNumber = 0 ∧ channel = 46 ∧ delivery = .reliableOrdered ∧
    nextOn (DeliveryMethod.channelId channel delivery) peer = 20817 ∧ payload.take 2 = [1, 0] ∧
    380 ≤ payload.length

instance (peer : PeerState) (channel : UInt8) (delivery : DeliveryMethod) (payload : Bytes) :
    Decidable (ReadsAsServerInfo peer channel delivery payload) := by
  unfold ReadsAsServerInfo; infer_instance

lemma leBytes_two_eq_iff {sequence : UInt16} : leBytes 2 sequence.toNat = [0x51, 0x51] ↔ sequence = 20817 := by
  constructor
  · intro h
    have hval := congrArg leVal h
    rw [leVal_leBytes_of_lt sequence.toNat_lt] at hval
    exact UInt16.toNat_inj.mp hval
  · rintro rfl
    rfl

lemma headerByte_eq_one_iff {property : PacketProperty} {connectionNumber : UInt8} (h : connectionNumber < 4) :
    headerByte property connectionNumber = 1 ↔ property = .channeled ∧ connectionNumber = 0 := by
  have key : ∀ c : UInt8, c < 4 → (headerByte property c = 1 ↔ property = .channeled ∧ c = 0) := by
    cases property <;> decide +kernel
  exact key connectionNumber h

lemma channelId_eq_iff {channel : UInt8} (h : channel < 64) {delivery : DeliveryMethod}
    (hdelivery : delivery ≠ .unreliable) :
    DeliveryMethod.channelId channel delivery = 0xBA ↔ channel = 46 ∧ delivery = .reliableOrdered := by
  obtain ⟨hchannel, hfrom⟩ := channelId_div_four h hdelivery
  constructor
  · intro heq
    rw [heq] at hchannel hfrom
    exact ⟨hchannel.symm, hfrom.symm⟩
  · rintro ⟨rfl, rfl⟩
    rfl

/-- What `process_packet` makes of a packet on a channel id. -/
lemma dispatch_channeledBytes {peer : PeerState} {channel : UInt8} {delivery : DeliveryMethod} {sequence : UInt16}
    {payload : Bytes} (hnumber : peer.connectionNumber < 4) (hchannel : channel < 64)
    (hdelivery : delivery ≠ .unreliable)
    (hsequence : delivery = .reliableOrdered →
      sequence = nextOn (DeliveryMethod.channelId channel delivery) peer) :
    dispatch (channeledBytes peer sequence (DeliveryMethod.channelId channel delivery) payload) =
      if ReadsAsServerInfo peer channel delivery payload then
        .serverInfo (channeledBytes peer sequence (DeliveryMethod.channelId channel delivery) payload)
      else .packet .channeled peer.connectionNumber := by
  have hbytes : channeledBytes peer sequence (DeliveryMethod.channelId channel delivery) payload =
      headerByte .channeled peer.connectionNumber ::
        (leBytes 2 sequence.toNat ++ DeliveryMethod.channelId channel delivery :: payload) := by
    rw [channeledBytes]
    simp [putU8, putU16, putBytes]
  rw [hbytes, dispatch_of_header (fromByte_headerByte _ _) (by decide), connectionNumberOf_headerByte _ hnumber]
  refine if_congr ?_ rfl rfl
  -- the six bytes, one part of the packet after the other
  have htake : (headerByte .channeled peer.connectionNumber ::
      (leBytes 2 sequence.toNat ++ DeliveryMethod.channelId channel delivery :: payload)).take 6 =
        headerByte .channeled peer.connectionNumber ::
          (leBytes 2 sequence.toNat ++ DeliveryMethod.channelId channel delivery :: payload.take 2) := rfl
  have hmagic : serverInfoMagicBytes = 1 :: ([0x51, 0x51] ++ 0xBA :: [1, 0]) := rfl
  have hwords : (leBytes 2 sequence.toNat ++ DeliveryMethod.channelId channel delivery :: payload.take 2 =
      [0x51, 0x51] ++ 0xBA :: [1, 0]) ↔
        sequence = 20817 ∧ (channel = 46 ∧ delivery = .reliableOrdered) ∧ payload.take 2 = [1, 0] := by
    rw [← leBytes_two_eq_iff, ← channelId_eq_iff hchannel hdelivery, ← List.cons.injEq]
    exact ⟨fun h => List.append_inj h (length_leBytes _ _), fun h => by rw [h.1, h.2]⟩
  have hlength : (headerByte .channeled peer.connectionNumber ::
      (leBytes 2 sequence.toNat ++ DeliveryMethod.channelId channel delivery :: payload)).length ≥
        serverInfoMinRequestBytes ↔ 380 ≤ payload.length := by
    rw [List.length_cons, List.length_append, length_leBytes, List.length_cons, serverInfoMinRequestBytes]
    omega
  rw [htake, hmagic, List.cons.injEq, headerByte_eq_one_iff hnumber, hwords, hlength, ReadsAsServerInfo]
  constructor
  · rintro ⟨⟨⟨-, hzero⟩, hseq, ⟨hch, hord⟩, hstart⟩, hlong⟩
    exact ⟨hzero, hch, hord, hsequence hord ▸ hseq, hstart, hlong⟩
  · rintro ⟨hzero, hch, hord, hseq, hstart, hlong⟩
    exact ⟨⟨⟨rfl, hzero⟩, (hsequence hord).trans hseq, ⟨hch, hord⟩, hstart⟩, hlong⟩

/-! ### Receiving -/

section Receiving

variable {w : World} (hqueue : w.queueResults.headD .accepted = .accepted)
include hqueue

lemma events_enqueueEvent (event : ServerEvent) : (final (enqueueEvent event) w).events = w.events ++ [event] := by
  have h : enqueueEvent event w =
      .ok () { w with queueResults := w.queueResults.tail, events := w.events ++ [event] } := by
    unfold enqueueEvent
    split
    next rest heq =>
      rw [heq] at hqueue
      cases hqueue
    next => rfl
  rw [final_of_ok h]

lemma events_enqueueLossyEvent (event : ServerEvent) :
    (final (enqueueLossyEvent event) w).events = w.events ++ [event] := by
  have h : enqueueLossyEvent event w =
      .ok () { w with queueResults := w.queueResults.tail, events := w.events ++ [event] } := by
    unfold enqueueLossyEvent
    split
    next rest heq =>
      rw [heq] at hqueue
      cases hqueue
    next rest heq =>
      rw [heq] at hqueue
      cases hqueue
    next => rfl
  rw [final_of_ok h]

/-- A message packet is one event, if the address is bound. -/
lemma events_processMessage {remoteAddr : SocketAddr} {property : PacketProperty} {bytes : Bytes} {channel : UInt8}
    {delivery : DeliveryMethod} {payload : Bytes}
    (hparse : parseMessagePacket property bytes = some (channel, delivery, payload)) :
    (final (processMessage remoteAddr property bytes) w).events = w.events ++
      ((w.handle.byAddr.lookup remoteAddr).map fun id => .message id channel delivery payload).toList := by
  obtain ⟨handle, htouch, hbyAddr⟩ := touchPeer_ok remoteAddr w
  rw [processMessage, final_bind_ok htouch, final_get_bind]
  dsimp only
  rw [hbyAddr]
  cases w.handle.byAddr.lookup remoteAddr with
  | none => exact (List.append_nil _).symm
  | some id =>
    dsimp only
    rw [hparse]
    have hevent (handle : TransportHandle) : (final (if delivery = .unreliable ∨ delivery = .sequenced then
        enqueueLossyEvent (.message id channel delivery payload)
        else enqueueEvent (.message id channel delivery payload)) { w with handle }).events =
          w.events ++ [.message id channel delivery payload] := by
      split
      next => exact events_enqueueLossyEvent (w := { w with handle }) hqueue _
      next => exact events_enqueueEvent (w := { w with handle }) hqueue _
    dsimp only
    split
    next => exact hevent _
    next => exact hevent _

omit hqueue in
lemma parseMessagePacket_channeledBytes {peer : PeerState} {channel : UInt8} {delivery : DeliveryMethod}
    {sequence : UInt16} {payload : Bytes} (hchannel : channel < 64) (hdelivery : delivery ≠ .unreliable) :
    parseMessagePacket .channeled
      (channeledBytes peer sequence (DeliveryMethod.channelId channel delivery) payload) =
        some (channel, delivery, payload) := by
  obtain ⟨hdiv, hfrom⟩ := channelId_div_four hchannel hdelivery
  have hid : u8At (channeledBytes peer sequence (DeliveryMethod.channelId channel delivery) payload) 3 =
      DeliveryMethod.channelId channel delivery := rfl
  rw [parseMessagePacket, if_neg, hid]
  · dsimp only
    rw [hdiv, hfrom]
    rfl
  · simp only [channeledBytes, putU8, putU16, putBytes, List.length_append, List.length_cons, length_leBytes]
    omega

/-- A packet that is taken for the message it carries. -/
lemma events_of_parse {remoteAddr : SocketAddr} {property : PacketProperty} {connectionNumber : UInt8} {bytes : Bytes}
    {channel : UInt8} {delivery : DeliveryMethod} {payload : Bytes}
    (hproperty : property = .channeled ∨ property = .unreliable)
    (hdispatch : dispatch bytes = .packet property connectionNumber)
    (hparse : parseMessagePacket property bytes = some (channel, delivery, payload)) :
    (final (processPacket remoteAddr bytes) w).events = w.events ++
      ((w.handle.byAddr.lookup remoteAddr).map fun id => .message id channel delivery payload).toList := by
  have hleaf : processLeaf remoteAddr bytes = processMessage remoteAddr property bytes := by
    rw [processLeaf, hdispatch]
    rcases hproperty with rfl | rfl <;> rfl
  rw [processPacket_of_not_merged, hleaf, events_processMessage hqueue hparse]
  intro number hmerged
  rw [hdispatch] at hmerged
  rcases hproperty with rfl | rfl <;> cases hmerged

/-- **Built packets are received.**  A packet built for a peer and given back from its address is one message
event, with the channel, the delivery method and the payload it was built from, if and only if the address is
bound to the peer and the packet does not read as a server-information query. -/
theorem built_packet_received_iff {id : PeerId} {peer : PeerState} {channel : UInt8} {delivery : DeliveryMethod}
    {payload bytes : Bytes} (hnumber : peer.connectionNumber < 4) (hchannel : channel < 64)
    (hbuilt : Builds peer channel delivery payload bytes) :
    (final (processPacket peer.addr bytes) w).events = w.events ++ [.message id channel delivery payload] ↔
      w.handle.byAddr.lookup peer.addr = some id ∧ ¬ ReadsAsServerInfo peer channel delivery payload := by
  have hbound : w.events ++ ((w.handle.byAddr.lookup peer.addr).map fun id =>
      ServerEvent.message id channel delivery payload).toList = w.events ++ [.message id channel delivery payload] ↔
        w.handle.byAddr.lookup peer.addr = some id := by
    rw [List.append_cancel_left_eq]
    cases w.handle.byAddr.lookup peer.addr with
    | none => simp
    | some other => simp
  rcases hbuilt.cases with ⟨rfl, rfl⟩ | ⟨hdelivery, sequence, rfl, hsequence⟩
  · have hdispatch : dispatch (headerByte .unreliable peer.connectionNumber :: channel :: payload) =
        .packet .unreliable (connectionNumberOf (headerByte .unreliable peer.connectionNumber)) := by
      rw [dispatch_of_header (fromByte_headerByte _ _) (by decide), if_neg]
      rintro ⟨hmagic, -⟩
      have hheader := (headerByte_eq_one_iff hnumber).mp (List.cons.inj hmagic).1
      cases hheader.1
    have hparse : parseMessagePacket .unreliable (headerByte .unreliable peer.connectionNumber :: channel :: payload) =
        some (channel, .unreliable, payload) := by
      rw [parseMessagePacket, if_neg (by simp)]
      rfl
    rw [events_of_parse hqueue (.inr rfl) hdispatch hparse, hbound, and_iff_left]
    rintro ⟨-, -, hordered, -⟩
    cases hordered
  · have hdispatch := @dispatch_channeledBytes peer channel delivery sequence payload hnumber hchannel hdelivery
      hsequence
    by_cases hreads : ReadsAsServerInfo peer channel delivery payload
    · -- the packet is answered as a query instead
      rw [if_pos hreads] at hdispatch
      refine iff_of_false (fun h => ?_) fun h => h.2 hreads
      rw [processPacket, hdispatch] at h
      dsimp only at h
      rw [processServerInfo, events_enqueueEvent hqueue] at h
      cases (List.append_cancel_left_eq _ _ _).mp h
    · rw [if_neg hreads] at hdispatch
      have hparse := @parseMessagePacket_channeledBytes peer channel delivery sequence payload hchannel hdelivery
      rw [events_of_parse hqueue (.inl rfl) hdispatch hparse, hbound, and_iff_left hreads]

end Receiving

/-! ### A packet that reads as a query -/

/-- A peer of connection 0 that has sent 20817 packets on the ordered channel 46. -/
def talkativePeer : PeerState :=
  { PeerState.new 0 localAddr 0 1 0 with nextReliableSequence := AList.singleton 186 20817 }

/-- The peer is live and bound to its address. -/
def talkativeWorld : World where
  handle := { peers := AList.singleton 0 talkativePeer, byAddr := AList.singleton localAddr 0 }

def queryPayload : Bytes := [1, 0] ++ List.replicate 378 0

def queryPacket : Bytes := (buildOutboundPacket talkativePeer 46 .reliableOrdered queryPayload).1.bytes

/-- The packet is taken for a query, and the message is lost. -/
theorem built_packet_not_received :
    talkativeWorld.handle.peers.lookup 0 = some talkativePeer ∧
    talkativeWorld.handle.byAddr.lookup talkativePeer.addr = some 0 ∧
    Builds talkativePeer 46 .reliableOrdered queryPayload queryPacket ∧
    (final (processPacket talkativePeer.addr queryPacket) talkativeWorld).events =
      [.unconnectedRequest talkativePeer.addr 0 queryPacket] := by
  refine ⟨rfl, rfl, .outbound, ?_⟩
  have hreads : ReadsAsServerInfo talkativePeer 46 .reliableOrdered queryPayload := by decide +kernel
  have hsequence : DeliveryMethod.reliableOrdered = .reliableOrdered →
      nextOn 186 talkativePeer = nextOn (DeliveryMethod.channelId 46 .reliableOrdered) talkativePeer :=
    fun _ => rfl
  have hdispatch := @dispatch_channeledBytes talkativePeer 46 .reliableOrdered _ queryPayload (by decide) (by decide)
    (by decide) hsequence
  rw [if_pos hreads] at hdispatch
  have hquery : dispatch queryPacket = .serverInfo queryPacket := hdispatch
  have hnonce : (parseServerInfoQueryNonce queryPacket).getD 0 = 0 := by decide +kernel
  rw [processPacket, hquery]
  dsimp only
  rw [processServerInfo, events_enqueueEvent rfl, hnonce]
  rfl

/-- Any other packet of that peer is received. -/
theorem built_packet_received_iff_short : ∃ bytes, Builds talkativePeer 46 .reliableOrdered [7] bytes ∧
    (final (processPacket talkativePeer.addr bytes) talkativeWorld).events =
      talkativeWorld.events ++ [.message 0 46 .reliableOrdered [7]] :=
  ⟨_, .outbound, (built_packet_received_iff rfl (by decide) (by decide) .outbound).mpr
    ⟨by decide +kernel, by decide +kernel⟩⟩

end BasisRust.Transport
