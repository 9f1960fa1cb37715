import BasisRust.Transport.Ack
import BasisRust.Transport.Delivery
import BasisRust.Transport.Resend

/-!
# Which packets are acknowledged

What arrives between two ticks of the resend loop and what the second tick acknowledges of it.  The window of a
channel id starts at the first packet that comes in after a tick: one that was sent before it and comes later is
behind the window and is left out.  Packets of reliable-sequenced delivery are never entered.
-/

namespace BasisRust.Transport

open Lib Protocol

/-! ### A window that need not slide -/

namespace AckState

/-- The state after the sequences, the first of which opened the window. -/
def receiveAll (ack : AckState) (sequences : List UInt16) : AckState := sequences.foldl receive ack

/-- The window starts at `start` and has marked what is in it. -/
structure Marks (start : UInt16) (sequences : List UInt16) (ack : AckState) : Prop where
  opened : ack.windowStart = start
  bits : defaultWindowSize ≤ 8 * ack.bits.length
  marked : ∀ s ∈ sequences, 0 ≤ relativeSequence s start → getBit ack.bits (s.toNat % defaultWindowSize)

variable {start sequence : UInt16} {ack : AckState} {seen sequences : List UInt16}

lemma marks_fresh (start : UInt16) : Marks start [] (fresh start) where
  opened := rfl
  bits := by simp [fresh, defaultWindowSize]
  marked _ h := absurd h List.not_mem_nil

/-- A sequence behind the window leaves it as it is; one in it is marked beside the others. -/
lemma Marks.receive (h : Marks start seen ack) (hnear : relativeSequence sequence start < defaultWindowSize) :
    Marks start (seen ++ [sequence]) (ack.receive sequence) := by
  unfold AckState.receive
  rw [h.opened]
  by_cases hneg : relativeSequence sequence start < 0
  · simp only [if_pos hneg]
    refine ⟨h.opened, h.bits, fun s hs hs' => ?_⟩
    rcases List.mem_append.mp hs with hs | hs
    · exact h.marked s hs hs'
    · rw [List.mem_singleton.mp hs] at hs'
      exact absurd hneg (not_lt.mpr hs')
  · have hsmall : ¬ (relativeSequence sequence start).toNat ≥ defaultWindowSize := by omega
    have hbyte : sequence.toNat % defaultWindowSize / 8 < ack.bits.length := by
      have hbits := h.bits
      have hlt : sequence.toNat % defaultWindowSize < defaultWindowSize := Nat.mod_lt _ (by decide)
      omega
    simp only [if_neg hneg, if_neg hsmall]
    refine ⟨h.opened, by simpa using h.bits, fun s hs hs' => ?_⟩
    dsimp only
    rw [getBit_setBit hbyte]
    rcases List.mem_append.mp hs with hs | hs
    · rw [h.marked s hs hs', Bool.or_true]
    · rw [List.mem_singleton.mp hs, decide_eq_true rfl, Bool.true_or]

lemma Marks.receiveAll (h : Marks start seen ack)
    (hnear : ∀ s ∈ sequences, relativeSequence s start < defaultWindowSize) :
    Marks start (seen ++ sequences) (ack.receiveAll sequences) := by
  induction sequences generalizing ack seen with
  | nil =>
    rw [List.append_nil]
    exact h
  | cons s sequences ih =>
    rw [List.forall_mem_cons] at hnear
    have hrest := ih (h.receive hnear.1) hnear.2
    rwa [List.append_assoc] at hrest

lemma Sound.receiveAll {seen : UInt16 → Prop} (h : ack.Sound seen) (hseqs : ∀ s ∈ sequences, InRange s ∧ seen s) :
    (ack.receiveAll sequences).Sound seen := by
  induction sequences generalizing ack with
  | nil => exact h
  | cons s sequences ih =>
    rw [List.forall_mem_cons] at hseqs
    exact ih (h.receive hseqs.1.1 hseqs.1.2) hseqs.2

end AckState

/-- Of two sequences of one window the later one is ahead by less than the window. -/
lemma relativeSequence_lt_of_window {start : ℕ} {s t : UInt16} (hs : InRange s) (ht : InRange t)
    (hs' : ahead maxSequence start s.toNat < defaultWindowSize) (ht' : ahead maxSequence start t.toNat < defaultWindowSize)
    (hstart : start < maxSequence) : relativeSequence s t < defaultWindowSize := by
  unfold InRange maxSequence at hs ht
  unfold ahead maxSequence defaultWindowSize at hs' ht'
  unfold maxSequence at hstart
  unfold relativeSequence defaultWindowSize
  dsimp only
  split_ifs at hs' ht' ⊢ <;> omega

/-! ### What arrives -/

/-- A packet on a channel id, numbered as both sides number them. -/
structure ChanneledPacket (bytes : Bytes) : Prop where
  property : PacketProperty.fromByte (u8At bytes 0) = some .channeled
  length : 4 ≤ bytes.length
  sequence : InRange (u16At bytes 1)

/-- The sequences of the packets that are taken for packets of the channel id, in order of arrival. -/
def receivedOn (channelId : UInt8) (packets : List Bytes) : List UInt16 :=
  (packets.filter fun bytes => (payloadOn channelId bytes).isSome).map (u16At · 1)

/-- The delivery methods whose packets are entered in `outgoing_acks`. -/
def Acknowledged (channelId : UInt8) : Prop :=
  DeliveryMethod.fromChannelId channelId = .reliableOrdered ∨
    DeliveryMethod.fromChannelId channelId = .reliableUnordered

instance (channelId : UInt8) : Decidable (Acknowledged channelId) := by
  unfold Acknowledged; infer_instance

/-- The packets arrive from the address, each in its own moment. -/
def TransportHandle.receive (addr : SocketAddr) (handle : TransportHandle) (packets : List (Bytes × Io)) :
    TransportHandle := packets.foldl (fun handle p => (handle.outcome (.packet addr p.1, p.2)).handle) handle

/-! ### One packet -/

/-- `outgoing_acks` with the packet entered, if it is one to be acknowledged. -/
def enterAck (acks : Dict UInt8 AckState) (bytes : Bytes) : Dict UInt8 AckState :=
  let channelId := u8At bytes 3
  let sequence := u16At bytes 1
  if (payloadOn channelId bytes).isSome ∧ Acknowledged channelId then
    acks.insert channelId (((acks.lookup channelId).getD (AckState.fresh sequence)).receive sequence)
  else acks

/-- The peer is live and bound to the address, and these are its `outgoing_acks`. -/
structure Serves (addr : SocketAddr) (id : PeerId) (acks : Dict UInt8 AckState) (handle : TransportHandle) : Prop where
  bound : handle.byAddr.lookup addr = some id
  live : ∃ peer, handle.peers.lookup id = some peer ∧ peer.outgoingAcks = acks

section Packet

variable {addr : SocketAddr} {id : PeerId} {acks acks' : Dict UInt8 AckState} {bytes : Bytes}

lemma Serves.modifyPeer {handle : TransportHandle} (h : Serves addr id acks handle) {f : PeerState → PeerState}
    (hf : ∀ peer, peer.outgoingAcks = acks → (f peer).outgoingAcks = acks') :
    Serves addr id acks' (handle.modifyPeer id f) := by
  obtain ⟨peer, hpeer, hacks⟩ := h.live
  refine ⟨h.bound, f peer, ?_, hf peer hacks⟩
  change (handle.peers.modify id f).lookup id = some (f peer)
  rw [Dict.lookup_modify, if_pos rfl, hpeer]
  rfl

lemma ChanneledPacket.dispatch (h : ChanneledPacket bytes) :
    (∃ payload, Transport.dispatch bytes = .serverInfo payload) ∨
      ∃ connectionNumber, Transport.dispatch bytes = .packet .channeled connectionNumber := by
  unfold Transport.dispatch
  split
  next payload _ => exact .inl ⟨payload, rfl⟩
  next =>
    refine .inr ?_
    cases bytes with
    | nil => cases h.length
    | cons header rest =>
      have hproperty : PacketProperty.fromByte header = some .channeled := h.property
      simp only [hproperty]
      exact ⟨_, rfl⟩

lemma payloadOn_isSome_iff {channelId : UInt8} (h : ChanneledPacket bytes) :
    (payloadOn channelId bytes).isSome ↔
      (∃ connectionNumber, Transport.dispatch bytes = .packet .channeled connectionNumber) ∧
        u8At bytes 3 = channelId := by
  unfold payloadOn
  split
  next connectionNumber hdispatch =>
    rw [hdispatch]
    have hlength := h.length
    by_cases hon : u8At bytes 3 = channelId
    · simp [hon, hlength]
    · simp [hon]
  next hother =>
    refine iff_of_false (by simp) ?_
    rintro ⟨⟨connectionNumber, hdispatch⟩, -⟩
    exact hother connectionNumber hdispatch

lemma handle_enqueueLossyEvent (event : ServerEvent) (w : World) :
    (final (enqueueLossyEvent event) w).handle = w.handle := by
  rcases enqueueLossyEvent_cases event w with ⟨w', h, hh, -⟩ | ⟨w', h, hh, -⟩
  · rw [final_of_ok h, hh]
  · rw [final_of_error h, hh]

/-- What a packet does to `outgoing_acks`, whether or not its event can be enqueued. -/
lemma serves_processMessage {connectionNumber : UInt8} {w : World} (hpacket : ChanneledPacket bytes)
    (hdispatch : dispatch bytes = .packet .channeled connectionNumber) (h : Serves addr id acks w.handle) :
    Serves addr id (enterAck acks bytes) (final (processMessage addr .channeled bytes) w).handle := by
  have htouch : touchPeer addr w =
      .ok () { w with handle := w.handle.modifyPeer id fun peer => { peer with lastSeen := w.now } } := by
    rw [touchPeer, get_bind_apply, h.bound]
    rfl
  have hparse : parseMessagePacket .channeled bytes =
      some (u8At bytes 3 / 4, .fromChannelId (u8At bytes 3), bytes.drop 4) := by
    rw [parseMessagePacket, if_neg (not_lt.mpr hpacket.length)]
  have htouched : Serves addr id acks (w.handle.modifyPeer id fun peer => { peer with lastSeen := w.now }) :=
    h.modifyPeer fun _ hacks => hacks
  have hbound : (w.handle.modifyPeer id fun peer => { peer with lastSeen := w.now }).byAddr.lookup addr = some id :=
    h.bound
  have hsome : (payloadOn (u8At bytes 3) bytes).isSome := (payloadOn_isSome_iff hpacket).mpr ⟨⟨_, hdispatch⟩, rfl⟩
  have hevent (handle : TransportHandle) (event : ServerEvent) (p : Prop) [Decidable p] :
      (final (if p then enqueueLossyEvent event else enqueueEvent event) { w with handle }).handle = handle := by
    split
    next => exact handle_enqueueLossyEvent event _
    next => exact handle_enqueueEvent event _
  rw [processMessage, final_bind_ok htouch, final_get_bind]
  dsimp only
  rw [hbound]
  dsimp only
  rw [hparse]
  dsimp only
  split
  next hacked =>
    rw [final_modifyHandle_bind, hevent, enterAck, if_pos ⟨hsome, hacked⟩]
    refine htouched.modifyPeer fun peer hacks => ?_
    rw [queueAck, hacks]
  next hacked =>
    rw [hevent, enterAck, if_neg fun hboth => hacked hboth.2]
    exact htouched

lemma serves_processPacket {w : World} (hpacket : ChanneledPacket bytes) (h : Serves addr id acks w.handle) :
    Serves addr id (enterAck acks bytes) (final (processPacket addr bytes) w).handle := by
  rcases hpacket.dispatch with ⟨payload, hdispatch⟩ | ⟨connectionNumber, hdispatch⟩
  · -- taken for a query, the packet is not entered
    have hnone : ¬ (payloadOn (u8At bytes 3) bytes).isSome := by
      rw [payloadOn_isSome_iff hpacket, hdispatch]
      rintro ⟨⟨_, heq⟩, -⟩
      cases heq
    rw [processPacket, hdispatch]
    dsimp only
    rw [processServerInfo, handle_enqueueEvent, enterAck, if_neg fun hboth => hnone hboth.1]
    exact h
  · have hnot : ∀ number, dispatch bytes ≠ .packet .merged number := by
      intro number hmerged
      rw [hdispatch] at hmerged
      cases hmerged
    rw [processPacket_of_not_merged addr hnot, processLeaf, hdispatch]
    exact serves_processMessage hpacket hdispatch h

theorem serves_receive {packets : List (Bytes × Io)} (hpackets : ∀ p ∈ packets, ChanneledPacket p.1)
    {handle : TransportHandle} (h : Serves addr id acks handle) :
    Serves addr id ((packets.map (·.1)).foldl enterAck acks) (handle.receive addr packets) := by
  induction packets generalizing acks handle with
  | nil => exact h
  | cons p packets ih =>
    rw [List.forall_mem_cons] at hpackets
    have hfirst : Serves addr id (enterAck acks p.1) (handle.outcome (.packet addr p.1, p.2)).handle :=
      serves_processPacket (w := handle.world p.2) hpackets.1 h
    exact ih hpackets.2 hfirst

end Packet

/-! ### What the tick acknowledges -/

/-- The packet is entered on its own channel id and on no other. -/
lemma lookup_enterAck {acks : Dict UInt8 AckState} {bytes : Bytes} (hpacket : ChanneledPacket bytes)
    (channelId : UInt8) : (enterAck acks bytes).lookup channelId =
      if (payloadOn channelId bytes).isSome ∧ Acknowledged channelId then
        some (((acks.lookup channelId).getD (AckState.fresh (u16At bytes 1))).receive (u16At bytes 1))
      else acks.lookup channelId := by
  unfold enterAck
  dsimp only
  by_cases hchannel : u8At bytes 3 = channelId
  · subst hchannel
    split
    next => rw [AList.lookup_insert]
    next => rfl
  · rw [if_neg (c := (payloadOn channelId bytes).isSome ∧ _)]
    · split
      next => rw [AList.lookup_insert_ne (Ne.symm hchannel)]
      next => rfl
    · rintro ⟨hsome, -⟩
      exact hchannel ((payloadOn_isSome_iff hpacket).mp hsome).2

lemma receivedOn_cons (channelId : UInt8) (bytes : Bytes) (packets : List Bytes) :
    receivedOn channelId (bytes :: packets) = if (payloadOn channelId bytes).isSome then
      u16At bytes 1 :: receivedOn channelId packets else receivedOn channelId packets := by
  unfold receivedOn
  rw [List.filter_cons]
  split <;> rfl

lemma lookup_foldl_enterAck {packets : List Bytes} (hpackets : ∀ bytes ∈ packets, ChanneledPacket bytes)
    {channelId : UInt8} {acks : Dict UInt8 AckState} :
    (packets.foldl enterAck acks).lookup channelId =
      if Acknowledged channelId then
        (receivedOn channelId packets).foldl
          (fun ack sequence => some ((ack.getD (AckState.fresh sequence)).receive sequence)) (acks.lookup channelId)
      else acks.lookup channelId := by
  induction packets generalizing acks with
  | nil => simp [receivedOn]
  | cons bytes packets ih =>
    rw [List.forall_mem_cons] at hpackets
    rw [List.foldl_cons, ih hpackets.2, lookup_enterAck hpackets.1, receivedOn_cons]
    by_cases hacked : Acknowledged channelId
    · by_cases hsome : (payloadOn channelId bytes).isSome
      · rw [if_pos hacked, if_pos hacked, if_pos ⟨hsome, hacked⟩, if_pos hsome]
        rfl
      · rw [if_pos hacked, if_pos hacked, if_neg fun h => hsome h.1, if_neg hsome]
    · rw [if_neg hacked, if_neg hacked, if_neg fun h => hacked h.2]

lemma foldl_receive_some (ack : AckState) (sequences : List UInt16) :
    sequences.foldl (fun ack sequence => some ((ack.getD (AckState.fresh sequence)).receive sequence)) (some ack) =
      some (ack.receiveAll sequences) := by
  induction sequences generalizing ack with
  | nil => rfl
  | cons s sequences ih => exact ih (ack.receive s)

/-- The acknowledgement that is entered for the packets, from a tick without any on. -/
lemma lookup_foldl_enterAck_empty {packets : List Bytes} (hpackets : ∀ bytes ∈ packets, ChanneledPacket bytes)
    {channelId : UInt8} {ack : AckState} : (packets.foldl enterAck ∅).lookup channelId = some ack ↔
      Acknowledged channelId ∧ ∃ first, (receivedOn channelId packets).head? = some first ∧
        ack = (AckState.fresh first).receiveAll (receivedOn channelId packets) := by
  rw [lookup_foldl_enterAck hpackets]
  by_cases hacked : Acknowledged channelId
  · rw [if_pos hacked, AList.lookup_empty]
    cases receivedOn channelId packets with
    | nil => simp
    | cons first rest =>
      rw [List.foldl_cons, foldl_receive_some]
      constructor
      · intro h
        exact ⟨hacked, first, rfl, (Option.some.inj h).symm⟩
      · rintro ⟨-, first', hfirst, rfl⟩
        cases hfirst
        rfl
  · rw [if_neg hacked, AList.lookup_empty]
    exact iff_of_false (fun h => by cases h) fun h => hacked h.1

/-- **What the packet acknowledges.**  Of the sequences of one window, those received that are not behind the
first. -/
theorem ackBitSet_receiveAll {sequences : List UInt16} {first sequence : UInt16} {start : ℕ}
    (hstart : start < maxSequence) (hhead : sequences.head? = some first)
    (hsequences : ∀ s ∈ sequences, InRange s ∧ ahead maxSequence start s.toNat < defaultWindowSize)
    (hsequence : InRange sequence) (connectionNumber channelId : UInt8) :
    ackBitSet (buildAckPacket connectionNumber channelId ((AckState.fresh first).receiveAll sequences)) sequence ↔
      sequence ∈ sequences ∧ 0 ≤ relativeSequence sequence first := by
  have hfirst := hsequences first (List.mem_of_head? hhead)
  have hnear (s : UInt16) (hs : s ∈ sequences) : relativeSequence s first < defaultWindowSize :=
    relativeSequence_lt_of_window (hsequences s hs).1 hfirst.1 (hsequences s hs).2 hfirst.2 hstart
  have hmarks := (AckState.marks_fresh first).receiveAll hnear
  rw [List.nil_append] at hmarks
  constructor
  · intro hset
    have hsound : ((AckState.fresh first).receiveAll sequences).Sound (· ∈ sequences) :=
      (AckState.sound_fresh hfirst.1).receiveAll fun s hs => ⟨(hsequences s hs).1, hs⟩
    refine ⟨seen_of_ackBitSet hsound hsequence hset, ?_⟩
    rw [ackBitSet_buildAckPacket, hmarks.opened] at hset
    split at hset
    next => cases hset
    next hwindow => exact not_lt.mp fun hneg => hwindow (.inl hneg)
  · rintro ⟨hmem, hnonneg⟩
    have hlt := hnear sequence hmem
    rw [ackBitSet_buildAckPacket, hmarks.opened, if_neg]
    · exact hmarks.marked sequence hmem hnonneg
    · rintro (hneg | hlarge)
      · exact absurd hneg (not_lt.mpr hnonneg)
      · omega

/-- An ack packet takes from the pending ones what it acknowledges on its channel id. -/
lemma notMem_processAck_iff {connectionNumber channelId : UInt8} {ack : AckState} {sender : PeerState}
    {sequence : UInt16} (hpending : ⟨channelId, sequence⟩ ∈ sender.pendingReliable) :
    ⟨channelId, sequence⟩ ∉ (processAck sender (buildAckPacket connectionNumber channelId ack)).pendingReliable ↔
      ackBitSet (buildAckPacket connectionNumber channelId ack) sequence := by
  have hchannel : u8At (buildAckPacket connectionNumber channelId ack) 3 = channelId := rfl
  obtain ⟨item, hitem⟩ := Dict.mem_iff_lookup.mp hpending
  rw [processAck, if_neg (not_lt.mpr (length_buildAckPacket ..)), Dict.mem_retain, hitem]
  simp [hchannel]

/-- The sequence was received on the channel id, whose packets are acknowledged, and it is not behind the first
one received there. -/
def AckedNext (channelId : UInt8) (sequence : UInt16) (packets : List Bytes) : Prop :=
  DeliveryMethod.fromChannelId channelId ≠ .reliableSequenced ∧
    ∃ first, (receivedOn channelId packets).head? = some first ∧ sequence ∈ receivedOn channelId packets ∧
      0 ≤ relativeSequence sequence first

lemma acknowledged_iff {channelId : UInt8} (h : isReliableDelivery (.fromChannelId channelId)) :
    Acknowledged channelId ↔ DeliveryMethod.fromChannelId channelId ≠ .reliableSequenced := by
  unfold Acknowledged
  cases hdelivery : DeliveryMethod.fromChannelId channelId with
  | reliableOrdered => simp
  | reliableUnordered => simp
  | reliableSequenced => simp
  | sequenced =>
    rw [hdelivery] at h
    cases h
  | unreliable =>
    rw [hdelivery] at h
    cases h

/-- The ping of the tick leaves the acknowledgements alone. -/
lemma drainAcks_pingIfDue (now : ℕ) (peer : PeerState) : (drainAcks (pingIfDue now peer).1).2 =
    peer.outgoingAcks.entries.map fun e => buildAckPacket peer.connectionNumber e.1 e.2 := by
  unfold pingIfDue
  split <;> rfl

lemma mem_drainAcks_iff {peer : PeerState} {now : ℕ} {bytes : Bytes} :
    bytes ∈ (drainAcks (pingIfDue now peer).1).2 ↔
      ∃ channelId ack, peer.outgoingAcks.lookup channelId = some ack ∧
        bytes = buildAckPacket peer.connectionNumber channelId ack := by
  rw [drainAcks_pingIfDue, List.mem_map]
  constructor
  · rintro ⟨⟨channelId, ack⟩, hmem, rfl⟩
    exact ⟨channelId, ack, AList.mem_lookup_iff.mpr hmem, rfl⟩
  · rintro ⟨channelId, ack, hlookup, rfl⟩
    exact ⟨⟨channelId, ack⟩, AList.mem_lookup_iff.mp hlookup, rfl⟩

/-- **What was received is acknowledged in the next tick.**  For a live peer whose acknowledgements were just
sent, after packets whose sequences lie in one window for each channel id: the ack packet of the next tick takes
a reliable packet received from what its sender has pending if and only if its delivery method is acknowledged
and it is not behind the first packet of its channel id. -/
theorem received_packets_acked_iff {handle : TransportHandle} {addr : SocketAddr} {id : PeerId} {peer : PeerState}
    {packets : List (Bytes × Io)} (hbound : handle.byAddr.lookup addr = some id)
    (hlive : handle.peers.lookup id = some peer) (hdrained : peer.outgoingAcks = ∅)
    (hpackets : ∀ p ∈ packets, ChanneledPacket p.1)
    (hwindow : ∀ channelId, ∃ start < maxSequence, ∀ p ∈ packets, u8At p.1 3 = channelId →
      ahead maxSequence start (u16At p.1 1).toNat < defaultWindowSize)
    {packet : Bytes} (hpacket : packet ∈ packets.map (·.1))
    (hreliable : isReliableDelivery (.fromChannelId (u8At packet 3))) (now : ℕ) :
    ∃ peer', (handle.receive addr packets).peers.lookup id = some peer' ∧
      ∀ sender : PeerState, ⟨u8At packet 3, u16At packet 1⟩ ∈ sender.pendingReliable →
        ((∃ bytes ∈ (drainAcks (pingIfDue now peer').1).2, u8At bytes 3 = u8At packet 3 ∧
          ⟨u8At packet 3, u16At packet 1⟩ ∉ (processAck sender bytes).pendingReliable) ↔
            AckedNext (u8At packet 3) (u16At packet 1) (packets.map (·.1))) := by
  obtain ⟨-, peer', hpeer', hacks⟩ := serves_receive hpackets ⟨hbound, peer, hlive, hdrained⟩
  have hall : ∀ bytes ∈ packets.map (·.1), ChanneledPacket bytes := List.forall_mem_map.mpr hpackets
  obtain ⟨start, hstart, hnear⟩ := hwindow (u8At packet 3)
  have hsequences (s : UInt16) (hs : s ∈ receivedOn (u8At packet 3) (packets.map (·.1))) :
      InRange s ∧ ahead maxSequence start s.toNat < defaultWindowSize := by
    obtain ⟨bytes, hbytes, rfl⟩ := List.mem_map.mp hs
    obtain ⟨hmem, hsome⟩ := List.mem_filter.mp hbytes
    obtain ⟨p, hp, rfl⟩ := List.mem_map.mp hmem
    exact ⟨(hpackets p hp).sequence, hnear p hp ((payloadOn_isSome_iff (hpackets p hp)).mp hsome).2⟩
  have hrange := (hall packet hpacket).sequence
  refine ⟨peer', hpeer', fun sender hpending => ?_⟩
  simp only [mem_drainAcks_iff, hacks, lookup_foldl_enterAck_empty hall]
  constructor
  · rintro ⟨_, ⟨channelId, ack, ⟨hacked, first, hhead, rfl⟩, rfl⟩, hchannel, hgone⟩
    change channelId = u8At packet 3 at hchannel
    subst hchannel
    rw [notMem_processAck_iff hpending, ackBitSet_receiveAll hstart hhead hsequences hrange] at hgone
    exact ⟨(acknowledged_iff hreliable).mp hacked, first, hhead, hgone⟩
  · rintro ⟨hdelivery, first, hhead, hmem⟩
    refine ⟨_, ⟨u8At packet 3, _, ⟨(acknowledged_iff hreliable).mpr hdelivery, first, hhead, rfl⟩, rfl⟩, rfl, ?_⟩
    rw [notMem_processAck_iff hpending, ackBitSet_receiveAll hstart hhead hsequences hrange]
    exact hmem

/-! ### A packet that was overtaken -/

def visitorPeer : PeerState := PeerState.new 0 localAddr 0 1 0

/-- The visitor is live and bound to its address. -/
def visitorHandle : TransportHandle where
  peers := AList.singleton 0 visitorPeer
  byAddr := AList.singleton localAddr 0

/-- The empty packet of a number on channel id 2. -/
def numberedPacket (sequence : UInt16) : Bytes := channeledBytes visitorPeer sequence 2 []

/-- Packet 1 comes in before packet 0. -/
def overtakenPackets : List (Bytes × Io) := [(numberedPacket 1, {}), (numberedPacket 0, {})]

/-- The visitor has both packets pending. -/
def waitingSender : PeerState :=
  { visitorPeer with pendingReliable := (AList.singleton ⟨2, 0⟩ ⟨numberedPacket 0, 0⟩).insert ⟨2, 1⟩ ⟨numberedPacket 1, 0⟩ }

lemma overtakenPackets_channeled : ∀ p ∈ overtakenPackets, ChanneledPacket p.1 := by
  intro p hp
  rcases List.mem_cons.mp hp with rfl | hp
  · exact ⟨by decide, by decide, by unfold InRange; decide⟩
  · rw [List.mem_singleton.mp hp]
    exact ⟨by decide, by decide, by unfold InRange; decide⟩

lemma overtakenPackets_window (channelId : UInt8) : ∃ start < maxSequence, ∀ p ∈ overtakenPackets,
    u8At p.1 3 = channelId → ahead maxSequence start (u16At p.1 1).toNat < defaultWindowSize := by
  have hall : ∀ p ∈ overtakenPackets, ahead maxSequence 0 (u16At p.1 1).toNat < defaultWindowSize := by decide +kernel
  exact ⟨0, by decide, fun p hp _ => hall p hp⟩

/-- Packet 0 stays pending: the ack packet of the tick starts its window at packet 1. -/
theorem overtaken_packet_not_acked :
    (∀ p ∈ overtakenPackets, ChanneledPacket p.1) ∧
    (∀ channelId, ∃ start < maxSequence, ∀ p ∈ overtakenPackets, u8At p.1 3 = channelId →
      ahead maxSequence start (u16At p.1 1).toNat < defaultWindowSize) ∧
    isReliableDelivery (.fromChannelId 2) ∧
    ∃ peer', (visitorHandle.receive localAddr overtakenPackets).peers.lookup 0 = some peer' ∧
      (drainAcks (pingIfDue 15 peer').1).2.length = 1 ∧
      ∀ bytes ∈ (drainAcks (pingIfDue 15 peer').1).2, ⟨2, 0⟩ ∈ (processAck waitingSender bytes).pendingReliable := by
  refine ⟨overtakenPackets_channeled, overtakenPackets_window, rfl, ?_⟩
  have hserves : Serves localAddr 0 ∅ visitorHandle := ⟨rfl, visitorPeer, rfl, rfl⟩
  obtain ⟨-, peer', hpeer', hacks⟩ := serves_receive overtakenPackets_channeled hserves
  have hentries : peer'.outgoingAcks.entries = [⟨2, ((AckState.fresh 1).receive 1).receive 0⟩] := by
    rw [hacks]
    decide +kernel
  have hstays : ∀ connectionNumber, ⟨2, 0⟩ ∈ (processAck waitingSender
      (buildAckPacket connectionNumber 2 (((AckState.fresh 1).receive 1).receive 0))).pendingReliable := by
    decide +kernel
  refine ⟨peer', hpeer', ?_⟩
  rw [drainAcks_pingIfDue, hentries]
  exact ⟨rfl, List.forall_mem_singleton.mpr (hstays _)⟩

/-- Packet 1 is acknowledged by the same tick. -/
theorem received_packets_acked_iff_overtaken :
    ∃ peer', (visitorHandle.receive localAddr overtakenPackets).peers.lookup 0 = some peer' ∧
      ∃ bytes ∈ (drainAcks (pingIfDue 15 peer').1).2, u8At bytes 3 = 2 ∧
        ⟨2, 1⟩ ∉ (processAck waitingSender bytes).pendingReliable := by
  have hbound : visitorHandle.byAddr.lookup localAddr = some 0 := rfl
  have hlive : visitorHandle.peers.lookup 0 = some visitorPeer := rfl
  have hpacket : numberedPacket 1 ∈ overtakenPackets.map (·.1) := List.mem_cons_self
  obtain ⟨peer', hpeer', hacked⟩ := received_packets_acked_iff hbound hlive rfl overtakenPackets_channeled
    overtakenPackets_window hpacket rfl 15
  refine ⟨peer', hpeer', (hacked waitingSender (by decide)).mpr ⟨by decide, 1, by decide +kernel, ?_, ?_⟩⟩
  · decide +kernel
  · decide

end BasisRust.Transport
