import BasisRust.Client.Delivered
import BasisRust.Transport.Receive

/-!
# A pending packet can be settled

Whatever has happened on a link, a pending packet of a channel id the client acknowledges is two steps from being
settled: the network still has it, and the client's answer takes it, and nothing else, from the pending packets.
-/

namespace BasisRust.Client

open Lib Protocol Transport

/-! ### The network has it -/

/-- What is pending has been given to the network. -/
def Link.Offered (l : Link) : Prop := l.server.peer.pendingReliable.All fun _ item => item.bytes ∈ l.toClient

lemma offered_call {l : Link} (h : l.Offered) {call : PeerCall} {server : PeerRun}
    (hstep : PeerStep l.server call server) :
    Link.Offered { l with server, toClient := l.toClient ++ sends l.server call } := by
  have hmore : l.server.peer.pendingReliable.All fun _ item => item.bytes ∈ l.toClient ++ sends l.server call :=
    h.mono fun _ _ hmem => List.mem_append_left _ hmem
  unfold Link.Offered
  rcases hstep.reliable_cases with ⟨-, hsame⟩ | ⟨bytes, rfl, ht⟩ | ⟨now, rfl, ht⟩ | ⟨now, queued, rfl, ht⟩
  · rw [hsame.pendingReliable]
    exact hmore
  · rw [ht, Transport.processAck]
    split
    · exact hmore
    · exact hmore.retain _
  · rw [ht]
    refine hmore.mapValues fun _ item hmem => ?_
    split
    · exact hmem
    · exact hmem
  · have hnew : (recorded now l.server.peer queued).bytes ∈ l.toClient ++ sends l.server (.record now queued) :=
      List.mem_append_right _ (List.mem_singleton_self _)
    rw [ht]
    by_cases hroom : l.server.peer.pendingReliable.entries.length < maxPendingReliablePerPeer
    · rw [sendQueued_of_room hroom]
      exact hmore.insert hnew
    · obtain ⟨oldest, -, holdest, -⟩ := oldestPending_spec (ne_nil_of_full (not_lt.mp hroom))
      rw [sendQueued_of_full (not_lt.mp hroom) holdest]
      exact hmore.erase.insert hnew

lemma pendingReliable_heardFrom (now : ℕ) (peer : PeerState) (packet : Bytes) :
    (heardFrom now peer packet).pendingReliable = peer.pendingReliable ∨
      (heardFrom now peer packet).pendingReliable = (Transport.processAck peer packet).pendingReliable := by
  unfold heardFrom
  split
  next =>
    refine .inr ?_
    unfold Transport.processAck
    split <;> rfl
  next =>
    dsimp only
    split
    next => exact .inl rfl
    next => split <;> exact .inl rfl
  all_goals exact .inl rfl

theorem offered_of_run {responsePayload : Bytes → Option Bytes} {l₀ l : Link} {ts : LinkHistory} (hbegins : l₀.Begins)
    (hrun : Run (Link.Steps responsePayload) l₀ ts l) : l.Offered := by
  refine (hrun.invariant ?_ fun l label l' hst h => ?_).2
  · obtain ⟨id, addr, connectionNumber, connectTime, created, hserver⟩ := hbegins.server
    unfold Link.Offered
    rw [hserver]
    exact .empty
  · cases hst with
    | call hcall hstep => exact offered_call h hstep
    | other => exact h.mono fun _ _ hmem => List.mem_append_left _ hmem
    | @arrive packet now hsent hkeeps =>
      unfold Link.Offered
      rcases pendingReliable_heardFrom now l.server.peer packet with heq | heq
      · exact heq.symm ▸ h
      · dsimp only
        rw [heq, Transport.processAck]
        split
        · exact h
        · exact h.retain _
    | client => exact h

/-! ### A packet of the server: the client answers -/

/-- Nothing that was sent is taken back. -/
lemma sent_sendReliable (channel : UInt8) (payload : Bytes) (w : ClientWorld) :
    w.sent ⊆ (final (sendReliable channel payload) w).sent := by
  cases hconnected : w.session.connected with
  | false =>
    have hsame : sendReliable channel payload w = .ok () w := by
      unfold sendReliable ReliableClient.sendReliableOrdered
      dsimp only
      rw [hconnected]
      rfl
    rw [final_of_ok hsame]
    exact List.Subset.refl _
  | true =>
    rw [final_sendReliable channel payload w hconnected]
    rcases sendToServer_cases _ _ with ⟨-, results, heq⟩ | ⟨-, results, heq⟩
    · rw [final_of_error heq]
      exact List.Subset.refl _
    · rw [final_of_ok heq]
      exact List.subset_append_left _ _

lemma exists_parsePacket {packet : Bytes} {property : PacketProperty} (hproperty : propertyOf packet = some property)
    (hlength : headerLen property ≤ packet.length) : ∃ parsed, parsePacket packet = some parsed := by
  cases packet with
  | nil => cases hproperty
  | cons header rest =>
    have hheader : PacketProperty.fromByte header = some property := hproperty
    unfold parsePacket
    dsimp only
    rw [hheader]
    dsimp only
    rw [if_neg (not_lt.mpr hlength)]
    exact ⟨_, rfl⟩

lemma parsePacket_of_numbered {packet : Bytes} {channelId : UInt8} {sequence : UInt16}
    (h : Numbered packet channelId sequence) : ∃ parsed, parsePacket packet = some parsed ∧
      parsed.property = .channeled ∧ parsed.sequence = some sequence ∧ parsed.channelId = some channelId := by
  obtain ⟨parsed, hparse⟩ := exists_parsePacket h.property h.length
  have hproperty : parsed.property = .channeled :=
    Option.some.inj ((property_of_parsePacket hparse).symm.trans h.property)
  obtain ⟨-, hsequence, hchannel, -⟩ := header_of_parsePacket hparse (.inl hproperty)
  refine ⟨parsed, hparse, hproperty, ?_, ?_⟩
  · rw [hsequence, h.sequence]
  · rw [hchannel, h.channelId]

/-- **The client answers every packet of a channel id it acknowledges**, unless its socket refuses. -/
theorem answers_numbered {responsePayload : Bytes → Option Bytes} {packet : Bytes} {channelId : UInt8}
    {sequence : UInt16} (h : Numbered packet channelId sequence) (hreliable : Acknowledged channelId) {w : ClientWorld}
    (hresults : w.sendResults = []) :
    sendAck w.session.connectionNumber channelId sequence ∈ (final (handlePacket responsePayload packet) w).sent := by
  obtain ⟨parsed, hparse, hproperty, hsequence, hchannel⟩ := parsePacket_of_numbered h
  have hsingle : propertyOf packet ≠ some .merged := ne_of_propertyOf h.property (by decide)
  have hsent : sendAckPacket channelId sequence w = .ok () { w with
      sendResults := [], sent := w.sent ++ [sendAck w.session.connectionNumber channelId sequence] } := by
    obtain ⟨session, now, utcTicks, sendResults, sent, numbered⟩ := w
    subst hresults
    rfl
  rw [handlePacket_of_not_merged responsePayload hsingle]
  unfold handleLeaf handleSingle
  rw [hparse]
  dsimp only
  rw [hproperty, hchannel, hsequence]
  dsimp only
  unfold handleChanneled
  dsimp only
  unfold Acknowledged at hreliable
  rw [if_pos hreliable, Option.getD_some, final_bind_ok hsent]
  -- whatever it does besides
  have hmem : sendAck w.session.connectionNumber channelId sequence ∈
      w.sent ++ [sendAck w.session.connectionNumber channelId sequence] :=
    List.mem_append_right _ (List.mem_singleton_self _)
  split
  next =>
    split
    next => exact hmem
    next challenge _ =>
      split
      next => exact hmem
      next response _ => exact sent_sendReliable _ _ _ hmem
  next => exact hmem

/-! ### The server hears it -/

lemma dispatch_sendAck (connectionNumber channelId : UInt8) (sequence : UInt16) :
    ∃ connectionNumber', dispatch (sendAck connectionNumber channelId sequence) = .packet .ack connectionNumber' := by
  have hproperty := fromByte_headerByte .ack connectionNumber
  refine ⟨connectionNumberOf (headerByte .ack connectionNumber), ?_⟩
  have hdispatch := @dispatch_of_header _ (leBytes 2 sequence.toNat ++ [channelId] ++
    setBit (List.replicate ((defaultWindowSize - 1) / 8 + 2) 0) (sequence.toNat % defaultWindowSize)) _ hproperty
      (by decide)
  have hmagic : (headerByte .ack connectionNumber :: (leBytes 2 sequence.toNat ++ [channelId] ++
      setBit (List.replicate ((defaultWindowSize - 1) / 8 + 2) 0) (sequence.toNat % defaultWindowSize))).take 6 ≠
        serverInfoMagicBytes := by
    intro heq
    rw [List.take_succ_cons, serverInfoMagicBytes] at heq
    rw [(List.cons.inj heq).1] at hproperty
    exact absurd hproperty (by decide)
  rw [if_neg fun h => hmagic h.1] at hdispatch
  exact hdispatch

/-- It clears its packet, and no other. -/
lemma lookup_heardFrom_sendAck {peer : PeerState} (hpending : ∀ key ∈ peer.pendingReliable, InRange key.sequence)
    {sequence : UInt16} (hsequence : InRange sequence) (now : ℕ) (connectionNumber channelId : UInt8)
    (key : PendingReliableKey) :
    (heardFrom now peer (sendAck connectionNumber channelId sequence)).pendingReliable.lookup key =
      if key = ⟨channelId, sequence⟩ then none else peer.pendingReliable.lookup key := by
  obtain ⟨connectionNumber', hdispatch⟩ := dispatch_sendAck connectionNumber channelId sequence
  have hheard : heardFrom now peer (sendAck connectionNumber channelId sequence) =
      Transport.processAck { peer with lastSeen := now } (sendAck connectionNumber channelId sequence) := by
    unfold heardFrom
    rw [hdispatch]
  rw [hheard]
  exact (@processAck_sendAck connectionNumber channelId sequence { peer with lastSeen := now } hpending hsequence).2 key

section Settled

variable {responsePayload : Bytes → Option Bytes} {l₀ l : Link} {ts : LinkHistory} (hbegins : l₀.Begins)
  (hrun : Run (Link.Steps responsePayload) l₀ ts l)

include hbegins hrun

/-- **A pending packet can be settled.**  Wherever a run has got to, a pending packet of a channel id the client
acknowledges is two steps from having come in and being taken from the pending packets, and no other packet with it. -/
theorem pending_packet_can_be_settled {channelId : UInt8} {index : ℕ} {payload : Bytes}
    (hreliable : Acknowledged channelId) (hpending : Pending channelId index payload l.server.peer) :
    ∃ received arrived l', Run (Link.Steps responsePayload) l₀ (ts ++ [received] ++ [arrived]) l' ∧
      packetAt l₀.server.peer channelId index payload ∈ l'.got ∧
      ∀ key, l'.server.peer.pendingReliable.lookup key =
        if key = ⟨channelId, sequenceOf index⟩ then none else l.server.peer.pendingReliable.lookup key := by
  obtain ⟨hserver, hnext, hnone⟩ := hbegins.fresh
  have hpeer := run_peerHistory hrun
  obtain ⟨item, hitem, hbytes⟩ := hpending
  have hnumber : (bare l.server).peer.connectionNumber = (bare l₀.server).peer.connectionNumber :=
    connectionNumber_of_run hpeer
  change l.server.peer.connectionNumber = l₀.server.peer.connectionNumber at hnumber
  have hpacket : item.bytes = packetAt l₀.server.peer channelId index payload := by
    rw [hbytes, packetAt, channeledBytes, channeledBytes, hnumber]
  have hoffered : packetAt l₀.server.peer channelId index payload ∈ l.toClient :=
    hpacket ▸ offered_of_run hbegins hrun _ item hitem
  generalize hgeneral : packetAt l₀.server.peer channelId index payload = packet at hoffered
  have hnumbered : Numbered packet channelId (sequenceOf index) :=
    hgeneral ▸ numbered_packetAt l₀.server.peer channelId index payload
  have hsingle : propertyOf packet ≠ some .merged := ne_of_propertyOf hnumbered.property (by decide)
  have hleaves := leaves_of_not_merged hsingle
  -- the client gets the packet and answers it
  have hgets : ∀ packet' ∈ (ClientAct.receive packet).gets, packet' ∈ l.toClient := by
    rw [ClientAct.gets, hleaves]
    exact List.forall_mem_singleton.mpr hoffered
  have hreceived := hrun.snoc (.client (.receive packet) {} hgets)
  have hanswer := @answers_numbered responsePayload packet channelId (sequenceOf index) hnumbered hreliable
    (l.client.enter {}) rfl
  -- the answer comes in
  have hkeeps : ¬ Renews (sendAck l.client.session.connectionNumber channelId (sequenceOf index)) := by
    obtain ⟨connectionNumber, hdispatch⟩ :=
      dispatch_sendAck l.client.session.connectionNumber channelId (sequenceOf index)
    rintro ⟨connectionNumber', h | h⟩
    · exact absurd (hdispatch.symm.trans h) (by simp)
    · exact absurd (hdispatch.symm.trans h) (by simp)
  refine ⟨_, _, _, hreceived.snoc (.arrive 0 hanswer hkeeps), ?_, fun key => ?_⟩
  · refine List.mem_append_right _ ?_
    rw [ClientAct.gets, hleaves]
    exact List.mem_singleton_self _
  · refine lookup_heardFrom_sendAck (fun key' hkey' => ?_) (inRange_sequenceOf index) 0 _ channelId key
    obtain ⟨item', hitem'⟩ := Dict.mem_iff_lookup.mp hkey'
    obtain ⟨index', payload', -, hsequence, -⟩ := wasSent_of_run hpeer hnext hnone key' item' hitem'
    exact hsequence ▸ inRange_sequenceOf index'

end Settled

/-- The payload recorded for the visitor. -/
theorem pending_packet_can_be_settled_recorded : ∃ ts l', Run (Link.Steps fun _ => none) visitorLink ts l' ∧
    packetAt visitorPeer 6 0 [7] ∈ l'.got ∧ l'.server.peer.pendingReliable.lookup ⟨6, sequenceOf 0⟩ = none := by
  obtain ⟨ts, hrun, -⟩ := exists_run_recordedLink fun _ => none
  have hpending : Pending 6 0 [7] recordedLink.server.peer := ⟨⟨[1, 0, 0, 6, 7], 15⟩, by decide +kernel, rfl⟩
  obtain ⟨received, arrived, l', hsettled, hgot, hlookup⟩ :=
    pending_packet_can_be_settled begins_visitorLink hrun (.inl rfl) hpending
  exact ⟨_, l', hsettled, hgot, (hlookup _).trans (if_pos rfl)⟩

/-! ### A packet of the client -/

/-- The peer with nothing to acknowledge but the packet. -/
lemma outgoingAcks_heardFrom_fresh {packet : Bytes} {channelId : UInt8} {sequence : UInt16} {connectionNumber : UInt8}
    (hnumbered : Numbered packet channelId sequence) (hreliable : Acknowledged channelId)
    (hdispatch : dispatch packet = .packet .channeled connectionNumber) (now : ℕ) {peer : PeerState}
    (hnone : peer.outgoingAcks = ∅) :
    (heardFrom now peer packet).outgoingAcks =
      (∅ : Dict UInt8 AckState).insert channelId ((AckState.fresh sequence).receive sequence) := by
  have hparse : parseMessagePacket .channeled packet =
      some (channelId / 4, DeliveryMethod.fromChannelId channelId, packet.drop 4) := by
    rw [parseMessagePacket, if_neg (not_lt.mpr hnumbered.length), hnumbered.channelId]
  unfold heardFrom
  unfold Acknowledged at hreliable
  rw [hdispatch, hparse]
  dsimp only
  rw [if_pos hreliable, hnumbered.channelId, hnumbered.sequence, queueAck]
  dsimp only
  rw [hnone, AList.lookup_empty]
  rfl

/-- The ack packet of one number is the one the client would send. -/
lemma buildAckPacket_receive (connectionNumber channelId : UInt8) (sequence : UInt16) :
    buildAckPacket connectionNumber channelId ((AckState.fresh sequence).receive sequence) =
      sendAck connectionNumber channelId sequence := by
  have hzero : relativeSequence sequence (AckState.fresh sequence).windowStart = 0 := by
    simp [relativeSequence, AckState.fresh]
  rw [sendAck_eq, AckState.receive]
  dsimp only
  rw [hzero, if_neg (by omega), if_neg (by decide)]
  rfl

lemma Numbered.channeledPacket {packet : Bytes} {channelId : UInt8} {sequence : UInt16}
    (h : Numbered packet channelId sequence) (hsequence : InRange sequence) : ChanneledPacket packet where
  property := by
    cases packet with
    | nil => cases h.property
    | cons header rest => exact h.property
  length := h.length
  sequence := h.sequence ▸ hsequence

/-- The client takes what the ack packet says from its pending packets. -/
lemma pending_of_receive_sendAck {responsePayload : Bytes → Option Bytes} {w : ClientWorld}
    (hpending : ∀ item ∈ w.session.pendingReliable, InRange item.sequence) {sequence : UInt16}
    (hsequence : InRange sequence) (connectionNumber channelId : UInt8) :
    (final (handlePacket responsePayload (sendAck connectionNumber channelId sequence)) w).session.pendingReliable =
      w.session.pendingReliable.filter fun item => ¬ (item.channelId = channelId ∧ item.sequence = sequence) := by
  have hproperty := propertyOf_sendAck connectionNumber channelId sequence
  have hlength : 4 ≤ (sendAck connectionNumber channelId sequence).length := by
    rw [sendAck_eq]
    exact length_buildAckPacket ..
  obtain ⟨parsed, hparse⟩ := exists_parsePacket hproperty hlength
  have hkind : parsed.property = .ack := Option.some.inj ((property_of_parsePacket hparse).symm.trans hproperty)
  obtain ⟨-, hnumber, hchannel, hpayload⟩ := header_of_parsePacket hparse (.inr hkind)
  rw [handlePacket_of_not_merged responsePayload (ne_of_propertyOf hproperty (by decide))]
  unfold handleLeaf handleSingle
  rw [hparse]
  dsimp only
  rw [hkind, hnumber, hchannel, hpayload]
  change w.session.pendingReliable.filter _ = _
  refine List.filter_congr fun item hitem => ?_
  have hchannelId : u8At (sendAck connectionNumber channelId sequence) 3 = channelId := rfl
  rw [stillPending_eq, ackBitSet_sendAck _ _ (hpending item hitem) hsequence, hchannelId]
  by_cases hsame : item.channelId = channelId
  · simp [hsame]
  · simp [hsame]

section Client

variable {responsePayload : Bytes → Option Bytes} {l₀ l : Link} {ts : LinkHistory} (hbegins : l₀.Begins)
  (hrun : Run (Link.Steps responsePayload) l₀ ts l)

include hbegins hrun

/-- **So can a packet of the client.**  Wherever a run has got to, a pending packet of the client that the server does
not take for a query is four steps from having come in and being taken from the pending packets, and no other packet
with it. -/
theorem pending_packet_of_client_can_be_settled {item : ReliableSend}
    (hpending : item ∈ l.client.session.pendingReliable)
    (hquery : ∀ payload, dispatch item.bytes ≠ .serverInfo payload) :
    ∃ drained arrived told received l',
      Run (Link.Steps responsePayload) l₀ (ts ++ [drained] ++ [arrived] ++ [told] ++ [received]) l' ∧
      item.bytes ∈ l'.arrived ∧
      l'.client.session.pendingReliable = l.client.session.pendingReliable.filter fun other =>
        ¬ (other.channelId = item.channelId ∧ other.sequence = item.sequence) := by
  have hsound := (Link.sound_of_run hbegins hrun).client
  obtain ⟨hitemNumbered, hsent, hnumbered⟩ := hsound.pending item hpending
  have hrange (other : ReliableSend) (hother : other ∈ l.client.session.pendingReliable) : InRange other.sequence := by
    obtain ⟨hmem, -, hof⟩ := hsound.pending other hother
    obtain ⟨n, hn⟩ := List.mem_iff_getElem?.mp hmem
    obtain ⟨channelId, -, hat⟩ := hsound.numbered n other.bytes hn
    rw [← hof.sequence, hat.sequence]
    exact inRange_sequenceOf n
  have hreliable : Acknowledged item.channelId := by
    obtain ⟨n, hn⟩ := List.mem_iff_getElem?.mp hitemNumbered
    obtain ⟨channelId, hchannel, hat⟩ := hsound.numbered n item.bytes hn
    rwa [← hnumbered.channelId, hat.channelId]
  obtain ⟨connectionNumber, hdispatch⟩ : ∃ connectionNumber, dispatch item.bytes = .packet .channeled connectionNumber :=
    (hnumbered.channeledPacket (hrange item hpending)).dispatch.resolve_left fun ⟨payload, h⟩ => hquery payload h
  have hkeeps : ¬ Renews item.bytes := by
    rintro ⟨connectionNumber', h | h⟩
    · exact absurd (hdispatch.symm.trans h) (by simp)
    · exact absurd (hdispatch.symm.trans h) (by simp)
  -- with nothing else to acknowledge, the packet comes in and is acknowledged
  have hdrained := hrun.snoc (@Link.Steps.call _ l .drainAcks _ (fun _ => PeerCall.noConfusion) (.drainAcks l.server))
  have harrived := hdrained.snoc (.arrive 0 hsent hkeeps)
  have htold := harrived.snoc (@Link.Steps.call _ _ .drainAcks _ (fun _ => PeerCall.noConfusion) (.drainAcks _))
  have hacks := @outgoingAcks_heardFrom_fresh _ _ _ _ hnumbered hreliable hdispatch 0
    (Transport.drainAcks l.server.peer).1 rfl
  generalize heardFrom 0 (Transport.drainAcks l.server.peer).1 item.bytes = peer at hacks htold
  have htells : sendAck peer.connectionNumber item.channelId item.sequence ∈
      sends { l.server with peer } .drainAcks := by
    rw [← buildAckPacket_receive]
    refine List.mem_map.mpr ⟨⟨item.channelId, (AckState.fresh item.sequence).receive item.sequence⟩, ?_, rfl⟩
    rw [hacks]
    exact List.mem_cons_self
  -- the client gets the ack packet
  have hsingle : propertyOf (sendAck peer.connectionNumber item.channelId item.sequence) ≠ some .merged :=
    ne_of_propertyOf (propertyOf_sendAck _ _ _) (by decide)
  refine ⟨_, _, _, _, _, htold.snoc (.client (.receive (sendAck peer.connectionNumber item.channelId item.sequence)) {}
    ?_), List.mem_append_right _ (List.mem_singleton_self _), ?_⟩
  · rw [ClientAct.gets, leaves_of_not_merged hsingle]
    exact List.forall_mem_singleton.mpr (List.mem_append_right _ htells)
  · exact @pending_of_receive_sendAck responsePayload (l.client.enter {}) hrange _ (hrange item hpending) _ _

end Client

/-- A packet of the client on channel 1. -/
theorem pending_packet_of_client_can_be_settled_sent : ∃ ts l', Run (Link.Steps fun _ => none) visitorLink ts l' ∧
    [1, 0, 0, 6, 9] ∈ l'.arrived ∧ l'.client.session.pendingReliable = [] := by
  have hsent := Run.nil.snoc (@Link.Steps.client (fun _ => none) visitorLink (.sendReliable 1 [9]) {}
    fun packet hpacket => absurd hpacket List.not_mem_nil)
  have hpending : (visitorLink.client.outcome (fun _ => none) (.sendReliable 1 [9]) {}).session.pendingReliable =
      [⟨6, 0, [1, 0, 0, 6, 9], some 0⟩] := by
    decide +kernel
  obtain ⟨_, _, _, _, l', hsettled, harrived, hrest⟩ := pending_packet_of_client_can_be_settled begins_visitorLink hsent
    (hpending ▸ List.mem_singleton_self _) fun payload h => (by cases h)
  refine ⟨_, l', hsettled, harrived, hrest.trans ?_⟩
  dsimp only
  rw [hpending]
  rfl

end BasisRust.Client
