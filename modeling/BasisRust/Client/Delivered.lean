import BasisRust.Client.Records

/-!
# What is forgotten has come in

Either end of a link keeps a reliable packet until an ack packet covers it.  As long as no number is given out twice,
what has been taken from the pending packets for an ack has come in at the other end, however the network loses,
repeats and reorders packets: an ack packet never says more than what its sender has got, and it says it of the packet
that was sent under the number.
-/

namespace BasisRust.Client

open Lib Protocol Transport

/-! ### The server's history -/

/-- The peer without what its reliable packets do not depend on. -/
def bare (s : PeerRun) : PeerRun := { s with peer := { s.peer with lastSeen := 0, outgoingAcks := ∅ } }

/-- What a step of the link is for the peer. -/
def peerCalls : LinkLabel → List PeerCall
  | .call call => [call]
  | .arrive _ packet =>
    match dispatch packet with
    | .packet .ack _ => [.processAck packet]
    | _ => []
  | _ => []

abbrev LinkHistory := List (Transition Link LinkLabel)

/-- The history of the server's end. -/
def peerHistory (ts : LinkHistory) : PeerHistory :=
  ts.flatMap fun tr => (peerCalls tr.label).map fun call => ⟨bare tr.src.server, call, bare tr.dst.server⟩

lemma peerHistory_concat (ts : LinkHistory) (tr : Transition Link LinkLabel) : peerHistory (ts ++ [tr]) =
    peerHistory ts ++ (peerCalls tr.label).map fun call => ⟨bare tr.src.server, call, bare tr.dst.server⟩ := by
  simp [peerHistory]

lemma bare_step {s t : PeerRun} {call : PeerCall} (h : PeerStep s call t) : PeerStep (bare s) call (bare t) := by
  cases h with
  | send _ now packet =>
    obtain ⟨channel, delivery, payload⟩ := packet
    have hbare : bare { s with peer := sendSlice now s.peer (channel, delivery, payload) } =
        { bare s with peer := sendSlice now (bare s).peer (channel, delivery, payload) } := by
      cases delivery <;> rfl
    rw [hbare]
    exact .send (bare s) now _
  | processAck _ bytes =>
    have hbare : bare { s with peer := Transport.processAck s.peer bytes } =
        { bare s with peer := Transport.processAck (bare s).peer bytes } := by
      unfold bare Transport.processAck
      split <;> rfl
    rw [hbare]
    exact .processAck (bare s) bytes
  | ping _ now =>
    have hbare : bare { s with peer := (pingIfDue now s.peer).1 } =
        { bare s with peer := (pingIfDue now (bare s).peer).1 } := by
      unfold bare pingIfDue
      dsimp only
      split <;> rfl
    rw [hbare]
    exact .ping (bare s) now
  | drainAcks _ => exact .drainAcks (bare s)
  | take peer => exact .take (bare ⟨peer, []⟩).peer
  | record peer now queued rest => exact .record (bare ⟨peer, []⟩).peer now queued rest
  | resend peer now => exact .resend (bare ⟨peer, []⟩).peer now

/-- A packet that comes in changes nothing but as an ack packet. -/
lemma bare_heardFrom (now : ℕ) (s : PeerRun) (packet : Bytes) :
    (∃ connectionNumber, dispatch packet = .packet .ack connectionNumber ∧
        bare { s with peer := heardFrom now s.peer packet } =
          { bare s with peer := Transport.processAck (bare s).peer packet }) ∨
      (∀ connectionNumber, dispatch packet ≠ .packet .ack connectionNumber) ∧
        bare { s with peer := heardFrom now s.peer packet } = bare s := by
  cases hdispatch : dispatch packet with
  | packet property connectionNumber =>
    cases property with
    | ack =>
      refine .inl ⟨connectionNumber, rfl, ?_⟩
      unfold heardFrom Transport.processAck bare
      rw [hdispatch]
      dsimp only
      split <;> rfl
    | channeled =>
      refine .inr ⟨fun _ h => (by cases h), ?_⟩
      unfold heardFrom
      rw [hdispatch]
      dsimp only
      split
      next => rfl
      next => split <;> rfl
    | _ => exact .inr ⟨fun _ h => (by cases h), by simp [heardFrom, hdispatch, bare]⟩
  | _ => exact .inr ⟨fun _ h => (by cases h), by simp [heardFrom, hdispatch, bare]⟩

/-- **The server's end of a link runs as a peer does.** -/
theorem run_peerHistory {responsePayload : Bytes → Option Bytes} {l₀ l : Link} {ts : LinkHistory}
    (hrun : Run (Link.Steps responsePayload) l₀ ts l) : Run PeerStep (bare l₀.server) (peerHistory ts) (bare l.server) := by
  induction hrun with
  | nil => exact .nil
  | @snoc ts l label l' hrun hst ih =>
    rw [peerHistory_concat]
    cases hst with
    | call hcall hstep => exact ih.snoc (bare_step hstep)
    | other hchanneled hack =>
      change Run PeerStep (bare l₀.server) (peerHistory ts ++ []) (bare l.server)
      rw [List.append_nil]
      exact ih
    | @arrive packet now hsent hkeeps =>
      rcases bare_heardFrom now l.server packet with ⟨connectionNumber, hdispatch, hbare⟩ | ⟨hdispatch, hbare⟩
      · simp only [peerCalls, hdispatch, List.map_cons, List.map_nil, hbare]
        exact ih.snoc (.processAck (bare l.server) packet)
      · have hnone : peerCalls (.arrive now packet) = [] := by
          unfold peerCalls
          dsimp only
          split
          next connectionNumber h => exact absurd h (hdispatch connectionNumber)
          next => rfl
        simp only [hnone, List.map_nil, List.append_nil, hbare]
        exact ih
    | client act io hgets =>
      change Run PeerStep (bare l₀.server) (peerHistory ts ++ []) (bare l.server)
      rw [List.append_nil]
      exact ih

/-! ### Ack packets -/

lemma propertyOf_of_dispatch {packet : Bytes} {property : PacketProperty} {connectionNumber : UInt8}
    (h : dispatch packet = .packet property connectionNumber) : propertyOf packet = some property := by
  unfold dispatch at h
  split at h
  next => cases h
  next =>
    cases packet with
    | nil => cases h
    | cons header rest =>
      dsimp only at h
      split at h
      next => cases h
      next property' hproperty =>
        cases h
        exact hproperty

/-- A packet is put down for an ack packet if it is channeled. -/
lemma outgoingAcks_heardFrom (now : ℕ) (peer : PeerState) (packet : Bytes) :
    (heardFrom now peer packet).outgoingAcks = peer.outgoingAcks ∨
      propertyOf packet = some .channeled ∧
        (heardFrom now peer packet).outgoingAcks =
          (queueAck peer (u8At packet 3) (u16At packet 1)).outgoingAcks := by
  unfold heardFrom
  cases hdispatch : dispatch packet with
  | packet property connectionNumber =>
    cases property with
    | ack =>
      refine .inl ?_
      unfold Transport.processAck
      dsimp only
      split <;> rfl
    | channeled =>
      dsimp only
      split
      next => exact .inl rfl
      next =>
        split
        next => exact .inr ⟨propertyOf_of_dispatch hdispatch, rfl⟩
        next => exact .inl rfl
    | _ => exact .inl rfl
  | _ => exact .inl rfl

/-- The ack states are sound for the packets. -/
def SoundAcks (arrived : List Bytes) (acks : Dict UInt8 AckState) : Prop :=
  acks.All fun channelId ack => ack.Sound (Got arrived channelId)

lemma soundAcks_heardFrom {arrived : List Bytes} {peer : PeerState} {packet : Bytes}
    (hacks : SoundAcks arrived peer.outgoingAcks)
    (hnumbered : propertyOf packet = some .channeled → ∃ channelId n, Numbered packet channelId (sequenceOf n))
    (now : ℕ) : SoundAcks (arrived ++ [packet]) (heardFrom now peer packet).outgoingAcks := by
  have hmore : SoundAcks (arrived ++ [packet]) peer.outgoingAcks :=
    hacks.mono fun channelId ack h => h.mono fun sequence hgot => hgot.mono (List.subset_append_left _ _)
  rcases outgoingAcks_heardFrom now peer packet with hsame | ⟨hproperty, hqueued⟩
  · rw [hsame]
    exact hmore
  · rw [hqueued]
    obtain ⟨channelId, n, hpacket⟩ := hnumbered hproperty
    obtain ⟨rfl, hsequence⟩ : u8At packet 3 = channelId ∧ u16At packet 1 = sequenceOf n :=
      ⟨hpacket.channelId, hpacket.sequence⟩
    rw [hsequence]
    have hgot : Got (arrived ++ [packet]) (u8At packet 3) (sequenceOf n) :=
      ⟨packet, List.mem_append_right _ (List.mem_singleton_self _), hpacket⟩
    obtain ⟨ack, hack, hsound⟩ := sound_queueAck (inRange_sequenceOf n) hgot fun ack h => hmore _ ack h
    intro c ack' hlookup
    by_cases hsame : c = u8At packet 3
    · subst hsame
      obtain rfl := Option.some.inj (hack.symm.trans hlookup)
      exact hsound
    · rw [lookup_queueAck, if_neg hsame] at hlookup
      exact hmore c ack' hlookup

/-- No call of the server touches its ack states but to take them. -/
lemma outgoingAcks_step {s t : PeerRun} {call : PeerCall} (h : PeerStep s call t) :
    t.peer.outgoingAcks = s.peer.outgoingAcks ∨ t.peer.outgoingAcks = ∅ := by
  cases h with
  | send _ now packet =>
    obtain ⟨channel, delivery, payload⟩ := packet
    cases delivery <;> exact .inl rfl
  | processAck _ bytes =>
    refine .inl ?_
    unfold Transport.processAck
    dsimp only
    split <;> rfl
  | ping _ now =>
    refine .inl ?_
    unfold pingIfDue
    dsimp only
    split <;> rfl
  | drainAcks => exact .inr rfl
  | take => exact .inl rfl
  | record => exact .inl rfl
  | resend => exact .inl rfl

lemma soundAcks_step {arrived : List Bytes} {s t : PeerRun} {call : PeerCall} (h : PeerStep s call t)
    (hacks : SoundAcks arrived s.peer.outgoingAcks) : SoundAcks arrived t.peer.outgoingAcks := by
  rcases outgoingAcks_step h with heq | heq
  · rw [heq]
    exact hacks
  · rw [heq]
    exact .empty

/-- An ack packet built of a sound state says what has come in. -/
lemma tells_buildAckPacket {arrived : List Bytes} {channelId : UInt8} {ack : AckState}
    (h : ack.Sound (Got arrived channelId)) (connectionNumber : UInt8) :
    Tells arrived (buildAckPacket connectionNumber channelId ack) := fun _ hrange hset =>
  seen_of_ackBitSet h hrange hset

lemma Tells.mono {arrived more : List Bytes} {packet : Bytes} (h : Tells arrived packet) (hmore : arrived ⊆ more) :
    Tells more packet := fun sequence hrange hset => (h sequence hrange hset).mono hmore

/-! ### What the server sends -/

/-- The channel id is one of packets that are not sent again. -/
def IsSequenced (channelId : UInt8) : Prop := DeliveryMethod.fromChannelId channelId = .sequenced

lemma isSequenced_channelId (channel : UInt8) : IsSequenced (DeliveryMethod.channelId channel .sequenced) := by
  have hall : ∀ c : UInt8, DeliveryMethod.fromChannelId (DeliveryMethod.channelId c .sequenced) = .sequenced := by
    decide +kernel
  exact hall channel

/-- **What a call of the server sends**: a packet that is neither channeled nor an ack packet, an ack packet of one of
its ack states, a sequenced packet, the packet of what it records, or a pending one again. -/
inductive SentBy (s : PeerRun) : PeerCall → Bytes → Prop
  | plain {call : PeerCall} {packet : Bytes} (hchanneled : propertyOf packet ≠ some .channeled)
      (hack : propertyOf packet ≠ some .ack) : SentBy s call packet
  | ack {channelId : UInt8} {ack : AckState} (hack : s.peer.outgoingAcks.lookup channelId = some ack) :
      SentBy s .drainAcks (buildAckPacket s.peer.connectionNumber channelId ack)
  | sequenced {call : PeerCall} {packet : Bytes} (hchanneled : propertyOf packet = some .channeled)
      (hsequenced : IsSequenced (u8At packet 3)) : SentBy s call packet
  | recorded {now : ℕ} {queued : UInt8 × Bytes} :
      SentBy s (.record now queued) (sendQueued now s.peer queued).2
  | again {now : ℕ} {key : PendingReliableKey} {item : PendingReliable}
      (hpending : s.peer.pendingReliable.lookup key = some item) : SentBy s (.resend now) item.bytes

lemma ne_of_propertyOf {packet : Bytes} {property other : PacketProperty} (h : propertyOf packet = some property)
    (hother : property ≠ other) : propertyOf packet ≠ some other := by
  rw [h]
  exact fun heq => hother (Option.some.inj heq)

lemma sentBy_of_mem {s : PeerRun} {call : PeerCall} {packet : Bytes} (h : packet ∈ sends s call) :
    SentBy s call packet := by
  cases call with
  | send now sent =>
    obtain ⟨channel, delivery, payload⟩ := sent
    unfold sends at h
    dsimp only at h
    cases delivery with
    | unreliable =>
      obtain rfl := List.mem_singleton.mp h
      have hproperty := propertyOf_headerByte .unreliable s.peer.connectionNumber (channel :: payload)
      exact .plain (ne_of_propertyOf hproperty (by decide)) (ne_of_propertyOf hproperty (by decide))
    | sequenced =>
      obtain rfl := List.mem_singleton.mp h
      exact .sequenced (propertyOf_headerByte .channeled s.peer.connectionNumber _) (isSequenced_channelId channel)
    | _ => exact absurd h List.not_mem_nil
  | processAck bytes => exact absurd h List.not_mem_nil
  | ping now =>
    unfold sends pingIfDue at h
    dsimp only at h
    split at h
    next =>
      obtain rfl := List.mem_singleton.mp h
      have hproperty := propertyOf_headerByte .ping s.peer.connectionNumber (putU16 s.peer.nextPingSequence)
      exact .plain (ne_of_propertyOf hproperty (by decide)) (ne_of_propertyOf hproperty (by decide))
    next => exact absurd h List.not_mem_nil
  | drainAcks =>
    obtain ⟨e, he, rfl⟩ := List.mem_map.mp h
    exact .ack (AList.mem_lookup_iff.mpr he)
  | take => exact absurd h List.not_mem_nil
  | record now queued =>
    obtain rfl := List.mem_singleton.mp h
    exact .recorded
  | resend now =>
    obtain ⟨e, he, rfl⟩ := List.mem_map.mp h
    exact .again (AList.mem_lookup_iff.mpr (List.mem_of_mem_filter he))

/-! ### Both ends -/

/-- The packet is the one of a payload recorded so far. -/
def Recorded (peer : PeerState) (ts : PeerHistory) (packet : Bytes) : Prop :=
  ∃ channelId index payload, (recordedOn channelId ts)[index]? = some payload ∧
    packet = packetAt peer channelId index payload

lemma Recorded.append {peer : PeerState} {ts : PeerHistory} {packet : Bytes} (h : Recorded peer ts packet)
    (more : PeerHistory) : Recorded peer (ts ++ more) packet := by
  obtain ⟨channelId, index, payload, hrecorded, heq⟩ := h
  refine ⟨channelId, index, payload, ?_, heq⟩
  obtain ⟨hlt, -⟩ := List.getElem?_eq_some_iff.mp hrecorded
  rw [recordedOn, List.flatMap_append]
  exact (List.getElem?_append_left hlt).trans hrecorded

lemma numbered_packetAt (peer : PeerState) (channelId : UInt8) (index : ℕ) (payload : Bytes) :
    Numbered (packetAt peer channelId index payload) channelId (sequenceOf index) where
  property := propertyOf_headerByte .channeled peer.connectionNumber _
  length := by
    have hlength : (packetAt peer channelId index payload).length = 4 + payload.length := by
      simp [packetAt, channeledBytes, Protocol.putU8, Protocol.putU16, Protocol.putBytes]
      omega
    omega
  channelId := rfl
  sequence := u16At_of_slice rfl

/-- **What holds of both ends.**  The ack states of the server are sound for what has come in, and so is every ack
packet it has sent; what it has sent of its reliable packets it has recorded; and it has heard no ack packet that has
not come in. -/
structure Link.Sound (peer₀ : PeerState) (ts : PeerHistory) (l : Link) : Prop where
  client : ClientSound l.arrived l.got l.client
  acks : SoundAcks l.arrived l.server.peer.outgoingAcks
  told : ∀ packet ∈ l.toClient, propertyOf packet = some .ack → Tells l.arrived packet
  sent : ∀ packet ∈ l.toClient, propertyOf packet = some .channeled →
    IsSequenced (u8At packet 3) ∨ Recorded peer₀ ts packet
  gets : ∀ packet ∈ l.got, packet ∈ l.toClient
  heard : ∀ tr ∈ ts, ∀ bytes, tr.label = .processAck bytes → bytes ∈ l.arrived ∧ propertyOf bytes = some .ack

namespace Link

section Step

variable {responsePayload : Bytes → Option Bytes} {peer₀ : PeerState} {ts : PeerHistory} {l : Link}

lemma Begins.sound (h : l.Begins) : l.Sound peer₀ [] where
  client := by
    obtain ⟨hsequence, hpending⟩ := h.session
    obtain ⟨hsent, hnumbered⟩ := h.sent
    obtain ⟨-, harrived, hgot⟩ := h.network
    refine ⟨?_, ?_, ?_, ?_, ?_, ?_, ?_⟩
    · rw [hsequence, hnumbered]
      rfl
    · simp [hnumbered]
    · simp [hsent]
    · simp [hsent]
    · simp [hpending]
    · simp [harrived]
    · simp [hnumbered]
  acks := by
    obtain ⟨id, addr, connectionNumber, connectTime, now, hserver⟩ := h.server
    rw [hserver]
    exact .empty
  told := by simp [h.network.1]
  sent := by simp [h.network.1]
  gets := by simp [h.network.2.2]
  heard := by simp

section Call

variable {call : PeerCall} {server : PeerRun} (hpeer : Run PeerStep ⟨peer₀, []⟩ ts (bare l.server))
  (hnext : peer₀.nextReliableSequence = ∅) (hpending : peer₀.pendingReliable = ∅)

include hpeer hnext hpending

/-- What a call sends that was not there is recorded by the call or was before. -/
lemma recorded_of_sentBy {packet : Bytes} (h : SentBy l.server call packet) (hack : propertyOf packet ≠ some .ack)
    (hchanneled : propertyOf packet = some .channeled) (dst : PeerRun) :
    IsSequenced (u8At packet 3) ∨ Recorded peer₀ (ts ++ [⟨bare l.server, call, dst⟩]) packet := by
  cases h with
  | plain hplain => exact absurd hchanneled hplain
  | ack => exact absurd (propertyOf_headerByte .ack l.server.peer.connectionNumber _) hack
  | sequenced _ hsequenced => exact .inl hsequenced
  | @recorded now queued =>
    obtain ⟨channelId, payload⟩ := queued
    refine .inr ⟨channelId, (recordedOn channelId ts).length, payload, ?_, ?_⟩
    · rw [recordedOn_concat, PeerCall.records_record, if_pos rfl, List.getElem?_concat_length]
    · exact sendQueued_snd hpeer hnext channelId now payload
  | @again now key item hitem =>
    obtain ⟨index, payload, hrecorded, -, hbytes⟩ := wasSent_of_run hpeer hnext hpending key item hitem
    have hbefore : Recorded peer₀ ts item.bytes := ⟨key.channelId, index, payload, hrecorded, hbytes⟩
    exact .inr (hbefore.append _)

/-- What a call sends as an ack packet is so. -/
lemma tells_of_sentBy {packet : Bytes} {arrived : List Bytes} (hacks : SoundAcks arrived l.server.peer.outgoingAcks)
    (h : SentBy l.server call packet) (hack : propertyOf packet = some .ack) : Tells arrived packet := by
  cases h with
  | plain _ hplain => exact absurd hack hplain
  | ack hlookup => exact tells_buildAckPacket (hacks _ _ hlookup) l.server.peer.connectionNumber
  | sequenced hchanneled => exact absurd hack (ne_of_propertyOf hchanneled (by decide))
  | @recorded now queued =>
    have hproperty := propertyOf_headerByte .channeled l.server.peer.connectionNumber
    exact absurd hack (ne_of_propertyOf (hproperty _) (by decide))
  | @again now key item hitem =>
    obtain ⟨index, payload, -, -, hbytes⟩ := wasSent_of_run hpeer hnext hpending key item hitem
    have hproperty := (numbered_packetAt peer₀ key.channelId index payload).property
    rw [hbytes] at hack
    exact absurd hack (ne_of_propertyOf hproperty (by decide))

/-- A call of the server. -/
lemma Sound.after_call (h : l.Sound peer₀ ts) (hcall : ∀ bytes, call ≠ .processAck bytes)
    (hstep : PeerStep l.server call server) :
    Sound peer₀ (ts ++ [⟨bare l.server, call, bare server⟩])
      { l with server, toClient := l.toClient ++ sends l.server call } where
  client := h.client
  acks := soundAcks_step hstep h.acks
  told := List.forall_mem_append.mpr ⟨h.told, fun packet hpacket hack =>
    tells_of_sentBy hpeer hnext hpending h.acks (sentBy_of_mem hpacket) hack⟩
  sent := by
    refine List.forall_mem_append.mpr ⟨fun packet hpacket hproperty => ?_, fun packet hpacket hproperty => ?_⟩
    · exact (h.sent packet hpacket hproperty).imp_right (·.append _)
    · exact recorded_of_sentBy hpeer hnext hpending (sentBy_of_mem hpacket) (ne_of_propertyOf hproperty (by decide))
        hproperty _
  gets packet hpacket := List.mem_append_left _ (h.gets packet hpacket)
  heard := List.forall_mem_append.mpr ⟨h.heard, List.forall_mem_singleton.mpr fun bytes hlabel =>
    absurd hlabel (hcall bytes)⟩

end Call

/-- A packet of the client comes in. -/
lemma Sound.after_arrive (h : l.Sound peer₀ ts) {packet : Bytes} (hsent : packet ∈ l.client.sent) (now : ℕ) :
    Sound peer₀ (ts ++ (peerCalls (.arrive now packet)).map fun call =>
        ⟨bare l.server, call, bare { l.server with peer := heardFrom now l.server.peer packet }⟩)
      { l with
        server := { l.server with peer := heardFrom now l.server.peer packet }
        arrived := l.arrived ++ [packet] } where
  client := h.client.arrive hsent
  acks := by
    refine soundAcks_heardFrom h.acks (fun hproperty => ?_) now
    obtain ⟨n, hn⟩ := List.mem_iff_getElem?.mp (h.client.sent packet hsent hproperty)
    obtain ⟨channelId, -, hnumbered⟩ := h.client.numbered n packet hn
    exact ⟨channelId, n, hnumbered⟩
  told told htold hproperty := (h.told told htold hproperty).mono (List.subset_append_left _ _)
  sent told htold hproperty := (h.sent told htold hproperty).imp_right (·.append _)
  gets := h.gets
  heard := by
    refine List.forall_mem_append.mpr ⟨fun tr htr bytes hlabel => ?_, fun tr htr bytes hlabel => ?_⟩
    · obtain ⟨harrived, hproperty⟩ := h.heard tr htr bytes hlabel
      exact ⟨List.mem_append_left _ harrived, hproperty⟩
    · obtain ⟨call, hcall, rfl⟩ := List.mem_map.mp htr
      unfold peerCalls at hcall
      dsimp only at hcall hlabel
      split at hcall
      next connectionNumber hdispatch =>
        obtain rfl := List.mem_singleton.mp hcall
        obtain rfl := PeerCall.processAck.inj hlabel
        exact ⟨List.mem_append_right _ (List.mem_singleton_self _), propertyOf_of_dispatch hdispatch⟩
      next => exact absurd hcall List.not_mem_nil

/-- The client does something. -/
lemma Sound.after_client (h : l.Sound peer₀ ts) {act : ClientAct} (hgets : ∀ packet ∈ act.gets, packet ∈ l.toClient)
    (io : ClientIo) :
    Sound peer₀ ts { l with client := l.client.outcome responsePayload act io, got := l.got ++ act.gets } where
  client := by
    refine keepsSound_run responsePayload (fun packet hpacket => List.mem_append_right _ hpacket)
      (fun packet hpacket => h.told packet ?_) _ ((h.client.get act.gets).enter io)
    rcases List.mem_append.mp hpacket with hgot | hgot
    · exact h.gets packet hgot
    · exact hgets packet hgot
  acks := h.acks
  told := h.told
  sent := h.sent
  gets := List.forall_mem_append.mpr ⟨h.gets, hgets⟩
  heard := h.heard

lemma Sound.after_other (h : l.Sound peer₀ ts) {packet : Bytes} (hchanneled : propertyOf packet ≠ some .channeled)
    (hack : propertyOf packet ≠ some .ack) : Sound peer₀ ts { l with toClient := l.toClient ++ [packet] } where
  client := h.client
  acks := h.acks
  told := List.forall_mem_append.mpr ⟨h.told, List.forall_mem_singleton.mpr fun hproperty => absurd hproperty hack⟩
  sent := List.forall_mem_append.mpr
    ⟨h.sent, List.forall_mem_singleton.mpr fun hproperty => absurd hproperty hchanneled⟩
  gets packet hpacket := List.mem_append_left _ (h.gets packet hpacket)
  heard := h.heard

/-- The peer of the server has neither numbers nor pending packets at first. -/
lemma Begins.fresh {l₀ : Link} (h : l₀.Begins) : bare l₀.server = ⟨(bare l₀.server).peer, []⟩ ∧
    (bare l₀.server).peer.nextReliableSequence = ∅ ∧ (bare l₀.server).peer.pendingReliable = ∅ := by
  obtain ⟨id, addr, connectionNumber, connectTime, created, hserver⟩ := h.server
  rw [hserver]
  exact ⟨rfl, rfl, rfl⟩

/-- **Both ends are sound all along.** -/
theorem sound_of_run {l₀ : Link} {ts : LinkHistory} (hbegins : l₀.Begins)
    (hrun : Run (Link.Steps responsePayload) l₀ ts l) : l.Sound (bare l₀.server).peer (peerHistory ts) := by
  obtain ⟨hserver, hnext, hpending⟩ := hbegins.fresh
  induction hrun with
  | nil => exact hbegins.sound
  | @snoc ts l label l' hrun hst ih =>
    have hpeer := run_peerHistory hrun
    rw [hserver] at hpeer
    rw [peerHistory_concat]
    cases hst with
    | call hcall hstep => exact ih.after_call hpeer hnext hpending hcall hstep
    | other hchanneled hack =>
      change Sound _ (peerHistory ts ++ []) _
      rw [List.append_nil]
      exact ih.after_other hchanneled hack
    | arrive now hsent hkeeps => exact ih.after_arrive hsent now
    | client act io hgets =>
      change Sound _ (peerHistory ts ++ []) _
      rw [List.append_nil]
      exact ih.after_client hgets io

end Step

end Link

/-! ### The server forgets -/

/-- The reliable payloads the server has queued on the channel id, in their order. -/
def enqueuedFor (channelId : UInt8) (ts : LinkHistory) : List Bytes := enqueuedOn channelId (peerHistory ts)

/-- Those it has given a number. -/
def recordedFor (channelId : UInt8) (ts : LinkHistory) : List Bytes := recordedOn channelId (peerHistory ts)

lemma recordedFor_client (channelId : UInt8) (ts : LinkHistory) (src dst : Link) (act : ClientAct) (io : ClientIo) :
    recordedFor channelId (ts ++ [⟨src, .client act io, dst⟩]) = recordedFor channelId ts := by
  rw [recordedFor, peerHistory_concat]
  change recordedOn channelId (peerHistory ts ++ []) = _
  rw [List.append_nil]
  rfl

/-- The call of the server took the packet away, as the one sent longest ago of 4096. -/
def EvictedIn (channelId : UInt8) (index : ℕ) (payload : Bytes) (tr : Transition Link LinkLabel) : Prop :=
  ∃ call, tr.label = .call call ∧ Evicted channelId index payload ⟨tr.src.server, call, tr.dst.server⟩

/-- No number is given out again while not all have been. -/
lemma not_reuses_of_short {s₀ s : PeerRun} {ts : PeerHistory} (hrun : Run PeerStep s₀ ts s)
    (hnext : s₀.peer.nextReliableSequence = ∅) (hpending : s₀.peer.pendingReliable = ∅) {channelId : UInt8}
    (hshort : (recordedOn channelId ts).length ≤ maxSequence) (sequence : UInt16) :
    ∀ tr ∈ ts, ¬ Reuses ⟨channelId, sequence⟩ tr.src tr.label := by
  rintro tr htr ⟨hmem, now, queued, hlabel, hkey⟩
  obtain ⟨before, after, rfl⟩ := List.append_of_mem htr
  obtain ⟨hchannel, hsequence⟩ := PendingReliableKey.mk.inj hkey
  subst hchannel
  -- the number has been given to an earlier payload of the channel id
  have hbefore := hrun.split
  obtain ⟨item, hitem⟩ := Dict.mem_iff_lookup.mp hmem
  obtain ⟨index, payload, hrecorded, hearlier, -⟩ := wasSent_of_run hbefore hnext hpending _ item hitem
  obtain ⟨hlt, -⟩ := List.getElem?_eq_some_iff.mp hrecorded
  have hcount : (recordedOn queued.1 (before ++ tr :: after)).length ≥ (recordedOn queued.1 before).length + 1 := by
    rw [recordedOn, List.flatMap_append, List.flatMap_cons, hlabel, PeerCall.records_record, if_pos rfl]
    simp only [List.length_append, List.length_singleton]
    change (recordedOn queued.1 before).length + _ ≥ _
    omega
  rw [hsequence, nextOn_eq hbefore hnext] at hearlier
  dsimp only at hlt
  unfold maxSequence at hshort
  have hsame := sequenceOf_inj (by omega) (by omega) hearlier
  omega

lemma evictedIn_of_evicted {ts : LinkHistory} {channelId : UInt8} {index : ℕ} {payload : Bytes}
    (h : ∃ tr ∈ peerHistory ts, Evicted channelId index payload tr) :
    ∃ tr ∈ ts, EvictedIn channelId index payload tr := by
  obtain ⟨bareTr, hbare, hevicted⟩ := h
  obtain ⟨tr, htr, hcalls⟩ := List.mem_flatMap.mp hbare
  obtain ⟨call, hcall, rfl⟩ := List.mem_map.mp hcalls
  refine ⟨tr, htr, call, ?_, hevicted⟩
  obtain ⟨-, ⟨now, queued, hlabel⟩, -⟩ := hevicted
  obtain rfl : call = .record now queued := hlabel
  obtain ⟨src, label, dst⟩ := tr
  unfold peerCalls at hcall
  dsimp only at hcall ⊢
  split at hcall
  next call' => rw [List.mem_singleton.mp hcall]
  next =>
    split at hcall
    next => exact absurd (List.mem_singleton.mp hcall) PeerCall.noConfusion
    next => exact absurd hcall List.not_mem_nil
  next => exact absurd hcall List.not_mem_nil

/-- The visitor and a client that has just been accepted. -/
def visitorLink : Link where
  server := ⟨visitorPeer, []⟩
  client := { session := { connectedClient with } }

/-- A payload for the client is recorded and sent. -/
def recordedLink : Link := { visitorLink with server := recordedVisitor, toClient := [[1, 0, 0, 6, 7]] }

lemma begins_visitorLink : visitorLink.Begins where
  server := ⟨0, localAddr, 0, 1, 0, rfl⟩
  session := ⟨rfl, rfl⟩
  sent := ⟨rfl, rfl⟩
  network := ⟨rfl, rfl, rfl⟩

lemma exists_run_recordedLink (responsePayload : Bytes → Option Bytes) :
    ∃ ts, Run (Link.Steps responsePayload) visitorLink ts recordedLink ∧ recordedFor 6 ts = [[7]] := by
  have hqueued : Link.Steps responsePayload visitorLink (.call (.send 0 (1, .reliableOrdered, [7])))
      { visitorLink with server := ⟨queuedVisitor, []⟩ } := .call (fun _ => PeerCall.noConfusion) (.send _ 0 _)
  have htaken : Link.Steps responsePayload { visitorLink with server := ⟨queuedVisitor, []⟩ } (.call .take)
      { visitorLink with server := takenVisitor } := .call (fun _ => PeerCall.noConfusion) (.take queuedVisitor)
  have hrecorded : Link.Steps responsePayload { visitorLink with server := takenVisitor }
      (.call (.record 15 (6, [7]))) recordedLink :=
    .call (fun _ => PeerCall.noConfusion) (.record takenVisitor.peer 15 (6, [7]) [])
  exact ⟨_, ((Run.nil.snoc hqueued).snoc htaken).snoc hrecorded, rfl⟩

section Server

variable {responsePayload : Bytes → Option Bytes} {l₀ l : Link} {ts : LinkHistory} (hbegins : l₀.Begins)
  (hrun : Run (Link.Steps responsePayload) l₀ ts l) {channelId : UInt8}

include hbegins hrun

/-- What an ack packet has taken away has come in. -/
lemma got_of_acked (hshort : (recordedFor channelId ts).length ≤ maxSequence) {index : ℕ} {payload : Bytes}
    (hrecorded : (recordedFor channelId ts)[index]? = some payload)
    (hacked : ∃ tr ∈ peerHistory ts, Acked channelId index payload tr) :
    packetAt l₀.server.peer channelId index payload ∈ l.got := by
  obtain ⟨tr, htr, -, bytes, hlabel, -, hchannel, hset⟩ := hacked
  have hsound := Link.sound_of_run hbegins hrun
  obtain ⟨harrived, hproperty⟩ := hsound.heard tr htr bytes hlabel
  obtain ⟨connectionNumber, c, sequence, hreliable, rfl, packet, hgot, hnumbered⟩ :=
    hsound.client.acks bytes (hsound.client.arrivals bytes harrived) hproperty
  obtain rfl : c = channelId := hchannel
  -- the packet the client answered is one the server has recorded
  rcases hsound.sent packet (hsound.gets packet hgot) hnumbered.property with hsequenced | ⟨c', index', payload', hat, rfl⟩
  · rw [hnumbered.channelId] at hsequenced
    rcases hreliable with hreliable | hreliable
    · exact absurd (hreliable.symm.trans hsequenced) (by decide)
    · exact absurd (hreliable.symm.trans hsequenced) (by decide)
  · have hof := numbered_packetAt (bare l₀.server).peer c' index' payload'
    obtain rfl : c' = c := hof.channelId.symm.trans hnumbered.channelId
    have hsequence : sequence = sequenceOf index' := hnumbered.sequence.symm.trans hof.sequence
    rw [ackBitSet_sendAck _ _ (inRange_sequenceOf index) (hsequence ▸ inRange_sequenceOf index'), hsequence,
      decide_eq_true_eq] at hset
    obtain ⟨hlt, -⟩ := List.getElem?_eq_some_iff.mp hrecorded
    obtain ⟨hlt', -⟩ := List.getElem?_eq_some_iff.mp hat
    unfold maxSequence at hshort
    unfold recordedFor at hshort hrecorded hlt
    obtain rfl := sequenceOf_inj (by omega) (by omega) hset
    obtain rfl := Option.some.inj (hrecorded.symm.trans hat)
    exact hgot

/-- **The server forgets only what the client has.**  All reliable payloads of a channel id are recorded in their order,
but for those that wait; what the client gets of the channel id is what was recorded; and as long as no number of the
channel id has been given out twice, the packet of a recorded payload is pending, or the client has got it, or it was
the one sent longest ago when 4096 others were pending. -/
theorem server_forgets_only_what_client_has :
    enqueuedFor channelId ts = recordedFor channelId ts ++ waitingOn channelId l.server ∧
    (∀ packet ∈ l.got, propertyOf packet = some .channeled → u8At packet 3 = channelId → ¬ IsSequenced channelId →
      ∃ index payload, (recordedFor channelId ts)[index]? = some payload ∧
        packet = packetAt l₀.server.peer channelId index payload) ∧
    ((recordedFor channelId ts).length ≤ maxSequence →
      ∀ index payload, (recordedFor channelId ts)[index]? = some payload →
        Pending channelId index payload l.server.peer ∨
          packetAt l₀.server.peer channelId index payload ∈ l.got ∨
            ∃ tr ∈ ts, EvictedIn channelId index payload tr) := by
  obtain ⟨hserver, hnext, hpending⟩ := hbegins.fresh
  have hpeer := run_peerHistory hrun
  refine ⟨?_, fun packet hgot hchanneled hchannel hsequenced => ?_, fun hshort index payload hrecorded => ?_⟩
  · have hnone : waitingOn channelId (bare l₀.server) = [] := by
      obtain ⟨id, addr, connectionNumber, connectTime, created, hnew⟩ := hbegins.server
      rw [hnew]
      rfl
    have hconserved := hpeer.conserved fun _ _ _ hst => @waitingOn_step channelId _ _ _ hst
    rw [hnone, List.nil_append] at hconserved
    exact hconserved
  · have hsound := Link.sound_of_run hbegins hrun
    rcases hsound.sent packet (hsound.gets packet hgot) hchanneled with hsent | ⟨c, index, payload, hat, rfl⟩
    · exact absurd (hchannel ▸ hsent) hsequenced
    · obtain rfl : c = channelId := hchannel
      exact ⟨index, payload, hat, rfl⟩
  · have hreuse := not_reuses_of_short hpeer hnext hpending hshort (sequenceOf index)
    rcases pending_or_acked_or_evicted hpeer hnext hrecorded hreuse with hwaits | hacked | hevicted
    · exact .inl hwaits
    · exact .inr (.inl (got_of_acked hbegins hrun hshort hrecorded hacked))
    · exact .inr (.inr (evictedIn_of_evicted hevicted))

end Server

/-- The client has got the payload, and its answer has come in. -/
theorem server_forgets_only_what_client_has_answered : ∃ ts l, Run (Link.Steps fun _ => none) visitorLink ts l ∧
    recordedFor 6 ts = [[7]] ∧
    (Pending 6 0 [7] l.server.peer ∨ packetAt visitorPeer 6 0 [7] ∈ l.got ∨ ∃ tr ∈ ts, EvictedIn 6 0 [7] tr) := by
  obtain ⟨ts, hrun, hrecorded⟩ := exists_run_recordedLink fun _ => none
  have hsingle : propertyOf [1, 0, 0, 6, 7] ≠ some .merged := by decide
  have hgets : ∀ packet ∈ (ClientAct.receive [1, 0, 0, 6, 7]).gets, packet ∈ recordedLink.toClient := by
    rw [ClientAct.gets, leaves_of_not_merged hsingle]
    exact fun packet hpacket => hpacket
  have hgot := hrun.snoc (.client (.receive [1, 0, 0, 6, 7]) {} hgets)
  obtain ⟨-, -, hkept⟩ := @server_forgets_only_what_client_has _ _ _ _ begins_visitorLink hgot 6
  rw [recordedFor_client, hrecorded] at hkept
  exact ⟨_, _, hgot, (recordedFor_client ..).trans hrecorded, hkept (by decide) 0 [7] rfl⟩

/-! ### The client forgets -/

/-- **The client forgets only what the server has.**  Every reliable packet of the client has the number of its place,
and it sends no other; and as long as no number has been given out twice, a packet it has sent is pending or has come
in at the server. -/
theorem client_forgets_only_what_server_has {responsePayload : Bytes → Option Bytes} {l₀ l : Link} {ts : LinkHistory}
    (hbegins : l₀.Begins) (hrun : Run (Link.Steps responsePayload) l₀ ts l) :
    (∀ n packet, l.client.numbered[n]? = some packet →
      ∃ channelId, Acknowledged channelId ∧ Numbered packet channelId (sequenceOf n)) ∧
    (∀ packet ∈ l.client.sent, propertyOf packet = some .channeled → packet ∈ l.client.numbered) ∧
    (l.client.numbered.length ≤ maxSequence → ∀ packet ∈ l.client.sent, propertyOf packet = some .channeled →
      (∃ item ∈ l.client.session.pendingReliable, item.bytes = packet) ∨ packet ∈ l.arrived) := by
  have hsound := (Link.sound_of_run hbegins hrun).client
  refine ⟨hsound.numbered, hsound.sent, fun hshort packet hsent hproperty => ?_⟩
  exact hsound.kept hshort packet (hsound.sent packet hsent hproperty) hsent

/-- A packet of the client has come in, but the server has not yet said so. -/
theorem client_forgets_only_what_server_has_arrived : ∃ ts l, Run (Link.Steps fun _ => none) visitorLink ts l ∧
    [1, 0, 0, 6, 9] ∈ l.client.sent ∧
    ((∃ item ∈ l.client.session.pendingReliable, item.bytes = [1, 0, 0, 6, 9]) ∨ [1, 0, 0, 6, 9] ∈ l.arrived) := by
  have hsent := Run.nil.snoc (@Link.Steps.client (fun _ => none) visitorLink (.sendReliable 1 [9]) {}
    fun packet hpacket => absurd hpacket List.not_mem_nil)
  have hpacket : [1, 0, 0, 6, 9] ∈ (visitorLink.client.outcome (fun _ => none) (.sendReliable 1 [9]) {}).sent := by
    decide +kernel
  have hkeeps : ¬ Renews [1, 0, 0, 6, 9] := by
    rintro ⟨connectionNumber, h | h⟩ <;> cases h
  have harrived := hsent.snoc (.arrive 20 hpacket hkeeps)
  obtain ⟨-, -, hkept⟩ := client_forgets_only_what_server_has begins_visitorLink harrived
  exact ⟨_, _, harrived, hpacket, hkept (by decide +kernel) _ hpacket rfl⟩

end BasisRust.Client
