import BasisRust.Transport.AckComplete
import BasisRust.Transport.PeerRun
import Mathlib.Data.Fintype.Card
import Mathlib.Data.Fintype.Prod

/-!
# What becomes of a reliable payload

Every payload of a channel id waits in its queue until it is numbered and recorded, in the order it came.  From
then on its packet is pending until an ack packet covers it or, once 4096 packets are pending, until it is the one
sent longest ago as another is recorded.
-/

namespace BasisRust.Transport

open Lib Protocol

/-! ### Queues -/

/-- The queue of a channel id. -/
def queueOn (channelId : UInt8) (peer : PeerState) : List Bytes := (peer.outgoingReliable.lookup channelId).getD []

/-- What has been taken from the queue of the channel id and is not yet recorded. -/
def takenOn (channelId : UInt8) (newlyQueued : List (UInt8 × Bytes)) : List Bytes :=
  newlyQueued.filterMap fun queued => if queued.1 = channelId then some queued.2 else none

/-- What is not yet recorded of the channel id. -/
def waitingOn (channelId : UInt8) (s : PeerRun) : List Bytes :=
  takenOn channelId s.newlyQueued ++ queueOn channelId s.peer

/-- Between two ticks only the queue holds what waits. -/
lemma waitingOn_idle (channelId : UInt8) (peer : PeerState) :
    waitingOn channelId ⟨peer, []⟩ = queueOn channelId peer := rfl

section Queue

variable {channelId : UInt8} {peer : PeerState}

lemma takenOn_takeQueued : takenOn channelId (takeQueued peer).2 =
    (queueOn channelId peer).take (capacityOn peer channelId) := by
  have hkeyed := Dict.filterMap_flatMap_keyed peer.outgoingReliable.nodupKeys
    (fun c queue => queue.take (capacityOn peer c)) channelId
  rw [takenOn, takeQueued]
  refine hkeyed.trans ?_
  rw [queueOn]
  change ((peer.outgoingReliable.lookup channelId).map _).getD [] = _
  cases peer.outgoingReliable.lookup channelId with
  | none => exact List.take_nil.symm
  | some queue => rfl

lemma queueOn_takeQueued : queueOn channelId (takeQueued peer).1 =
    (queueOn channelId peer).drop (capacityOn peer channelId) := by
  rw [queueOn, takeQueued, queueOn]
  dsimp only
  rw [Dict.lookup_mapEntries]
  cases peer.outgoingReliable.lookup channelId with
  | none => exact List.drop_nil.symm
  | some queue => rfl

lemma queueOn_enqueueReliablePayload (channel : UInt8) (delivery : DeliveryMethod) (payload : Bytes) :
    queueOn channelId (enqueueReliablePayload peer channel delivery payload) = queueOn channelId peer ++
      if DeliveryMethod.channelId channel delivery = channelId then [payload] else [] := by
  rw [queueOn, enqueueReliablePayload]
  dsimp only
  rw [Dict.lookup_insert]
  by_cases heq : DeliveryMethod.channelId channel delivery = channelId
  · rw [if_pos heq.symm, if_pos heq, heq]
    rfl
  · rw [if_neg (Ne.symm heq), if_neg heq, List.append_nil]
    rfl

/-- What is not reliable leaves the reliable side alone. -/
lemma buildOutboundPacket_of_not_reliable {channel : UInt8} {delivery : DeliveryMethod} {payload : Bytes}
    (h : ¬ isReliableDelivery delivery) : ∃ nextSequencedSequence,
      (buildOutboundPacket peer channel delivery payload).2 = { peer with nextSequencedSequence } := by
  cases delivery with
  | unreliable => exact ⟨_, rfl⟩
  | sequenced => exact ⟨_, rfl⟩
  | reliableUnordered => exact absurd rfl h
  | reliableOrdered => exact absurd rfl h
  | reliableSequenced => exact absurd rfl h

lemma queueOn_sendSlice (now : ℕ) (packet : UInt8 × DeliveryMethod × Bytes) :
    queueOn channelId (sendSlice now peer packet) =
      queueOn channelId peer ++ (PeerCall.send now packet).enqueues channelId := by
  obtain ⟨channel, delivery, payload⟩ := packet
  unfold PeerCall.enqueues
  dsimp only
  by_cases hreliable : isReliableDelivery delivery
  · rw [sendSlice_of_reliable hreliable, queueOn_enqueueReliablePayload]
    simp only [hreliable, true_and]
  · obtain ⟨nextSequencedSequence, hpeer⟩ := @buildOutboundPacket_of_not_reliable peer channel delivery payload hreliable
    rw [sendSlice_of_not_reliable hreliable, hpeer, if_neg fun h => hreliable h.1, List.append_nil]
    rfl

end Queue

/-- A payload goes in at the back and comes out at the front. -/
lemma waitingOn_step {channelId : UInt8} {s t : PeerRun} {l : PeerCall} (h : PeerStep s l t) :
    waitingOn channelId s ++ l.enqueues channelId = l.records channelId ++ waitingOn channelId t := by
  have hquiet {s' : PeerRun} (htaken : s'.newlyQueued = s.newlyQueued)
      (hqueue : s'.peer.outgoingReliable = s.peer.outgoingReliable) :
      waitingOn channelId s ++ [] = [] ++ waitingOn channelId s' := by
    rw [List.append_nil, List.nil_append, waitingOn, waitingOn, queueOn, queueOn, htaken, hqueue]
  cases h with
  | send _ now packet =>
    change takenOn channelId s.newlyQueued ++ queueOn channelId s.peer ++ _ =
      [] ++ (takenOn channelId s.newlyQueued ++ queueOn channelId (sendSlice now s.peer packet))
    rw [queueOn_sendSlice, List.append_assoc, List.nil_append]
  | processAck _ bytes =>
    refine hquiet rfl ?_
    unfold processAck
    dsimp only
    split <;> rfl
  | ping _ now =>
    refine hquiet rfl ?_
    unfold pingIfDue
    dsimp only
    split <;> rfl
  | drainAcks _ => exact hquiet rfl rfl
  | take peer =>
    change [] ++ queueOn channelId peer ++ [] = [] ++ (takenOn channelId (takeQueued peer).2 ++
      queueOn channelId (takeQueued peer).1)
    rw [takenOn_takeQueued, queueOn_takeQueued, List.take_append_drop, List.append_nil]
  | record peer now queued rest =>
    have hqueue : queueOn channelId (sendQueued now peer queued).1 = queueOn channelId peer := rfl
    change takenOn channelId (queued :: rest) ++ queueOn channelId peer ++ [] =
      (if queued.1 = channelId then [queued.2] else []) ++ (takenOn channelId rest ++ queueOn channelId _)
    rw [hqueue, List.append_nil, ← List.append_assoc]
    refine congrArg (· ++ queueOn channelId peer) ?_
    unfold takenOn
    by_cases hchannel : queued.1 = channelId <;> simp [hchannel]
  | resend peer now => exact hquiet rfl rfl

/-! ### Numbers -/

/-- The number the payload at the index is sent under. -/
def sequenceOf (index : ℕ) : UInt16 := UInt16.ofNat (index % maxSequence)

lemma toNat_sequenceOf (index : ℕ) : (sequenceOf index).toNat = index % maxSequence := by
  have hlt : index % maxSequence < 32768 := Nat.mod_lt _ (by decide)
  rw [sequenceOf, UInt16.toNat_ofNat']
  omega

lemma sequenceOf_succ (index : ℕ) : (sequenceOf index + 1) % 32768 = sequenceOf (index + 1) := by
  rw [← UInt16.toNat_inj]
  simp only [UInt16.toNat_mod, UInt16.toNat_add, toNat_sequenceOf, UInt16.reduceToNat]
  unfold maxSequence
  omega

/-- Numbers and pending packets stay as they are. -/
structure SameReliable (peer peer' : PeerState) : Prop where
  connectionNumber : peer'.connectionNumber = peer.connectionNumber
  nextReliableSequence : peer'.nextReliableSequence = peer.nextReliableSequence
  pendingReliable : peer'.pendingReliable = peer.pendingReliable

lemma sameReliable_sendSlice (now : ℕ) (peer : PeerState) (packet : UInt8 × DeliveryMethod × Bytes) :
    SameReliable peer (sendSlice now peer packet) := by
  obtain ⟨channel, delivery, payload⟩ := packet
  by_cases hreliable : isReliableDelivery delivery
  · rw [sendSlice_of_reliable hreliable]
    exact ⟨rfl, rfl, rfl⟩
  · obtain ⟨nextSequencedSequence, hpeer⟩ := @buildOutboundPacket_of_not_reliable peer channel delivery payload hreliable
    rw [sendSlice_of_not_reliable hreliable, hpeer]
    exact ⟨rfl, rfl, rfl⟩

lemma sameReliable_pingIfDue (now : ℕ) (peer : PeerState) : SameReliable peer (pingIfDue now peer).1 := by
  unfold pingIfDue
  split <;> exact ⟨rfl, rfl, rfl⟩

/-- **What a step does to numbers and pending packets.** -/
lemma PeerStep.reliable_cases {s t : PeerRun} {l : PeerCall} (h : PeerStep s l t) :
    (∀ now queued, l ≠ .record now queued) ∧ SameReliable s.peer t.peer ∨
      (∃ bytes, l = .processAck bytes ∧ t.peer = Transport.processAck s.peer bytes) ∨
      (∃ now, l = .resend now ∧ t.peer = (resendDue now s.peer).1) ∨
      ∃ now queued, l = .record now queued ∧ t.peer = (sendQueued now s.peer queued).1 := by
  cases h with
  | send _ now packet => exact .inl ⟨fun _ _ heq => PeerCall.noConfusion heq, sameReliable_sendSlice now _ packet⟩
  | processAck _ bytes => exact .inr (.inl ⟨bytes, rfl, rfl⟩)
  | ping _ now => exact .inl ⟨fun _ _ heq => PeerCall.noConfusion heq, sameReliable_pingIfDue now _⟩
  | drainAcks _ => exact .inl ⟨fun _ _ heq => PeerCall.noConfusion heq, rfl, rfl, rfl⟩
  | take peer => exact .inl ⟨fun _ _ heq => PeerCall.noConfusion heq, rfl, rfl, rfl⟩
  | record peer now queued rest => exact .inr (.inr (.inr ⟨now, queued, rfl, rfl⟩))
  | resend peer now => exact .inr (.inr (.inl ⟨now, rfl, rfl⟩))

lemma records_of_not_record {l : PeerCall} (h : ∀ now queued, l ≠ .record now queued) (channelId : UInt8) :
    l.records channelId = [] := by
  cases l with
  | record now queued => exact absurd rfl (h now queued)
  | _ => rfl

lemma nextOn_sendQueued (channelId : UInt8) (now : ℕ) (peer : PeerState) (queued : UInt8 × Bytes) :
    nextOn channelId (sendQueued now peer queued).1 =
      if queued.1 = channelId then (nextOn channelId peer + 1) % 32768 else nextOn channelId peer := by
  change ((peer.nextReliableSequence.insert queued.1 ((nextOn queued.1 peer + 1) % 32768)).lookup channelId).getD 0 = _
  rw [Dict.lookup_insert]
  by_cases hchannel : queued.1 = channelId
  · rw [if_pos hchannel.symm, if_pos hchannel, hchannel, Option.getD_some]
  · rw [if_neg (Ne.symm hchannel), if_neg hchannel]
    rfl

lemma nextOn_step {channelId : UInt8} {s t : PeerRun} {l : PeerCall} (h : PeerStep s l t) :
    nextOn channelId t.peer =
      if l.records channelId = [] then nextOn channelId s.peer else (nextOn channelId s.peer + 1) % 32768 := by
  rcases h.reliable_cases with ⟨hother, hsame⟩ | ⟨bytes, rfl, ht⟩ | ⟨now, rfl, ht⟩ | ⟨now, queued, rfl, ht⟩
  · rw [records_of_not_record hother, if_pos rfl, nextOn, hsame.nextReliableSequence]
    rfl
  · have hnone : (PeerCall.processAck bytes).records channelId = [] := rfl
    rw [ht, hnone, if_pos rfl, nextOn, processAck]
    split <;> rfl
  · rw [ht]
    rfl
  · rw [ht, nextOn_sendQueued, PeerCall.records]
    by_cases hchannel : queued.1 = channelId <;> simp [hchannel]

/-- The numbers are given out one after the other. -/
theorem nextOn_eq {s₀ s : PeerRun} {ts : PeerHistory} (h : Run PeerStep s₀ ts s)
    (hfresh : s₀.peer.nextReliableSequence = ∅) (channelId : UInt8) :
    nextOn channelId s.peer = sequenceOf (recordedOn channelId ts).length := by
  induction h with
  | nil =>
    rw [nextOn, hfresh, AList.lookup_empty]
    rfl
  | @snoc ts s l t hrun hst ih =>
    rw [nextOn_step hst, ih, recordedOn_concat]
    dsimp only
    rcases l.records_cases channelId with hnone | ⟨now, payload, -, hone⟩
    · rw [hnone, if_pos rfl, List.append_nil]
    · rw [hone, if_neg (List.cons_ne_nil _ _), sequenceOf_succ, List.length_append, List.length_singleton]

/-! ### The packet sent longest ago -/

/-- The entry before, or the other one if it was sent earlier. -/
def olderPending (oldest : Option (PendingReliableKey × ℕ)) (e : (_ : PendingReliableKey) × PendingReliable) :
    Option (PendingReliableKey × ℕ) :=
  match oldest with
  | some (key, lastSent) => if e.2.lastSent < lastSent then some (e.1, e.2.lastSent) else some (key, lastSent)
  | none => some (e.1, e.2.lastSent)

lemma oldestPending_eq (pending : Dict PendingReliableKey PendingReliable) :
    oldestPending pending = (pending.entries.foldl olderPending none).map (·.1) := rfl

lemma foldl_olderPending (entries : List ((_ : PendingReliableKey) × PendingReliable)) (first : PendingReliableKey × ℕ) :
    ∃ oldest : PendingReliableKey × ℕ, entries.foldl olderPending (some first) = some oldest ∧
      oldest.2 ≤ first.2 ∧ (∀ e ∈ entries, oldest.2 ≤ e.2.lastSent) ∧
        (oldest = first ∨ ∃ e ∈ entries, oldest = (e.1, e.2.lastSent)) := by
  induction entries generalizing first with
  | nil => exact ⟨first, rfl, le_refl _, fun e he => absurd he List.not_mem_nil, .inl rfl⟩
  | cons e entries ih =>
    rw [List.foldl_cons]
    by_cases hlt : e.2.lastSent < first.2
    · have hstep : olderPending (some first) e = some (e.1, e.2.lastSent) := if_pos hlt
      obtain ⟨oldest, hfold, hle, hall, hfrom⟩ := ih (e.1, e.2.lastSent)
      rw [hstep]
      refine ⟨oldest, hfold, hle.trans hlt.le, List.forall_mem_cons.mpr ⟨hle, hall⟩, .inr ?_⟩
      rcases hfrom with rfl | ⟨e', he', rfl⟩
      · exact ⟨e, List.mem_cons_self, rfl⟩
      · exact ⟨e', List.mem_cons_of_mem _ he', rfl⟩
    · have hstep : olderPending (some first) e = some first := if_neg hlt
      obtain ⟨oldest, hfold, hle, hall, hfrom⟩ := ih first
      rw [hstep]
      refine ⟨oldest, hfold, hle, List.forall_mem_cons.mpr ⟨hle.trans (not_lt.mp hlt), hall⟩, hfrom.imp_right ?_⟩
      rintro ⟨e', he', rfl⟩
      exact ⟨e', List.mem_cons_of_mem _ he', rfl⟩

/-- **The packet sent longest ago** is one of the pending ones, and none was sent before it. -/
theorem oldestPending_spec {pending : Dict PendingReliableKey PendingReliable} (hne : pending.entries ≠ []) :
    ∃ key item, oldestPending pending = some key ∧ pending.lookup key = some item ∧
      ∀ key' item', pending.lookup key' = some item' → item.lastSent ≤ item'.lastSent := by
  obtain ⟨e, entries, hentries⟩ := List.exists_cons_of_ne_nil hne
  obtain ⟨oldest, hfold, hle, hall, hfrom⟩ := foldl_olderPending entries (e.1, e.2.lastSent)
  have hfound : ∃ e' ∈ pending.entries, oldest = (e'.1, e'.2.lastSent) := by
    rw [hentries]
    rcases hfrom with rfl | ⟨e', he', rfl⟩
    · exact ⟨e, List.mem_cons_self, rfl⟩
    · exact ⟨e', List.mem_cons_of_mem _ he', rfl⟩
  obtain ⟨e', he', rfl⟩ := hfound
  refine ⟨e'.1, e'.2, ?_, AList.mem_lookup_iff.mpr he', ?_⟩
  · rw [oldestPending_eq, hentries, List.foldl_cons]
    exact congrArg (Option.map _) hfold
  · intro key item hitem
    have hmem : (⟨key, item⟩ : (_ : PendingReliableKey) × PendingReliable) ∈ pending.entries :=
      AList.mem_lookup_iff.mp hitem
    rw [hentries] at hmem
    rcases List.mem_cons.mp hmem with rfl | hmem
    · exact hle
    · exact hall _ hmem

/-! ### Pending packets -/

section Pending

variable {channelId : UInt8} {index : ℕ} {payload : Bytes}

/-- The packet of the payload at the index of the channel id is pending. -/
def Pending (channelId : UInt8) (index : ℕ) (payload : Bytes) (peer : PeerState) : Prop :=
  ∃ item, peer.pendingReliable.lookup ⟨channelId, sequenceOf index⟩ = some item ∧
    item.bytes = channeledBytes peer (sequenceOf index) channelId payload

/-- The ack packet covers what is pending under the key. -/
def Covers (bytes : Bytes) (key : PendingReliableKey) : Prop :=
  4 ≤ bytes.length ∧ u8At bytes 3 = key.channelId ∧ ackBitSet bytes key.sequence

/-- The packet was taken from the pending ones by an ack packet that covers it. -/
def Acked (channelId : UInt8) (index : ℕ) (payload : Bytes) (tr : Transition PeerRun PeerCall) : Prop :=
  Pending channelId index payload tr.src.peer ∧
    ∃ bytes, tr.label = .processAck bytes ∧ Covers bytes ⟨channelId, sequenceOf index⟩

/-- The packet was the one sent longest ago when another one was recorded beside 4096 of them. -/
def Evicted (channelId : UInt8) (index : ℕ) (payload : Bytes) (tr : Transition PeerRun PeerCall) : Prop :=
  Pending channelId index payload tr.src.peer ∧ (∃ now queued, tr.label = .record now queued) ∧
    maxPendingReliablePerPeer ≤ tr.src.peer.pendingReliable.entries.length ∧
      oldestPending tr.src.peer.pendingReliable = some ⟨channelId, sequenceOf index⟩

/-- A number is given out again while the packet it was given to is still pending. -/
def Reuses (key : PendingReliableKey) (src : PeerRun) (l : PeerCall) : Prop :=
  key ∈ src.peer.pendingReliable ∧
    ∃ now queued, l = .record now queued ∧ key = ⟨queued.1, nextOn queued.1 src.peer⟩

lemma Pending.sameReliable {peer peer' : PeerState} (hsame : SameReliable peer peer')
    (h : Pending channelId index payload peer) : Pending channelId index payload peer' := by
  obtain ⟨item, hitem, hbytes⟩ := h
  refine ⟨item, ?_, ?_⟩
  · rwa [hsame.pendingReliable]
  · rw [hbytes, channeledBytes, channeledBytes, hsame.connectionNumber]

/-- An ack packet that does not cover the packet leaves it pending. -/
lemma Pending.processAck {peer : PeerState} {bytes : Bytes} (h : Pending channelId index payload peer)
    (hcovers : ¬ Covers bytes ⟨channelId, sequenceOf index⟩) :
    Pending channelId index payload (Transport.processAck peer bytes) := by
  obtain ⟨item, hitem, hbytes⟩ := h
  unfold Transport.processAck
  split
  next => exact ⟨item, hitem, hbytes⟩
  next hlength =>
    refine ⟨item, ?_, hbytes⟩
    dsimp only
    rw [Dict.lookup_retain, hitem, Option.filter_some, if_pos]
    by_cases hchannel : channelId = u8At bytes 3
    · have hnot : ¬ ackBitSet bytes (sequenceOf index) := fun hset => hcovers ⟨not_lt.mp hlength, hchannel.symm, hset⟩
      simp [hnot]
    · simp [hchannel]

lemma Pending.resendDue {peer : PeerState} (now : ℕ) (h : Pending channelId index payload peer) :
    Pending channelId index payload (Transport.resendDue now peer).1 := by
  obtain ⟨item, hitem, hbytes⟩ := h
  refine ⟨if now - item.lastSent ≥ resendAfterMillis then { item with lastSent := now } else item, ?_, ?_⟩
  · change (peer.pendingReliable.mapValues _).lookup _ = _
    rw [Dict.lookup_mapValues, hitem]
    rfl
  · rw [apply_ite PendingReliable.bytes, ite_self]
    exact hbytes

lemma ne_nil_of_full {pending : Dict PendingReliableKey PendingReliable}
    (hfull : maxPendingReliablePerPeer ≤ pending.entries.length) : pending.entries ≠ [] := by
  intro hnil
  rw [hnil] at hfull
  exact absurd hfull (by decide)

/-- What `record_pending_reliable` enters for a queued payload. -/
def recorded (now : ℕ) (peer : PeerState) (queued : UInt8 × Bytes) : PendingReliable :=
  ⟨channeledBytes peer (nextOn queued.1 peer) queued.1 queued.2, now⟩

lemma sendQueued_of_room {peer : PeerState} {now : ℕ} {queued : UInt8 × Bytes}
    (hroom : peer.pendingReliable.entries.length < maxPendingReliablePerPeer) :
    (sendQueued now peer queued).1.pendingReliable =
      peer.pendingReliable.insert ⟨queued.1, nextOn queued.1 peer⟩ (recorded now peer queued) := by
  unfold sendQueued buildQueuedReliablePacket recordPendingReliable
  dsimp only
  rw [if_neg (not_le.mpr hroom)]
  rfl

lemma sendQueued_of_full {peer : PeerState} {now : ℕ} {queued : UInt8 × Bytes} {oldest : PendingReliableKey}
    (hfull : maxPendingReliablePerPeer ≤ peer.pendingReliable.entries.length)
    (holdest : oldestPending peer.pendingReliable = some oldest) :
    (sendQueued now peer queued).1.pendingReliable =
      (peer.pendingReliable.erase oldest).insert ⟨queued.1, nextOn queued.1 peer⟩ (recorded now peer queued) := by
  unfold sendQueued buildQueuedReliablePacket recordPendingReliable
  dsimp only
  rw [if_pos hfull, holdest]
  rfl

/-- Recording another packet leaves the packet pending, unless it is the one sent longest ago of a full table. -/
lemma Pending.record {peer : PeerState} {now : ℕ} {queued : UInt8 × Bytes} (h : Pending channelId index payload peer)
    (hother : (⟨channelId, sequenceOf index⟩ : PendingReliableKey) ≠ ⟨queued.1, nextOn queued.1 peer⟩)
    (hkept : peer.pendingReliable.entries.length < maxPendingReliablePerPeer ∨
      oldestPending peer.pendingReliable ≠ some ⟨channelId, sequenceOf index⟩) :
    Pending channelId index payload (sendQueued now peer queued).1 := by
  obtain ⟨item, hitem, hbytes⟩ := h
  refine ⟨item, ?_, hbytes⟩
  by_cases hroom : peer.pendingReliable.entries.length < maxPendingReliablePerPeer
  · rw [sendQueued_of_room hroom, AList.lookup_insert_ne hother]
    exact hitem
  · obtain ⟨oldest, -, holdest, -⟩ := oldestPending_spec (ne_nil_of_full (not_lt.mp hroom))
    have hne : (⟨channelId, sequenceOf index⟩ : PendingReliableKey) ≠ oldest := by
      rintro rfl
      exact hkept.elim hroom fun hnot => hnot holdest
    rw [sendQueued_of_full (not_lt.mp hroom) holdest, AList.lookup_insert_ne hother, AList.lookup_erase_ne hne]
    exact hitem

/-- What is recorded is pending. -/
lemma pending_sendQueued (now : ℕ) {peer : PeerState} (hnext : nextOn channelId peer = sequenceOf index) :
    Pending channelId index payload (sendQueued now peer (channelId, payload)).1 := by
  refine ⟨⟨channeledBytes peer (nextOn channelId peer) channelId payload, now⟩, ?_, ?_⟩
  · rw [← hnext]
    exact AList.lookup_insert _
  · rw [hnext]
    rfl

/-- **What a step does to a pending packet.** -/
theorem Pending.step {s t : PeerRun} {l : PeerCall} (h : Pending channelId index payload s.peer)
    (hst : PeerStep s l t) (hreuse : ¬ Reuses ⟨channelId, sequenceOf index⟩ s l) :
    Pending channelId index payload t.peer ∨ Acked channelId index payload ⟨s, l, t⟩ ∨
      Evicted channelId index payload ⟨s, l, t⟩ := by
  rcases hst.reliable_cases with ⟨-, hsame⟩ | ⟨bytes, rfl, ht⟩ | ⟨now, rfl, ht⟩ | ⟨now, queued, rfl, ht⟩
  · exact .inl (h.sameReliable hsame)
  · by_cases hcovers : Covers bytes ⟨channelId, sequenceOf index⟩
    · exact .inr (.inl ⟨h, bytes, rfl, hcovers⟩)
    · rw [ht]
      exact .inl (h.processAck hcovers)
  · rw [ht]
    exact .inl (h.resendDue now)
  · by_cases hkept : s.peer.pendingReliable.entries.length < maxPendingReliablePerPeer ∨
        oldestPending s.peer.pendingReliable ≠ some ⟨channelId, sequenceOf index⟩
    · have hother : (⟨channelId, sequenceOf index⟩ : PendingReliableKey) ≠ ⟨queued.1, nextOn queued.1 s.peer⟩ := by
        intro heq
        obtain ⟨item, hitem, -⟩ := h
        exact hreuse ⟨Dict.mem_iff_lookup.mpr ⟨item, hitem⟩, now, queued, rfl, heq⟩
      rw [ht]
      exact .inl (h.record hother hkept)
    · rw [not_or, not_lt, not_not] at hkept
      exact .inr (.inr ⟨h, ⟨now, queued, rfl⟩, hkept⟩)

/-- **What has become of a recorded payload** whose number is not given out again while its packet is pending. -/
theorem pending_or_acked_or_evicted {s₀ s : PeerRun} {ts : PeerHistory} (hrun : Run PeerStep s₀ ts s)
    (hfresh : s₀.peer.nextReliableSequence = ∅) (hrecorded : (recordedOn channelId ts)[index]? = some payload)
    (hreuse : ∀ tr ∈ ts, ¬ Reuses ⟨channelId, sequenceOf index⟩ tr.src tr.label) :
    Pending channelId index payload s.peer ∨ (∃ tr ∈ ts, Acked channelId index payload tr) ∨
      ∃ tr ∈ ts, Evicted channelId index payload tr := by
  induction hrun with
  | nil => cases hrecorded
  | @snoc ts s l t hrun hst ih =>
    rw [List.forall_mem_append, List.forall_mem_singleton] at hreuse
    rw [recordedOn_concat] at hrecorded
    have hafter (h : Pending channelId index payload t.peer ∨ Acked channelId index payload ⟨s, l, t⟩ ∨
        Evicted channelId index payload ⟨s, l, t⟩) : Pending channelId index payload t.peer ∨
          (∃ tr ∈ ts ++ [⟨s, l, t⟩], Acked channelId index payload tr) ∨
            ∃ tr ∈ ts ++ [⟨s, l, t⟩], Evicted channelId index payload tr := by
      have hlast := List.mem_append_right ts (List.mem_singleton_self (⟨s, l, t⟩ : Transition PeerRun PeerCall))
      exact h.imp_right (Or.imp (fun h => ⟨_, hlast, h⟩) fun h => ⟨_, hlast, h⟩)
    by_cases hold : index < (recordedOn channelId ts).length
    · rw [List.getElem?_append_left hold] at hrecorded
      rcases ih hrecorded hreuse.1 with hpending | ⟨tr, htr, hacked⟩ | ⟨tr, htr, hevicted⟩
      · exact hafter (hpending.step hst hreuse.2)
      · exact .inr (.inl ⟨tr, List.mem_append_left _ htr, hacked⟩)
      · exact .inr (.inr ⟨tr, List.mem_append_left _ htr, hevicted⟩)
    · -- the payload is the one this step records
      rw [List.getElem?_append_right (not_lt.mp hold)] at hrecorded
      dsimp only at hrecorded
      rcases l.records_cases channelId with hnone | ⟨now, payload', rfl, hone⟩
      · rw [hnone] at hrecorded
        cases hrecorded
      · rw [hone, List.getElem?_singleton] at hrecorded
        split at hrecorded
        next hindex =>
          cases hrecorded
          have hlength : index = (recordedOn channelId ts).length := by omega
          have hnext : nextOn channelId s.peer = sequenceOf index := hlength ▸ nextOn_eq hrun hfresh channelId
          rcases hst.reliable_cases with ⟨hother, -⟩ | ⟨_, heq, -⟩ | ⟨_, heq, -⟩ | ⟨now', queued, heq, ht⟩
          · exact absurd rfl (hother now (channelId, payload))
          · cases heq
          · cases heq
          · cases heq
            rw [ht]
            exact .inl (pending_sendQueued now hnext)
        next => cases hrecorded

end Pending

/-- Recording below the cap leaves every other packet as it is. -/
lemma lookup_sendQueued {now : ℕ} {peer : PeerState} {queued : UInt8 × Bytes} {key : PendingReliableKey}
    (hroom : peer.pendingReliable.entries.length < maxPendingReliablePerPeer)
    (hother : key ≠ ⟨queued.1, nextOn queued.1 peer⟩) :
    (sendQueued now peer queued).1.pendingReliable.lookup key = peer.pendingReliable.lookup key := by
  rw [sendQueued_of_room hroom, AList.lookup_insert_ne hother]

/-- **No reliable payload is lost but by an ack packet or the cap.**  In every run of a live peer the payloads
queued on a channel id are those recorded, and behind them in order those that wait.  A recorded one whose number
is not given out again too early is pending, or an ack packet that covers it took it, or it was the one sent
longest ago when another was recorded beside 4096.  Below that, recording takes no other packet away. -/
theorem reliable_payload_kept {id : PeerId} {addr : SocketAddr} {connectionNumber : UInt8} {connectTime : Int64}
    {created : ℕ} {ts : PeerHistory} {s : PeerRun}
    (hrun : Run PeerStep ⟨PeerState.new id addr connectionNumber connectTime created, []⟩ ts s) (channelId : UInt8) :
    enqueuedOn channelId ts = recordedOn channelId ts ++ waitingOn channelId s ∧
    (∀ index payload, (recordedOn channelId ts)[index]? = some payload →
      (∀ tr ∈ ts, ¬ Reuses ⟨channelId, sequenceOf index⟩ tr.src tr.label) →
      Pending channelId index payload s.peer ∨ (∃ tr ∈ ts, Acked channelId index payload tr) ∨
        ∃ tr ∈ ts, Evicted channelId index payload tr) ∧
    ∀ tr ∈ ts, ∀ now queued, tr.label = .record now queued →
      tr.src.peer.pendingReliable.entries.length < maxPendingReliablePerPeer →
      ∀ key, key ≠ ⟨queued.1, nextOn queued.1 tr.src.peer⟩ →
        tr.dst.peer.pendingReliable.lookup key = tr.src.peer.pendingReliable.lookup key := by
  refine ⟨?_, fun index payload hrecorded hreuse => pending_or_acked_or_evicted hrun rfl hrecorded hreuse, ?_⟩
  · exact hrun.conserved fun _ _ _ hst => waitingOn_step hst
  · intro tr htr now queued hlabel hroom key hother
    rcases (hrun.step_of_mem tr htr).reliable_cases with ⟨hnot, -⟩ | ⟨_, heq, -⟩ | ⟨_, heq, -⟩ | ⟨now', queued', heq, hdst⟩
    · exact absurd hlabel (hnot now queued)
    · rw [hlabel] at heq
      cases heq
    · rw [hlabel] at heq
      cases heq
    · rw [hlabel] at heq
      cases heq
      rw [hdst]
      exact lookup_sendQueued hroom hother

/-- A payload on channel 1 is queued for the visitor, taken and recorded. -/
def queuedVisitor : PeerState := sendSlice 0 visitorPeer (1, .reliableOrdered, [7])

def takenVisitor : PeerRun := ⟨(takeQueued queuedVisitor).1, [(6, [7])]⟩

def recordedVisitor : PeerRun := ⟨(sendQueued 15 takenVisitor.peer (6, [7])).1, []⟩

def recordedHistory : PeerHistory :=
  [⟨⟨visitorPeer, []⟩, .send 0 (1, .reliableOrdered, [7]), ⟨queuedVisitor, []⟩⟩,
    ⟨⟨queuedVisitor, []⟩, .take, takenVisitor⟩, ⟨takenVisitor, .record 15 (6, [7]), recordedVisitor⟩]

theorem reliable_payload_kept_recorded : enqueuedOn 6 recordedHistory = [[7]] ∧
    (Pending 6 0 [7] recordedVisitor.peer ∨ (∃ tr ∈ recordedHistory, Acked 6 0 [7] tr) ∨
      ∃ tr ∈ recordedHistory, Evicted 6 0 [7] tr) := by
  have hrun : Run PeerStep ⟨PeerState.new 0 localAddr 0 1 0, []⟩ recordedHistory recordedVisitor :=
    ((Run.nil.snoc (.send _ 0 (1, .reliableOrdered, [7]))).snoc (.take queuedVisitor)).snoc
      (.record takenVisitor.peer 15 (6, [7]) [])
  have hreuse : ∀ tr ∈ recordedHistory, ¬ Reuses ⟨6, sequenceOf 0⟩ tr.src tr.label := by
    have hempty : (⟨6, sequenceOf 0⟩ : PendingReliableKey) ∉ takenVisitor.peer.pendingReliable := by decide
    rintro tr htr ⟨hmem, now, queued, hlabel, -⟩
    simp only [recordedHistory, List.mem_cons, List.not_mem_nil, or_false] at htr
    rcases htr with rfl | rfl | rfl
    · cases hlabel
    · cases hlabel
    · exact hempty hmem
  obtain ⟨-, hkept, -⟩ := reliable_payload_kept hrun 6
  exact ⟨by decide, hkept 0 [7] (by decide) hreuse⟩

/-! ### The cap -/

lemma length_sendQueued {now : ℕ} {peer : PeerState} {queued : UInt8 × Bytes}
    (h : peer.pendingReliable.entries.length ≤ maxPendingReliablePerPeer) :
    (sendQueued now peer queued).1.pendingReliable.entries.length ≤ maxPendingReliablePerPeer := by
  by_cases hroom : peer.pendingReliable.entries.length < maxPendingReliablePerPeer
  · rw [sendQueued_of_room hroom]
    exact (Dict.length_insert_le _ _ _).trans hroom
  · obtain ⟨oldest, item, holdest, hitem, -⟩ := oldestPending_spec (ne_nil_of_full (not_lt.mp hroom))
    have herase := Dict.length_erase (Dict.mem_iff_lookup.mpr ⟨item, hitem⟩)
    rw [sendQueued_of_full (not_lt.mp hroom) holdest]
    exact (Dict.length_insert_le _ _ _).trans (herase.trans_le h)

/-- **Never more than 4096 packets are pending.** -/
theorem length_pending_le {s₀ s : PeerRun} {ts : PeerHistory} (hrun : Run PeerStep s₀ ts s)
    (hfresh : s₀.peer.pendingReliable = ∅) : s.peer.pendingReliable.entries.length ≤ maxPendingReliablePerPeer := by
  have hinit : s₀.peer.pendingReliable.entries.length ≤ maxPendingReliablePerPeer := by
    rw [hfresh]
    exact Nat.zero_le _
  refine (hrun.invariant (I := fun s => s.peer.pendingReliable.entries.length ≤ maxPendingReliablePerPeer) hinit ?_).2
  intro s l t hst h
  rcases hst.reliable_cases with ⟨-, hsame⟩ | ⟨bytes, rfl, ht⟩ | ⟨now, rfl, ht⟩ | ⟨now, queued, rfl, ht⟩
  · rwa [hsame.pendingReliable]
  · rw [ht, processAck]
    split
    · exact h
    · exact (List.length_filter_le _ _).trans h
  · rw [ht]
    exact (List.length_map _).trans_le h
  · rw [ht]
    exact length_sendQueued h

/-! ### More than the cap -/

lemma queueOn_sendAllQueued (channelId : UInt8) (instant : ℕ → ℕ) (queued : List (UInt8 × Bytes)) (peer : PeerState) :
    queueOn channelId (sendAllQueued instant peer queued).1 = queueOn channelId peer := by
  induction queued generalizing peer with
  | nil => rfl
  | cons first rest ih => exact ih (sendQueued (instant rest.length) peer first).1

/-- A tick takes from each queue what its window has room for. -/
lemma queueOn_resendTick (channelId : UInt8) (now : ℕ) (instant : ℕ → ℕ) (peer : PeerState) :
    queueOn channelId (resendTick now instant peer).1 =
      (queueOn channelId peer).drop (capacityOn peer channelId) := by
  have hping : (pingIfDue now peer).1.outgoingReliable = peer.outgoingReliable := by
    unfold pingIfDue
    split <;> rfl
  have htaken : queueOn channelId (takeQueued (drainAcks (pingIfDue now peer).1).1).1 =
      (queueOn channelId peer).drop (capacityOn peer channelId) := by
    rw [queueOn_takeQueued]
    change ((((pingIfDue now peer).1.outgoingReliable.lookup channelId).getD []).drop
      (defaultWindowSize - (pingIfDue now peer).1.pendingReliable.entries.countP _)) = _
    rw [hping, (sameReliable_pingIfDue now peer).pendingReliable]
    rfl
  rw [← htaken]
  exact queueOn_sendAllQueued channelId instant _ _

lemma enqueues_of_ofLoop {l : PeerCall} (h : l.OfLoop) (channelId : UInt8) : l.enqueues channelId = [] := by
  cases l with
  | send now packet => exact h.elim
  | _ => rfl

lemma enqueuedOn_eq (channelId : UInt8) (ts : PeerHistory) :
    enqueuedOn channelId ts = (ts.map (·.label)).flatMap (·.enqueues channelId) := by
  rw [enqueuedOn, List.flatMap_map]

lemma recordedOn_eq (channelId : UInt8) (ts : PeerHistory) :
    recordedOn channelId ts = (ts.map (·.label)).flatMap (·.records channelId) := by
  rw [recordedOn, List.flatMap_map]

/-- 128 payloads on each of 33 channels. -/
def floodPackets : List (UInt8 × DeliveryMethod × Bytes) :=
  (List.range 33).flatMap fun channel => List.replicate 128 (UInt8.ofNat channel, .reliableOrdered, [])

def floodId (channel : ℕ) : UInt8 := DeliveryMethod.channelId (UInt8.ofNat channel) .reliableOrdered

/-- The visitor once the payloads are queued, and after the next tick. -/
def floodedPeer : PeerState := floodPackets.foldl (sendSlice 0) visitorPeer

def floodedRun : PeerRun := ⟨(resendTick 15 (fun _ => 15) floodedPeer).1, []⟩

lemma enqueues_flood {channel : ℕ} (h : channel < 33) :
    (floodPackets.map (PeerCall.send 0)).flatMap (·.enqueues (floodId channel)) = List.replicate 128 [] := by
  have hone (channel' : ℕ) : ((List.replicate 128 (UInt8.ofNat channel', DeliveryMethod.reliableOrdered, ([] : Bytes))).map
      (PeerCall.send 0)).flatMap (·.enqueues (floodId channel)) =
        if floodId channel' = floodId channel then List.replicate 128 [] else [] := by
    by_cases heq : floodId channel' = floodId channel
    · have henq : (PeerCall.send 0 (UInt8.ofNat channel', .reliableOrdered, [])).enqueues (floodId channel) = [[]] :=
        if_pos ⟨rfl, heq⟩
      rw [if_pos heq, List.map_replicate, List.flatMap_replicate, henq]
      exact List.flatten_replicate_singleton
    · have henq : (PeerCall.send 0 (UInt8.ofNat channel', .reliableOrdered, [])).enqueues (floodId channel) = [] :=
        if_neg fun hboth => heq hboth.2
      rw [if_neg heq, List.map_replicate, List.flatMap_replicate, henq]
      exact List.flatten_replicate_nil
  have hids : ∀ channel < 33, ((List.range 33).flatMap fun channel' =>
      if floodId channel' = floodId channel then List.replicate 128 ([] : Bytes) else []) = List.replicate 128 [] := by
    decide +kernel
  rw [floodPackets, List.map_flatMap, List.flatMap_assoc, ← hids channel h]
  exact List.flatMap_congr fun channel' _ => hone channel'

lemma pendingReliable_foldl_sendSlice (now : ℕ) (packets : List (UInt8 × DeliveryMethod × Bytes)) (peer : PeerState) :
    (packets.foldl (sendSlice now) peer).pendingReliable = peer.pendingReliable := by
  induction packets generalizing peer with
  | nil => rfl
  | cons packet packets ih =>
    rw [List.foldl_cons, ih]
    exact (sameReliable_sendSlice now peer packet).pendingReliable

lemma queueOn_floodedPeer {channel : ℕ} (h : channel < 33) :
    queueOn (floodId channel) floodedPeer = List.replicate 128 [] := by
  obtain ⟨ts, hrun, hlabels⟩ := exists_run_sendManySlices 0 floodPackets ⟨visitorPeer, []⟩
  have hconserved : enqueuedOn (floodId channel) ts = recordedOn (floodId channel) ts ++
      waitingOn (floodId channel) ⟨floodedPeer, []⟩ := hrun.conserved fun _ _ _ hst => waitingOn_step hst
  have hrecorded : recordedOn (floodId channel) ts = [] := by
    rw [recordedOn_eq, hlabels, List.flatMap_eq_nil_iff]
    intro l hl
    obtain ⟨packet, -, rfl⟩ := List.mem_map.mp hl
    rfl
  rw [← waitingOn_idle, ← enqueues_flood h, ← hlabels, ← enqueuedOn_eq, hconserved, hrecorded, List.nil_append]

/-- The windows have room for everything. -/
lemma waitingOn_floodedRun {channel : ℕ} (h : channel < 33) : waitingOn (floodId channel) floodedRun = [] := by
  have hpending : floodedPeer.pendingReliable = ∅ := by
    rw [floodedPeer, pendingReliable_foldl_sendSlice]
    rfl
  have hcapacity : capacityOn floodedPeer (floodId channel) = 128 := by
    rw [capacityOn, pendingOn, hpending]
    rfl
  rw [floodedRun, waitingOn_idle, queueOn_resendTick, hcapacity, queueOn_floodedPeer h, List.drop_replicate,
    Nat.sub_self, List.replicate_zero]

/-- The keys the payloads are recorded under are different ones. -/
def floodKey (p : Fin 33 × Fin 128) : PendingReliableKey := ⟨floodId p.1, sequenceOf p.2⟩

lemma injective_floodKey : Function.Injective floodKey := by
  have hids : ∀ a b : Fin 33, floodId a = floodId b → a = b := by decide +kernel
  rintro ⟨channel, index⟩ ⟨channel', index'⟩ heq
  rw [floodKey, floodKey, PendingReliableKey.mk.injEq] at heq
  have hmod := congrArg UInt16.toNat heq.2
  rw [toNat_sequenceOf, toNat_sequenceOf] at hmod
  unfold maxSequence at hmod
  dsimp only at hmod
  have hindex : index = index' := by omega
  exact Prod.ext (hids _ _ heq.1) hindex

/-- **Payloads without a trace.**  No ack packet comes in, and yet a payload queued neither waits nor is pending:
there are 4224 of them, and no more than 4096 packets are pending. -/
theorem reliable_payload_dropped : ∃ ts, Run PeerStep ⟨visitorPeer, []⟩ ts floodedRun ∧
    (∀ tr ∈ ts, ∀ bytes, tr.label ≠ .processAck bytes) ∧
    ∃ channelId index payload, (enqueuedOn channelId ts)[index]? = some payload ∧
      waitingOn channelId floodedRun = [] ∧ ¬ Pending channelId index payload floodedRun.peer := by
  obtain ⟨sends, hsends, hlabels⟩ := exists_run_sendManySlices 0 floodPackets ⟨visitorPeer, []⟩
  obtain ⟨tick, htick, hloop⟩ := exists_run_resendTick 15 (fun _ => 15) floodedPeer
  have hrun : Run PeerStep ⟨visitorPeer, []⟩ (sends ++ tick) floodedRun := hsends.append htick
  refine ⟨sends ++ tick, hrun, ?_, ?_⟩
  · intro tr htr bytes hlabel
    rcases List.mem_append.mp htr with htr | htr
    · have hmem : tr.label ∈ floodPackets.map (PeerCall.send 0) := hlabels ▸ List.mem_map_of_mem htr
      obtain ⟨packet, -, heq⟩ := List.mem_map.mp hmem
      rw [hlabel] at heq
      cases heq
    · have hof := hloop tr htr
      rw [hlabel] at hof
      exact hof
  · by_contra hall
    -- every payload is pending, each under a key of its own
    have hpending (p : Fin 33 × Fin 128) : floodKey p ∈ floodedRun.peer.pendingReliable.keys := by
      by_contra hnot
      refine hall ⟨floodId p.1, p.2, [], ?_, waitingOn_floodedRun p.1.isLt, ?_⟩
      · have htick : enqueuedOn (floodId p.1) tick = [] := by
          rw [enqueuedOn, List.flatMap_eq_nil_iff]
          intro tr htr
          exact enqueues_of_ofLoop (hloop tr htr) _
        have hsent : enqueuedOn (floodId p.1) (sends ++ tick) = List.replicate 128 [] := by
          rw [enqueuedOn, List.flatMap_append]
          change enqueuedOn _ sends ++ enqueuedOn _ tick = _
          rw [htick, List.append_nil, enqueuedOn_eq, hlabels, enqueues_flood p.1.isLt]
        rw [hsent, List.getElem?_replicate, if_pos p.2.isLt]
      · rintro ⟨item, hitem, -⟩
        have hmem : floodKey p ∈ floodedRun.peer.pendingReliable := Dict.mem_iff_lookup.mpr ⟨item, hitem⟩
        exact hnot (AList.mem_keys.mp hmem)
    have hcap := length_pending_le hrun rfl
    have hcard : Fintype.card (Fin 33 × Fin 128) ≤ floodedRun.peer.pendingReliable.keys.length := by
      rw [← Finset.card_univ]
      calc Finset.univ.card ≤ floodedRun.peer.pendingReliable.keys.toFinset.card :=
            Finset.card_le_card_of_injOn floodKey (fun p _ => List.mem_toFinset.mpr (hpending p))
              injective_floodKey.injOn
        _ ≤ _ := List.toFinset_card_le _
    have hlength : floodedRun.peer.pendingReliable.keys.length =
        floodedRun.peer.pendingReliable.entries.length := List.length_map _
    rw [hlength, Fintype.card_prod, Fintype.card_fin, Fintype.card_fin] at hcard
    unfold maxPendingReliablePerPeer at hcap
    omega

end BasisRust.Transport
