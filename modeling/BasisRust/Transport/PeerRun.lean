import BasisRust.Lib.Run
import BasisRust.Transport.Resend
import BasisRust.Transport.Send

/-!
# What happens to one peer

The calls that send to a peer, the ack packets it sends back and the parts of the resend loop, one after the other
in any order.  The loop holds in its own variable what it has taken from the queues and not yet recorded.
-/

namespace BasisRust.Transport

open Lib Protocol

/-! ### Sending -/

/-- One packet of a call: a reliable payload is queued, any other is built and sent. -/
def sendSlice (now : ℕ) (peer : PeerState) (packet : UInt8 × DeliveryMethod × Bytes) : PeerState :=
  let (channel, delivery, payload) := packet
  if isReliableDelivery delivery then enqueueReliablePayload peer channel delivery payload
  else
    let (built, peer) := buildOutboundPacket peer channel delivery payload
    recordPendingReliable now peer built

namespace TransportHandle

/-- `send_many_slices` and `try_send_many_bytes`, as far as they change the peer. -/
def sendManySlices (now : ℕ) (peer : PeerId) (packets : List (UInt8 × DeliveryMethod × Bytes))
    (handle : TransportHandle) : TransportHandle :=
  handle.modifyPeer peer fun state => packets.foldl (sendSlice now) state

end TransportHandle

section Send

variable {now : ℕ} {peer : PeerState} {channel : UInt8} {delivery : DeliveryMethod} {payload : Bytes}

lemma sendSlice_of_reliable (h : isReliableDelivery delivery) :
    sendSlice now peer (channel, delivery, payload) = enqueueReliablePayload peer channel delivery payload := if_pos h

/-- What is not reliable has no key and is not recorded. -/
lemma sendSlice_of_not_reliable (h : ¬ isReliableDelivery delivery) :
    sendSlice now peer (channel, delivery, payload) = (buildOutboundPacket peer channel delivery payload).2 := by
  cases delivery with
  | unreliable => rfl
  | sequenced => rfl
  | reliableUnordered => exact absurd rfl h
  | reliableOrdered => exact absurd rfl h
  | reliableSequenced => exact absurd rfl h

/-- `send` is a call with one packet. -/
theorem send_eq_sendManySlices (now : ℕ) (id : PeerId) (channel : UInt8) (delivery : DeliveryMethod) (payload : Bytes)
    (handle : TransportHandle) :
    handle.send id channel delivery payload = handle.sendManySlices now id [(channel, delivery, payload)] := by
  refine congrArg (handle.modifyPeer id) (funext fun state => ?_)
  rw [List.foldl_cons, List.foldl_nil]
  split
  next hreliable => exact (sendSlice_of_reliable hreliable).symm
  next hreliable => exact (sendSlice_of_not_reliable hreliable).symm

end Send

/-! ### Steps -/

/-- A peer, with `newly_queued` of the tick that is under way. -/
structure PeerRun where
  peer : PeerState
  newlyQueued : List (UInt8 × Bytes) := []

inductive PeerCall
  | send (now : ℕ) (packet : UInt8 × DeliveryMethod × Bytes)
  | processAck (bytes : Bytes)
  | ping (now : ℕ)
  | drainAcks
  | take
  | record (now : ℕ) (queued : UInt8 × Bytes)
  | resend (now : ℕ)

inductive PeerStep : PeerRun → PeerCall → PeerRun → Prop
  | send (s : PeerRun) (now : ℕ) (packet : UInt8 × DeliveryMethod × Bytes) :
      PeerStep s (.send now packet) { s with peer := sendSlice now s.peer packet }
  | processAck (s : PeerRun) (bytes : Bytes) :
      PeerStep s (.processAck bytes) { s with peer := Transport.processAck s.peer bytes }
  | ping (s : PeerRun) (now : ℕ) : PeerStep s (.ping now) { s with peer := (pingIfDue now s.peer).1 }
  | drainAcks (s : PeerRun) : PeerStep s .drainAcks { s with peer := (Transport.drainAcks s.peer).1 }
  | take (peer : PeerState) : PeerStep ⟨peer, []⟩ .take ⟨(takeQueued peer).1, (takeQueued peer).2⟩
  | record (peer : PeerState) (now : ℕ) (queued : UInt8 × Bytes) (rest : List (UInt8 × Bytes)) :
      PeerStep ⟨peer, queued :: rest⟩ (.record now queued) ⟨(sendQueued now peer queued).1, rest⟩
  | resend (peer : PeerState) (now : ℕ) : PeerStep ⟨peer, []⟩ (.resend now) ⟨(resendDue now peer).1, []⟩

namespace PeerCall

/-- A part of the resend loop. -/
def OfLoop : PeerCall → Prop
  | .send _ _ | .processAck _ => False
  | _ => True

/-- The reliable payload the call queues on the channel id. -/
def enqueues (channelId : UInt8) : PeerCall → List Bytes
  | .send _ (channel, delivery, payload) =>
    if isReliableDelivery delivery ∧ DeliveryMethod.channelId channel delivery = channelId then [payload] else []
  | _ => []

/-- The payload the call numbers and records on the channel id. -/
def records (channelId : UInt8) : PeerCall → List Bytes
  | .record _ queued => if queued.1 = channelId then [queued.2] else []
  | _ => []

lemma records_record (channelId : UInt8) (now : ℕ) (queued : UInt8 × Bytes) :
    (PeerCall.record now queued).records channelId = if queued.1 = channelId then [queued.2] else [] := rfl

/-- One payload at most is recorded at a time. -/
lemma records_cases (channelId : UInt8) (l : PeerCall) :
    l.records channelId = [] ∨ ∃ now payload, l = .record now (channelId, payload) ∧ l.records channelId = [payload] := by
  cases l with
  | record now queued =>
    rw [records_record]
    split
    next hchannel =>
      subst hchannel
      exact .inr ⟨now, queued.2, rfl, rfl⟩
    next => exact .inl rfl
  | _ => exact .inl rfl

end PeerCall

abbrev PeerHistory := List (Transition PeerRun PeerCall)

/-- All reliable payloads queued on the channel id so far, in their order. -/
def enqueuedOn (channelId : UInt8) (ts : PeerHistory) : List Bytes := ts.flatMap fun tr => tr.label.enqueues channelId

/-- All payloads recorded on the channel id so far, in their order. -/
def recordedOn (channelId : UInt8) (ts : PeerHistory) : List Bytes := ts.flatMap fun tr => tr.label.records channelId

lemma recordedOn_concat (channelId : UInt8) (ts : PeerHistory) (tr : Transition PeerRun PeerCall) :
    recordedOn channelId (ts ++ [tr]) = recordedOn channelId ts ++ tr.label.records channelId := by
  simp [recordedOn]

/-! ### Whole calls are runs -/

/-- A call with many packets, with whatever the loop has taken. -/
theorem exists_run_sendManySlices (now : ℕ) (packets : List (UInt8 × DeliveryMethod × Bytes)) (s : PeerRun) :
    ∃ ts, Run PeerStep s ts { s with peer := packets.foldl (sendSlice now) s.peer } ∧
      ts.map (·.label) = packets.map (.send now) := by
  induction packets generalizing s with
  | nil => exact ⟨[], .nil, rfl⟩
  | cons packet packets ih =>
    obtain ⟨ts, hrun, hlabels⟩ := ih { s with peer := sendSlice now s.peer packet }
    have hfirst : Run PeerStep s _ { s with peer := sendSlice now s.peer packet } := Run.nil.snoc (.send s now packet)
    refine ⟨_, hfirst.append hrun, ?_⟩
    rw [List.nil_append, List.singleton_append, List.map_cons, List.map_cons, hlabels]

/-- What was taken is recorded one after the other. -/
lemma exists_run_sendAllQueued (instant : ℕ → ℕ) (queued : List (UInt8 × Bytes)) (peer : PeerState) :
    ∃ ts, Run PeerStep ⟨peer, queued⟩ ts ⟨(sendAllQueued instant peer queued).1, []⟩ ∧
      ∀ tr ∈ ts, tr.label.OfLoop := by
  induction queued generalizing peer with
  | nil => exact ⟨[], .nil, fun tr htr => absurd htr List.not_mem_nil⟩
  | cons first rest ih =>
    obtain ⟨ts, hrun, hloop⟩ := ih (sendQueued (instant rest.length) peer first).1
    have hfirst : Run PeerStep ⟨peer, first :: rest⟩ _ ⟨(sendQueued (instant rest.length) peer first).1, rest⟩ :=
      Run.nil.snoc (.record peer (instant rest.length) first rest)
    refine ⟨_, hfirst.append hrun, ?_⟩
    rw [List.nil_append, List.singleton_append, List.forall_mem_cons]
    exact ⟨trivial, hloop⟩

/-- **A tick of the resend loop** without anything in between. -/
theorem exists_run_resendTick (now : ℕ) (instant : ℕ → ℕ) (peer : PeerState) :
    ∃ ts, Run PeerStep ⟨peer, []⟩ ts ⟨(resendTick now instant peer).1, []⟩ ∧ ∀ tr ∈ ts, tr.label.OfLoop := by
  let taken := takeQueued (drainAcks (pingIfDue now peer).1).1
  obtain ⟨ts, hrecord, hloop⟩ := exists_run_sendAllQueued instant taken.2 taken.1
  have hbefore : Run PeerStep ⟨peer, []⟩ _ ⟨taken.1, taken.2⟩ :=
    ((Run.nil.snoc (.ping ⟨peer, []⟩ now)).snoc (.drainAcks ⟨(pingIfDue now peer).1, []⟩)).snoc
      (.take (drainAcks (pingIfDue now peer).1).1)
  refine ⟨_, (hbefore.append hrecord).snoc (.resend (sendAllQueued instant taken.1 taken.2).1 now), ?_⟩
  intro tr htr
  simp only [List.nil_append, List.append_assoc, List.mem_append, List.mem_singleton] at htr
  rcases htr with rfl | rfl | rfl | htr | rfl
  · trivial
  · trivial
  · trivial
  · exact hloop tr htr
  · trivial

/-! ### What nothing of it changes -/

lemma samePeer_recordPendingReliable (now : ℕ) (peer : PeerState) (built : BuiltPacket) :
    SamePeer peer (recordPendingReliable now peer built) := by
  unfold recordPendingReliable
  split
  · exact .refl peer
  · exact ⟨rfl, rfl, rfl, rfl⟩

lemma samePeer_sendSlice (now : ℕ) (peer : PeerState) (packet : UInt8 × DeliveryMethod × Bytes) :
    SamePeer peer (sendSlice now peer packet) := by
  obtain ⟨channel, delivery, payload⟩ := packet
  by_cases hreliable : isReliableDelivery delivery
  · rw [sendSlice_of_reliable hreliable]
    exact ⟨rfl, rfl, rfl, rfl⟩
  · rw [sendSlice_of_not_reliable hreliable]
    exact samePeer_buildOutboundPacket peer channel delivery payload

lemma samePeer_of_peerStep {s s' : PeerRun} {l : PeerCall} (h : PeerStep s l s') : SamePeer s.peer s'.peer := by
  cases h with
  | send _ now packet => exact samePeer_sendSlice now s.peer packet
  | processAck _ bytes =>
    unfold Transport.processAck
    split
    · exact .refl s.peer
    · exact ⟨rfl, rfl, rfl, rfl⟩
  | ping _ now =>
    unfold pingIfDue
    split
    · exact ⟨rfl, rfl, rfl, rfl⟩
    · exact .refl s.peer
  | drainAcks => exact ⟨rfl, rfl, rfl, rfl⟩
  | take peer => exact ⟨rfl, rfl, rfl, rfl⟩
  | record peer now queued rest =>
    have hbuilt : SamePeer peer (buildQueuedReliablePacket peer queued.1 queued.2).2 := ⟨rfl, rfl, rfl, rfl⟩
    have hrecorded := samePeer_recordPendingReliable now (buildQueuedReliablePacket peer queued.1 queued.2).2
      (buildQueuedReliablePacket peer queued.1 queued.2).1
    exact hbuilt.trans hrecorded
  | resend peer now => exact ⟨rfl, rfl, rfl, rfl⟩

/-- The peer keeps its id, its address and its connection. -/
theorem samePeer_of_peerRun {s s' : PeerRun} {ts : PeerHistory} (hrun : Run PeerStep s ts s') :
    SamePeer s.peer s'.peer := by
  induction hrun with
  | nil => exact .refl s.peer
  | snoc _ hstep ih => exact ih.trans (samePeer_of_peerStep hstep)

lemma samePeer_sendSlices (now : ℕ) (packets : List (UInt8 × DeliveryMethod × Bytes)) (peer : PeerState) :
    SamePeer peer (packets.foldl (sendSlice now) peer) := by
  obtain ⟨ts, hrun, -⟩ := exists_run_sendManySlices now packets ⟨peer, []⟩
  exact samePeer_of_peerRun hrun

lemma samePeer_resendTick (now : ℕ) (instant : ℕ → ℕ) (peer : PeerState) :
    SamePeer peer (resendTick now instant peer).1 := by
  obtain ⟨ts, hrun, -⟩ := exists_run_resendTick now instant peer
  exact samePeer_of_peerRun hrun

end BasisRust.Transport
