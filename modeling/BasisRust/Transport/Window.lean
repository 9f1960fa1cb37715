import BasisRust.Transport.Retained

/-!
# Order, numbers and windows

The payloads of a channel id go out in the order they came, numbered from zero on; what is sent again is what was
sent before; and no channel id has more than 128 packets pending, those a tick has taken and not yet recorded
counted in.
-/

namespace BasisRust.Transport

open Lib Protocol

/-! ### What is sent -/

/-- The packets of the channel id a step sends for the first time. -/
def firstSends (channelId : UInt8) (tr : Transition PeerRun PeerCall) : List Bytes :=
  match tr.label with
  | .record now queued => if queued.1 = channelId then [(sendQueued now tr.src.peer queued).2] else []
  | _ => []

/-- The pending packets a step sends again. -/
def resends (tr : Transition PeerRun PeerCall) : List ((_ : PendingReliableKey) × PendingReliable) :=
  match tr.label with
  | .resend now => tr.src.peer.pendingReliable.entries.filter fun e => now - e.2.lastSent ≥ resendAfterMillis
  | _ => []

/-- All packets of the channel id sent for the first time so far, in their order. -/
def firstSentOn (channelId : UInt8) (ts : PeerHistory) : List Bytes := ts.flatMap (firstSends channelId)

/-- The packet of the payload at the index of the channel id. -/
def packetAt (peer : PeerState) (channelId : UInt8) (index : ℕ) (payload : Bytes) : Bytes :=
  channeledBytes peer (sequenceOf index) channelId payload

/-- The bytes of `resend_due` are those of the packets. -/
lemma resendDue_eq (now : ℕ) (s t : PeerRun) :
    (resendDue now s.peer).2 = (resends ⟨s, .resend now, t⟩).map (·.2.bytes) := rfl

lemma firstSentOn_concat (channelId : UInt8) (ts : PeerHistory) (tr : Transition PeerRun PeerCall) :
    firstSentOn channelId (ts ++ [tr]) = firstSentOn channelId ts ++ firstSends channelId tr := by
  simp [firstSentOn]

/-! ### Numbers -/

lemma PeerStep.connectionNumber_eq {s t : PeerRun} {l : PeerCall} (h : PeerStep s l t) :
    t.peer.connectionNumber = s.peer.connectionNumber := by
  rcases h.reliable_cases with ⟨-, hsame⟩ | ⟨bytes, rfl, ht⟩ | ⟨now, rfl, ht⟩ | ⟨now, queued, rfl, ht⟩
  · exact hsame.connectionNumber
  · rw [ht, Transport.processAck]
    split <;> rfl
  · rw [ht]
    rfl
  · rw [ht]
    rfl

lemma connectionNumber_of_run {s₀ s : PeerRun} {ts : PeerHistory} (h : Run PeerStep s₀ ts s) :
    s.peer.connectionNumber = s₀.peer.connectionNumber :=
  (h.invariant (I := fun s => s.peer.connectionNumber = s₀.peer.connectionNumber) rfl
    fun _ _ _ hst hs => hst.connectionNumber_eq.trans hs).2

section Sent

variable {s₀ s : PeerRun} {ts : PeerHistory} (hrun : Run PeerStep s₀ ts s) (hnext : s₀.peer.nextReliableSequence = ∅)
  (channelId : UInt8)

include hrun hnext

/-- What is built of a queued payload next. -/
lemma sendQueued_snd (now : ℕ) (payload : Bytes) : (sendQueued now s.peer (channelId, payload)).2 =
    packetAt s₀.peer channelId (recordedOn channelId ts).length payload := by
  have hbytes : (sendQueued now s.peer (channelId, payload)).2 =
      channeledBytes s.peer (nextOn channelId s.peer) channelId payload := rfl
  rw [hbytes, nextOn_eq hrun hnext, packetAt, channeledBytes, channeledBytes, connectionNumber_of_run hrun]

/-- **The payloads recorded are sent in their order**, each under the number of its place. -/
theorem firstSentOn_eq :
    firstSentOn channelId ts = (recordedOn channelId ts).mapIdx (packetAt s₀.peer channelId) := by
  induction hrun with
  | nil => rfl
  | @snoc ts s l t hrun hst ih =>
    rw [firstSentOn_concat, recordedOn_concat, ih, List.mapIdx_append]
    congr 1
    cases l with
    | record now queued =>
      obtain ⟨c, payload⟩ := queued
      dsimp only [firstSends]
      rw [PeerCall.records_record]
      by_cases hchannel : c = channelId
      · subst hchannel
        rw [if_pos rfl, if_pos rfl, sendQueued_snd hrun hnext]
        simp
      · rw [if_neg hchannel, if_neg hchannel, List.mapIdx_nil]
    | _ => rfl

end Sent

/-! ### What is sent again -/

/-- The packet is the one of a payload recorded so far on its channel id. -/
def WasSent (peer : PeerState) (ts : PeerHistory) (key : PendingReliableKey) (item : PendingReliable) : Prop :=
  ∃ index payload, (recordedOn key.channelId ts)[index]? = some payload ∧ key.sequence = sequenceOf index ∧
    item.bytes = packetAt peer key.channelId index payload

lemma WasSent.concat {peer : PeerState} {ts : PeerHistory} {key : PendingReliableKey} {item : PendingReliable}
    (h : WasSent peer ts key item) (tr : Transition PeerRun PeerCall) : WasSent peer (ts ++ [tr]) key item := by
  obtain ⟨index, payload, hrecorded, hkey, hbytes⟩ := h
  refine ⟨index, payload, ?_, hkey, hbytes⟩
  obtain ⟨hlt, -⟩ := List.getElem?_eq_some_iff.mp hrecorded
  rw [recordedOn_concat, List.getElem?_append_left hlt]
  exact hrecorded

/-- **Every pending packet was sent before.** -/
theorem wasSent_of_run {s₀ s : PeerRun} {ts : PeerHistory} (hrun : Run PeerStep s₀ ts s)
    (hnext : s₀.peer.nextReliableSequence = ∅) (hpending : s₀.peer.pendingReliable = ∅) :
    Dict.All (WasSent s₀.peer ts) s.peer.pendingReliable := by
  induction hrun with
  | nil =>
    rw [hpending]
    exact .empty
  | @snoc ts s l t hrun hst ih =>
    have hkept : Dict.All (WasSent s₀.peer (ts ++ [⟨s, l, t⟩])) s.peer.pendingReliable := ih.mono fun _ _ h => h.concat _
    rcases hst.reliable_cases with ⟨-, hsame⟩ | ⟨bytes, rfl, ht⟩ | ⟨now, rfl, ht⟩ | ⟨now, queued, rfl, ht⟩
    · rw [hsame.pendingReliable]
      exact hkept
    · rw [ht, processAck]
      split
      · exact hkept
      · exact hkept.retain _
    · rw [ht]
      refine hkept.mapValues fun key item h => ?_
      split
      · exact h
      · exact h
    · obtain ⟨c, payload⟩ := queued
      have hnew : WasSent s₀.peer (ts ++ [⟨s, .record now (c, payload), t⟩]) ⟨c, nextOn c s.peer⟩
          (recorded now s.peer (c, payload)) := by
        refine ⟨(recordedOn c ts).length, payload, ?_, nextOn_eq hrun hnext c, sendQueued_snd hrun hnext c now payload⟩
        rw [recordedOn_concat, PeerCall.records_record, if_pos rfl, List.getElem?_concat_length]
      rw [ht]
      by_cases hroom : s.peer.pendingReliable.entries.length < maxPendingReliablePerPeer
      · rw [sendQueued_of_room hroom]
        exact hkept.insert hnew
      · obtain ⟨oldest, -, holdest, -⟩ := oldestPending_spec (ne_nil_of_full (not_lt.mp hroom))
        rw [sendQueued_of_full (not_lt.mp hroom) holdest]
        exact hkept.erase.insert hnew

/-! ### Windows -/

/-- What a channel id has in flight: its pending packets and what a tick has taken for it. -/
def inFlight (channelId : UInt8) (s : PeerRun) : ℕ :=
  pendingOn s.peer channelId + (takenOn channelId s.newlyQueued).length

lemma pendingOn_sendQueued (channelId : UInt8) (now : ℕ) (peer : PeerState) (queued : UInt8 × Bytes) :
    pendingOn (sendQueued now peer queued).1 channelId ≤
      pendingOn peer channelId + if queued.1 = channelId then 1 else 0 := by
  have hinsert (pending : Dict PendingReliableKey PendingReliable) :=
    Dict.countP_insert_le (fun e => decide (e.1.channelId = channelId)) pending ⟨queued.1, nextOn queued.1 peer⟩
      (recorded now peer queued)
  simp only [decide_eq_true_eq] at hinsert
  unfold pendingOn
  by_cases hroom : peer.pendingReliable.entries.length < maxPendingReliablePerPeer
  · rw [sendQueued_of_room hroom]
    exact hinsert _
  · obtain ⟨oldest, -, holdest, -⟩ := oldestPending_spec (ne_nil_of_full (not_lt.mp hroom))
    rw [sendQueued_of_full (not_lt.mp hroom) holdest]
    have herase := Dict.countP_erase_le (fun e => decide (e.1.channelId = channelId)) peer.pendingReliable oldest
    exact (hinsert _).trans (Nat.add_le_add_right herase _)

lemma length_takenOn_cons (channelId : UInt8) (queued : UInt8 × Bytes) (rest : List (UInt8 × Bytes)) :
    (takenOn channelId (queued :: rest)).length =
      (takenOn channelId rest).length + if queued.1 = channelId then 1 else 0 := by
  unfold takenOn
  by_cases hchannel : queued.1 = channelId <;> simp [hchannel]

/-- A tick takes no more than the window has room for, and recording moves it from one part to the other. -/
lemma inFlight_step {channelId : UInt8} {s t : PeerRun} {l : PeerCall} (h : PeerStep s l t)
    (hs : inFlight channelId s ≤ defaultWindowSize) : inFlight channelId t ≤ defaultWindowSize := by
  have hless (peer : PeerState) (hpeer : pendingOn peer channelId ≤ pendingOn s.peer channelId) :
      inFlight channelId ⟨peer, s.newlyQueued⟩ ≤ defaultWindowSize :=
    (Nat.add_le_add_right hpeer _).trans hs
  cases h with
  | send _ now packet =>
    refine hless _ (le_of_eq ?_)
    unfold pendingOn
    rw [(sameReliable_sendSlice now s.peer packet).pendingReliable]
  | processAck _ bytes =>
    refine hless _ ?_
    unfold processAck
    split
    · exact le_refl _
    · exact List.filter_sublist.countP_le
  | ping _ now =>
    refine hless _ (le_of_eq ?_)
    unfold pendingOn
    rw [(sameReliable_pingIfDue now s.peer).pendingReliable]
  | drainAcks _ => exact hs
  | take peer =>
    have hpending : pendingOn (takeQueued peer).1 channelId = pendingOn peer channelId := rfl
    have htaken : (takenOn channelId (takeQueued peer).2).length ≤ capacityOn peer channelId := by
      rw [takenOn_takeQueued]
      exact List.length_take_le _ _
    have hbefore : pendingOn peer channelId ≤ defaultWindowSize := hs
    unfold capacityOn at htaken
    unfold inFlight
    dsimp only
    rw [hpending]
    omega
  | record peer now queued rest =>
    have hpending := pendingOn_sendQueued channelId now peer queued
    unfold inFlight at hs ⊢
    dsimp only at hs ⊢
    rw [length_takenOn_cons] at hs
    omega
  | resend peer now =>
    have hpending : pendingOn (resendDue now peer).1 channelId = pendingOn peer channelId := List.countP_map
    unfold inFlight at hs ⊢
    rw [hpending]
    exact hs

theorem inFlight_le {s₀ s : PeerRun} {ts : PeerHistory} (hrun : Run PeerStep s₀ ts s)
    (hpending : s₀.peer.pendingReliable = ∅) (htaken : s₀.newlyQueued = []) (channelId : UInt8) :
    (∀ tr ∈ ts, inFlight channelId tr.src ≤ defaultWindowSize ∧ inFlight channelId tr.dst ≤ defaultWindowSize) ∧
      inFlight channelId s ≤ defaultWindowSize := by
  have hzero : inFlight channelId s₀ = 0 := by
    rw [inFlight, pendingOn, hpending, htaken]
    rfl
  exact hrun.invariant (hzero ▸ Nat.zero_le _) fun _ _ _ hst hs => inFlight_step hst hs

/-- What was recorded on a channel id is what was queued there first. -/
lemma getElem?_enqueuedOn {s₀ s : PeerRun} {ts : PeerHistory} (hrun : Run PeerStep s₀ ts s) {channelId : UInt8}
    (hwaiting : waitingOn channelId s₀ = []) {index : ℕ} {payload : Bytes}
    (h : (recordedOn channelId ts)[index]? = some payload) : (enqueuedOn channelId ts)[index]? = some payload := by
  have hconserved := hrun.conserved fun _ _ _ hst => @waitingOn_step channelId _ _ _ hst
  rw [hwaiting, List.nil_append] at hconserved
  obtain ⟨hlt, -⟩ := List.getElem?_eq_some_iff.mp h
  change (List.flatMap _ ts)[index]? = _
  rw [hconserved]
  exact (List.getElem?_append_left hlt).trans h

/-- **Reliable channels keep their order and their window.**  In every run of a live peer the packet sent at a
place of a channel id is that of the payload queued at the same place, under its number; what is sent again is what
was sent before; and never more than 128 packets of a channel id are pending. -/
theorem reliable_channels_in_order {id : PeerId} {addr : SocketAddr} {connectionNumber : UInt8} {connectTime : Int64}
    {created : ℕ} {ts : PeerHistory} {s : PeerRun}
    (hrun : Run PeerStep ⟨PeerState.new id addr connectionNumber connectTime created, []⟩ ts s) :
    (∀ channelId index bytes, (firstSentOn channelId ts)[index]? = some bytes →
      ∃ payload, (enqueuedOn channelId ts)[index]? = some payload ∧
        bytes = packetAt (PeerState.new id addr connectionNumber connectTime created) channelId index payload) ∧
    (∀ before tr after, ts = before ++ tr :: after → ∀ e ∈ resends tr,
      ∃ index, e.1.sequence = sequenceOf index ∧ (firstSentOn e.1.channelId before)[index]? = some e.2.bytes) ∧
    ∀ channelId, (∀ tr ∈ ts, pendingOn tr.src.peer channelId ≤ defaultWindowSize ∧
      pendingOn tr.dst.peer channelId ≤ defaultWindowSize) ∧ pendingOn s.peer channelId ≤ defaultWindowSize := by
  refine ⟨fun channelId index bytes hbytes => ?_, fun before tr after hts e he => ?_, fun channelId => ?_⟩
  · rw [firstSentOn_eq hrun rfl, List.getElem?_mapIdx, Option.map_eq_some_iff] at hbytes
    obtain ⟨payload, hpayload, rfl⟩ := hbytes
    exact ⟨payload, getElem?_enqueuedOn hrun rfl hpayload, rfl⟩
  · subst hts
    have hbefore := hrun.split
    obtain ⟨src, l, dst⟩ := tr
    cases l with
    | resend now =>
      have hmem : e ∈ src.peer.pendingReliable.entries := List.mem_of_mem_filter he
      obtain ⟨index, payload, hrecorded, hkey, hsent⟩ :=
        wasSent_of_run hbefore rfl rfl e.1 e.2 (AList.mem_lookup_iff.mpr hmem)
      refine ⟨index, hkey, ?_⟩
      rw [firstSentOn_eq hbefore rfl, List.getElem?_mapIdx, hrecorded, hsent]
      rfl
    | _ => exact absurd he List.not_mem_nil
  · obtain ⟨hall, hlast⟩ := inFlight_le hrun rfl rfl channelId
    have hle (s : PeerRun) (h : inFlight channelId s ≤ defaultWindowSize) :
        pendingOn s.peer channelId ≤ defaultWindowSize := (Nat.le_add_right _ _).trans h
    exact ⟨fun tr htr => ⟨hle _ (hall tr htr).1, hle _ (hall tr htr).2⟩, hle _ hlast⟩

/-- The payload of the visitor is sent again. -/
theorem reliable_channels_in_order_resent :
    let resent : Transition PeerRun PeerCall :=
      ⟨recordedVisitor, .resend 200, ⟨(resendDue 200 recordedVisitor.peer).1, []⟩⟩
    (∃ payload, (enqueuedOn 6 (recordedHistory ++ [resent]))[0]? = some payload ∧
      [1, 0, 0, 6, 7] = packetAt visitorPeer 6 0 payload) ∧
    (∃ index, sequenceOf 0 = sequenceOf index ∧ (firstSentOn 6 recordedHistory)[index]? = some [1, 0, 0, 6, 7]) ∧
    pendingOn resent.dst.peer 6 ≤ defaultWindowSize := by
  intro resent
  have hrun : Run PeerStep ⟨PeerState.new 0 localAddr 0 1 0, []⟩ (recordedHistory ++ [resent]) resent.dst :=
    (((Run.nil.snoc (.send _ 0 (1, .reliableOrdered, [7]))).snoc (.take queuedVisitor)).snoc
      (.record takenVisitor.peer 15 (6, [7]) [])).snoc (.resend recordedVisitor.peer 200)
  obtain ⟨hfirst, hagain, hwindow⟩ := reliable_channels_in_order hrun
  refine ⟨hfirst 6 0 _ (by decide), ?_, (hwindow 6).2⟩
  exact hagain recordedHistory resent [] rfl ⟨⟨6, sequenceOf 0⟩, ⟨[1, 0, 0, 6, 7], 15⟩⟩ (by decide)

end BasisRust.Transport
