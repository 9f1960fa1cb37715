import BasisRust.Transport.Peer

/-!
# Acknowledgements are sound

The ack state of a channel id is a circular window of 128 numbers modulo 32768.  `queue_ack` only ever
slides it and marks the number received, and `process_ack` removes a pending packet only where its own
window test finds a mark, so what is removed was received.
-/

namespace BasisRust.Transport

open Lib Protocol

/-- The ack state as a window: the marks are the bits. -/
def AckState.toWindow (ack : AckState) : CircularWindow where
  start := ack.windowStart.toNat
  marks := getBit ack.bits

/-- A sequence number of the range both senders number their packets in. -/
def InRange (sequence : UInt16) : Prop := sequence.toNat < maxSequence

/-- **The invariant of an ack state**: a bitmap for every residue, and a sound window. -/
structure AckState.Sound (seen : UInt16 → Prop) (ack : AckState) : Prop where
  bits : defaultWindowSize ≤ 8 * ack.bits.length
  window : ack.toWindow.Sound maxSequence defaultWindowSize fun n => seen (UInt16.ofNat n)

/-! ### The signed distance -/

/-- A distance that is not negative is the distance on the circle. -/
theorem relativeSequence_of_nonneg {seq expected : UInt16} (hseq : InRange seq)
    (hexpected : InRange expected) (h : 0 ≤ relativeSequence seq expected) :
    (relativeSequence seq expected).toNat = ahead maxSequence expected.toNat seq.toNat := by
  unfold InRange maxSequence at hseq hexpected
  unfold relativeSequence at h ⊢
  unfold ahead maxSequence
  dsimp only at h ⊢
  split_ifs at h ⊢ <;> omega

/-- The window test of both sides is the one on the circle. -/
theorem relativeSequence_in_window {seq expected : UInt16} (hseq : InRange seq)
    (hexpected : InRange expected)
    (h : ¬ (relativeSequence seq expected < 0 ∨
      (relativeSequence seq expected).toNat ≥ defaultWindowSize)) :
    ahead maxSequence expected.toNat seq.toNat < defaultWindowSize := by
  obtain ⟨hneg, hlarge⟩ := not_or.mp h
  rw [← relativeSequence_of_nonneg hseq hexpected (not_lt.mp hneg)]
  exact not_le.mp hlarge

lemma relativeSequence_le (seq expected : UInt16) (hexpected : InRange expected)
    (hseq : InRange seq) : relativeSequence seq expected ≤ 16384 := by
  unfold InRange maxSequence at hseq hexpected
  unfold relativeSequence
  dsimp only
  split_ifs <;> omega

/-! ### `queue_ack` -/

namespace AckState

variable {seen : UInt16 → Prop} {ack : AckState} {sequence : UInt16}

theorem Sound.start (h : ack.Sound seen) : InRange ack.windowStart := h.window.start

theorem Sound.mono {seen' : UInt16 → Prop} (h : ack.Sound seen) (hle : ∀ s, seen s → seen' s) :
    ack.Sound seen' where
  bits := h.bits
  window := h.window.mono fun n => hle (UInt16.ofNat n)

theorem sound_fresh (hseq : InRange sequence) : (AckState.fresh sequence).Sound seen where
  bits := by simp [AckState.fresh, defaultWindowSize]
  window := by
    have hmarks : (AckState.fresh sequence).toWindow = ⟨sequence.toNat, fun _ => false⟩ := by
      unfold toWindow AckState.fresh
      congr 1
      funext i
      exact getBit_replicate _ i
    rw [hmarks]
    exact CircularWindow.Sound.fresh hseq

/-- The sequences cleared are those the start passes over; there is no wrap of the `u16` in between. -/
theorem toWindow_slide {shift : ℕ} (hstart : InRange ack.windowStart) (hshift : shift ≤ 16384) :
    (ack.slide shift).toWindow = ack.toWindow.slide maxSequence defaultWindowSize shift := by
  have hstop : (ack.windowStart + UInt16.ofNat shift).toNat = ack.windowStart.toNat + shift := by
    unfold InRange maxSequence at hstart
    rw [UInt16.toNat_add, UInt16.toNat_ofNat']
    omega
  unfold toWindow slide CircularWindow.slide
  congr 1
  · show ((ack.windowStart + UInt16.ofNat shift) % 32768).toNat = _
    rw [UInt16.toNat_mod, hstop]
    rfl
  · funext r
    rw [getBit_foldl_clearBit]
    congr 1
    rw [decide_eq_decide]
    simp only [oldSequences, hstop, List.mem_map, List.mem_range', not_exists, not_and]
    constructor
    · intro h i hi
      exact h (ack.windowStart.toNat + i) ⟨i, by omega, by omega⟩
    · rintro h n ⟨i, hi, rfl⟩
      have := h i (by omega)
      rwa [Nat.one_mul]

theorem Sound.slide {shift : ℕ} (h : ack.Sound seen) (hshift : shift ≤ 16384) :
    (ack.slide shift).Sound seen where
  bits := by
    show defaultWindowSize ≤ 8 * (((ack.oldSequences shift).map _).foldl clearBit ack.bits).length
    rw [length_foldl_clearBit]
    exact h.bits
  window := by
    rw [toWindow_slide h.start hshift]
    exact h.window.slide (by decide) (by decide) (by decide)

/-- Setting the bit of a covered sequence that was received. -/
theorem Sound.mark (h : ack.Sound seen) (hseq : InRange sequence)
    (hcovers : ahead maxSequence ack.windowStart.toNat sequence.toNat < defaultWindowSize)
    (hseen : seen sequence) :
    Sound seen { ack with bits := setBit ack.bits (sequence.toNat % defaultWindowSize) } where
  bits := by simpa using h.bits
  window := by
    have hbyte : sequence.toNat % defaultWindowSize / 8 < ack.bits.length := by
      have hbits := h.bits
      have hlt : sequence.toNat % defaultWindowSize < defaultWindowSize :=
        Nat.mod_lt _ (by decide)
      omega
    have hmark : toWindow { ack with bits := setBit ack.bits (sequence.toNat % defaultWindowSize) }
        = ack.toWindow.mark defaultWindowSize sequence.toNat := by
      unfold toWindow CircularWindow.mark
      congr 1
      funext r
      exact getBit_setBit hbyte r
    rw [hmark]
    refine h.window.mark (by decide) ⟨hseq, hcovers⟩ ?_
    rwa [UInt16.ofNat_toNat]

/-- **One received sequence.**  Behind the window nothing changes; inside it the bit is set; ahead of it
the window first slides until the sequence is its last. -/
theorem Sound.receive (h : ack.Sound seen) (hseq : InRange sequence) (hseen : seen sequence) :
    (ack.receive sequence).Sound seen := by
  unfold AckState.receive
  by_cases hneg : relativeSequence sequence ack.windowStart < 0
  · simp only [if_pos hneg]
    exact h
  · have hahead := relativeSequence_of_nonneg hseq h.start (not_lt.mp hneg)
    simp only [if_neg hneg]
    by_cases hlarge : (relativeSequence sequence ack.windowStart).toNat ≥ defaultWindowSize
    · set shift := (relativeSequence sequence ack.windowStart).toNat - defaultWindowSize + 1
        with hshift
      have hle := relativeSequence_le sequence ack.windowStart h.start hseq
      have hsmall : shift ≤ 16384 := by
        unfold defaultWindowSize at hshift hlarge
        omega
      have hslide := h.slide hsmall
      rw [if_pos hlarge]
      refine hslide.mark hseq ?_ hseen
      have hstart : (ack.slide shift).windowStart.toNat
          = (ack.windowStart.toNat + shift) % maxSequence := by
        have hstart' := congrArg CircularWindow.start (toWindow_slide h.start hsmall)
        simpa only [toWindow, CircularWindow.slide] using hstart'
      have hreach : shift ≤ ahead maxSequence ack.windowStart.toNat sequence.toNat := by
        rw [← hahead]
        unfold defaultWindowSize at hshift hlarge
        omega
      rw [hstart, CircularWindow.ahead_add_mod h.start hseq hreach, ← hahead]
      unfold defaultWindowSize at hshift hlarge ⊢
      omega
    · rw [if_neg hlarge]
      refine h.mark hseq ?_ hseen
      rw [← hahead]
      exact not_le.mp hlarge

end AckState

/-- `queue_ack` touches the state of its own channel id. -/
theorem lookup_queueAck (peer : PeerState) (channelId : UInt8) (sequence : UInt16) (c : UInt8) :
    (queueAck peer channelId sequence).outgoingAcks.lookup c
      = if c = channelId then
          some (((peer.outgoingAcks.lookup channelId).getD (AckState.fresh sequence)).receive sequence)
        else peer.outgoingAcks.lookup c :=
  Dict.lookup_insert ..

/-- `queue_ack` leaves a sound state on its channel id. -/
theorem sound_queueAck {peer : PeerState} {channelId : UInt8} {sequence : UInt16}
    {seen : UInt16 → Prop} (hseq : InRange sequence) (hseen : seen sequence)
    (h : ∀ ack, peer.outgoingAcks.lookup channelId = some ack → ack.Sound seen) :
    ∃ ack, (queueAck peer channelId sequence).outgoingAcks.lookup channelId = some ack ∧
      ack.Sound seen := by
  refine ⟨_, (lookup_queueAck ..).trans (if_pos rfl), ?_⟩
  cases hack : peer.outgoingAcks.lookup channelId with
  | none => exact (AckState.sound_fresh hseq).receive hseq hseen
  | some ack => exact (h ack hack).receive hseq hseen

/-- **A run of `queue_ack`** on one channel id: the state is sound for all that was received. -/
theorem sound_foldl_queueAck {channelId : UInt8} {seen : UInt16 → Prop} {sequences : List UInt16}
    {peer : PeerState} (hseqs : ∀ s ∈ sequences, InRange s ∧ seen s)
    (h : ∀ ack, peer.outgoingAcks.lookup channelId = some ack → ack.Sound seen) :
    ∀ ack, (sequences.foldl (fun p s => queueAck p channelId s) peer).outgoingAcks.lookup channelId
      = some ack → ack.Sound seen := by
  induction sequences generalizing peer with
  | nil => exact h
  | cons s sequences ih =>
    obtain ⟨hs, hrest⟩ := List.forall_mem_cons.mp hseqs
    obtain ⟨ack, hlookup, hsound⟩ := sound_queueAck hs.1 hs.2 h
    refine ih hrest fun ack' hlookup' => ?_
    rw [hlookup] at hlookup'
    exact Option.some.inj hlookup' ▸ hsound

/-- An entry stays where it is once there. -/
lemma lookup_foldl_queueAck {channelId : UInt8} {sequences : List UInt16} {peer : PeerState}
    (h : sequences ≠ [] ∨ ∃ ack, peer.outgoingAcks.lookup channelId = some ack) :
    ∃ ack, (sequences.foldl (fun p s => queueAck p channelId s) peer).outgoingAcks.lookup channelId
      = some ack := by
  induction sequences generalizing peer with
  | nil => exact h.resolve_left (absurd rfl)
  | cons s sequences ih =>
    exact ih (.inr ⟨_, (lookup_queueAck ..).trans (if_pos rfl)⟩)

/-! ### `process_ack` -/

section Packet

variable (connectionNumber channelId : UInt8) (ack : AckState)

lemma u16At_buildAckPacket :
    u16At (buildAckPacket connectionNumber channelId ack) 1 = ack.windowStart :=
  u16At_of_slice rfl

lemma length_buildAckPacket : 4 ≤ (buildAckPacket connectionNumber channelId ack).length := by
  simp only [buildAckPacket, List.length_append, List.length_singleton, length_leBytes]
  omega

/-- The test on the packet is the one on the ack state. -/
lemma ackBitSet_buildAckPacket (sequence : UInt16) :
    ackBitSet (buildAckPacket connectionNumber channelId ack) sequence
      = if relativeSequence sequence ack.windowStart < 0 ∨
          (relativeSequence sequence ack.windowStart).toNat ≥ defaultWindowSize then false
        else getBit ack.bits (sequence.toNat % defaultWindowSize) := by
  unfold ackBitSet
  rw [u16At_buildAckPacket]
  rfl

end Packet

/-- What a sound state acknowledges was received. -/
theorem seen_of_ackBitSet {seen : UInt16 → Prop} {ack : AckState} {sequence : UInt16}
    {connectionNumber channelId : UInt8} (h : ack.Sound seen) (hseq : InRange sequence)
    (hset : ackBitSet (buildAckPacket connectionNumber channelId ack) sequence) : seen sequence := by
  rw [ackBitSet_buildAckPacket] at hset
  split at hset
  · cases hset
  · rename_i hwindow
    have hcovers := relativeSequence_in_window hseq h.start hwindow
    have := h.window.seen_of_mark sequence.toNat ⟨hseq, hcovers⟩ hset
    rwa [UInt16.ofNat_toNat] at this

/-- **Acknowledgements are sound.**  Whatever a sender drops on receiving the ack packet was received,
and packets of other channel ids stay. -/
theorem process_ack_sound {sequences : List UInt16} (hne : sequences ≠ [])
    (hrange : ∀ s ∈ sequences, InRange s) {receiver : PeerState} {channelId : UInt8}
    (hnew : receiver.outgoingAcks.lookup channelId = none) (connectionNumber : UInt8)
    {sender : PeerState} (hpending : ∀ key ∈ sender.pendingReliable, InRange key.sequence) :
    ∃ ack,
      (sequences.foldl (fun p s => queueAck p channelId s) receiver).outgoingAcks.lookup channelId
        = some ack ∧
      (∀ key ∈ sender.pendingReliable,
        key ∉ (processAck sender (buildAckPacket connectionNumber channelId ack)).pendingReliable →
        key.channelId = channelId ∧ key.sequence ∈ sequences) ∧
      ∀ key, key.channelId ≠ channelId →
        (processAck sender (buildAckPacket connectionNumber channelId ack)).pendingReliable.lookup key
          = sender.pendingReliable.lookup key := by
  obtain ⟨ack, hack⟩ := @lookup_foldl_queueAck channelId sequences receiver (.inl hne)
  have hsound : ack.Sound (· ∈ sequences) :=
    sound_foldl_queueAck (fun s hs => ⟨hrange s hs, hs⟩)
      (fun ack' h => absurd (hnew ▸ h) (by simp)) ack hack
  have hchannel : u8At (buildAckPacket connectionNumber channelId ack) 3 = channelId := rfl
  have hprocess : (processAck sender (buildAckPacket connectionNumber channelId ack)).pendingReliable
      = Dict.retain (fun key _ => if key.channelId ≠ channelId then true
          else !ackBitSet (buildAckPacket connectionNumber channelId ack) key.sequence)
        sender.pendingReliable := by
    rw [processAck, if_neg (not_lt.mpr (length_buildAckPacket ..))]
    simp only [hchannel]
  refine ⟨ack, hack, fun key hkey hgone => ?_, fun key hother => ?_⟩
  · rw [hprocess, Dict.mem_retain] at hgone
    obtain ⟨v, hv⟩ := Dict.mem_iff_lookup.mp hkey
    by_cases hother : key.channelId ≠ channelId
    · exact absurd ⟨v, hv, if_pos hother⟩ hgone
    · refine ⟨not_not.mp hother, ?_⟩
      have hset : ackBitSet (buildAckPacket connectionNumber channelId ack) key.sequence := by
        by_contra hclear
        exact hgone ⟨v, hv, by rw [if_neg hother]; simpa using hclear⟩
      exact seen_of_ackBitSet hsound (hpending key hkey) hset
  · rw [hprocess, Dict.lookup_retain, if_pos hother]
    cases sender.pendingReliable.lookup key <;> rfl

/-- A window that wraps and then jumps ahead, and a sender that waits for one packet of it, one that
was never received and one of another channel id. -/
theorem process_ack_sound_wrap :
    let receiver := PeerState.new 0 (.v4 #v[127, 0, 0, 1] 4296) 0 0 0
    let sender : PeerState :=
      { receiver with
        pendingReliable := ((AList.insert ⟨6, 130⟩ ⟨[], 0⟩ ∅).insert ⟨6, 131⟩ ⟨[], 0⟩).insert
          ⟨2, 130⟩ ⟨[], 0⟩ }
    ∃ ack,
      ([32767, 0, 130].foldl (fun p s => queueAck p 6 s) receiver).outgoingAcks.lookup 6
        = some ack ∧
      (∀ key ∈ sender.pendingReliable,
        key ∉ (processAck sender (buildAckPacket 1 6 ack)).pendingReliable →
        key.channelId = 6 ∧ key.sequence ∈ [32767, 0, 130]) ∧
      ∀ key, key.channelId ≠ 6 →
        (processAck sender (buildAckPacket 1 6 ack)).pendingReliable.lookup key
          = sender.pendingReliable.lookup key := by
  intro receiver sender
  refine process_ack_sound (by decide) ?_ rfl 1 ?_
  · intro s hs
    simp only [List.mem_cons, List.not_mem_nil, or_false] at hs
    rcases hs with rfl | rfl | rfl
    all_goals
      unfold InRange
      decide
  · intro key hkey
    rcases AList.mem_insert _ |>.mp hkey with rfl | hkey
    · show (130 : UInt16).toNat < maxSequence
      decide
    rcases AList.mem_insert _ |>.mp hkey with rfl | hkey
    · show (131 : UInt16).toNat < maxSequence
      decide
    rcases AList.mem_insert _ |>.mp hkey with rfl | hkey
    · show (130 : UInt16).toNat < maxSequence
      decide
    · exact absurd hkey (AList.notMem_empty _)

end BasisRust.Transport
