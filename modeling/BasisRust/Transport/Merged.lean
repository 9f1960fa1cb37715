import BasisRust.Lib.Framing
import BasisRust.Transport.Packet

/-!
# Merged datagrams

`build_merged_datagrams` packs a list of packets into datagrams of at most 1200 bytes;
`process_merged_packet` cuts a merged datagram back into packets.  What the packer does is best said
without its buffer: it splits the list into consecutive batches, a batch of one travelling as it is
and a larger one framed behind a merged header (`buildMergedDatagrams_eq`).
-/

namespace BasisRust.Transport

open Lib Protocol

/-! ### The packer -/

def unpackSingleMergedPacket (merged : Bytes) : Bytes :=
  if merged.length < 3 then merged
  else
    let size := (u16At merged 1).toNat
    if merged.length < 3 + size then merged else slice merged 3 size

/-- The locals of the loop: the datagrams done, the running buffer and the packets in it. -/
structure MergeState where
  datagrams : List Bytes
  current : Bytes
  currentCount : ℕ

/-- The datagram of a buffer that holds packets: a single one is unwrapped. -/
def MergeState.datagram (s : MergeState) : Bytes :=
  if s.currentCount = 1 then unpackSingleMergedPacket s.current else s.current

/-- The buffer is sent and started afresh. -/
def MergeState.flush (connectionNumber : UInt8) (s : MergeState) : MergeState where
  datagrams := s.datagrams ++ [s.datagram]
  current := [headerByte .merged connectionNumber]
  currentCount := 0

/-- One round of the loop. -/
def mergeStep (connectionNumber : UInt8) (s : MergeState) (packet : Bytes) : MergeState :=
  let framedLen := 2 + packet.length
  let s :=
    if s.currentCount > 0 ∧ s.current.length + framedLen > maxMergedPacketSize then
      s.flush connectionNumber
    else s
  if framedLen + 1 > maxMergedPacketSize then
    let s := if s.currentCount > 0 then s.flush connectionNumber else s
    { s with datagrams := s.datagrams ++ [packet] }
  else
    { s with
      current := s.current ++ leBytes 2 (UInt16.ofNat packet.length).toNat ++ packet
      currentCount := s.currentCount + 1 }

def buildMergedDatagrams (connectionNumber : UInt8) (packets : List Bytes) : List Bytes :=
  if packets.length ≤ 1 then packets
  else
    let s := packets.foldl (mergeStep connectionNumber)
      ⟨[], [headerByte .merged connectionNumber], 0⟩
    if s.currentCount = 1 then s.datagrams ++ [unpackSingleMergedPacket s.current]
    else if s.currentCount > 1 then s.datagrams ++ [s.current]
    else s.datagrams

/-! ### The cutter -/

/-- `bytes.first().and_then(PacketProperty::from_byte)`. -/
def propertyOf (bytes : Bytes) : Option PacketProperty :=
  bytes.head?.bind PacketProperty.fromByte

def isValidMergedPacket (bytes : Bytes) : Bool :=
  match propertyOf bytes with
  | none => false
  | some property =>
    let headerSize :=
      match property with
      | .unreliable => 2
      | .channeled => 4
      | .ack => 4
      | .ping => 3
      | .pong => 11
      | .connectRequest => 18
      | .connectAccept => 15
      | .disconnect => 9
      | _ => 1
    bytes.length ≥ headerSize

/-- The loop of `process_merged_packet` over the bytes from its position on: the packets it hands to
`process_packet`. -/
def mergedPacketsFrom : Bytes → List Bytes
  | [] => []
  | [_] => []
  | lo :: hi :: rest =>
    let size := leVal [lo, hi]
    if size = 0 then []
    else if rest.length < size then []
    else
      let packet := rest.take size
      let more := mergedPacketsFrom (rest.drop size)
      if isValidMergedPacket packet then packet :: more else more
termination_by bytes => bytes.length
decreasing_by
  rw [List.length_drop, List.length_cons, List.length_cons]
  omega

/-- The packets of a merged datagram; the loop starts behind the header byte. -/
def mergedPackets (bytes : Bytes) : List Bytes := mergedPacketsFrom (bytes.drop 1)

/-- The server's loop cuts frames and passes over those that are not valid packets. -/
theorem mergedPacketsFrom_eq (bytes : Bytes) :
    mergedPacketsFrom bytes = (cutFrames bytes).filter isValidMergedPacket := by
  induction bytes using cutFrames.induct with
  | case1 lo hi rest size hstop =>
    rw [mergedPacketsFrom, cutFrames, if_pos hstop]
    rcases hstop with hzero | hshort
    · rw [if_pos hzero, List.filter_nil]
    · by_cases hzero : leVal [lo, hi] = 0
      · rw [if_pos hzero, List.filter_nil]
      · rw [if_neg hzero, if_pos hshort, List.filter_nil]
  | case2 lo hi rest size hwhole ih =>
    obtain ⟨hzero, hshort⟩ := not_or.mp hwhole
    rw [mergedPacketsFrom, cutFrames, if_neg hwhole, if_neg hzero, if_neg hshort, List.filter_cons,
      ih]
  | case3 bytes hbytes =>
    rcases bytes with _ | ⟨lo, _ | ⟨hi, rest⟩⟩
    · simp [mergedPacketsFrom]
    · simp [mergedPacketsFrom, cutFrames]
    · exact absurd rfl (hbytes lo hi rest)

/-! ### Batches -/

/-- A batch as a datagram. -/
def batchDatagram (connectionNumber : UInt8) : List Bytes → Bytes
  | [packet] => packet
  | batch => headerByte .merged connectionNumber :: batch.flatMap frame

/-- The single packet of a buffer comes out unchanged. -/
theorem unpackSingleMergedPacket_frame (header : UInt8) {packet : Bytes}
    (hlt : packet.length < 65536) : unpackSingleMergedPacket (header :: frame packet) = packet := by
  have hsize : (u16At (header :: frame packet) 1).toNat = packet.length := by
    have h : u16At (header :: frame packet) 1 = UInt16.ofNat packet.length := by
      refine u16At_of_slice ?_
      rw [UInt16.toNat_ofNat', Nat.mod_eq_of_lt hlt]
      rfl
    rw [h, UInt16.toNat_ofNat', Nat.mod_eq_of_lt hlt]
  have hlen : (header :: frame packet).length = 3 + packet.length := by
    rw [List.length_cons, length_frame]
    omega
  have hslice : slice (header :: frame packet) 3 packet.length = packet := List.take_length
  unfold unpackSingleMergedPacket
  rw [if_neg (by omega)]
  simp only [hsize]
  rw [if_neg (by omega), hslice]

/-- **What the buffer stands for**, given the batches sent and the packets of the open one. -/
structure MergeState.Holds (connectionNumber : UInt8) (batches : List (List Bytes))
    (opened : List Bytes) (s : MergeState) : Prop where
  datagrams : s.datagrams = batches.map (batchDatagram connectionNumber)
  current : s.current = headerByte .merged connectionNumber :: opened.flatMap frame
  currentCount : s.currentCount = opened.length
  /-- The buffer never outgrows a datagram, so no length prefix is cut. -/
  fits : s.current.length ≤ maxMergedPacketSize
  /-- A batch sent holds a packet, and one of two or more is a datagram of at most 1200 bytes. -/
  batch : ∀ b ∈ batches, b ≠ [] ∧
    (2 ≤ b.length → (batchDatagram connectionNumber b).length ≤ maxMergedPacketSize)

namespace MergeState.Holds

variable {connectionNumber : UInt8} {batches : List (List Bytes)} {opened : List Bytes}
  {s : MergeState}

theorem init : Holds connectionNumber [] [] ⟨[], [headerByte .merged connectionNumber], 0⟩ where
  datagrams := rfl
  current := rfl
  currentCount := rfl
  fits := Nat.le_of_ble_eq_true rfl
  batch := fun _ hb => absurd hb List.not_mem_nil

/-- A buffer with packets is the datagram of the open batch. -/
theorem datagram_eq (h : s.Holds connectionNumber batches opened) (hopened : opened ≠ []) :
    s.datagram = batchDatagram connectionNumber opened := by
  unfold datagram
  rw [h.currentCount, h.current]
  match opened, hopened with
  | [packet], _ =>
    have hlt : packet.length < 65536 := by
      have hfits := h.fits
      rw [h.current] at hfits
      simp only [List.flatMap_cons, List.flatMap_nil, List.append_nil, List.length_cons,
        length_frame, maxMergedPacketSize] at hfits
      omega
    rw [List.length_singleton, if_pos rfl, List.flatMap_cons, List.flatMap_nil, List.append_nil]
    exact unpackSingleMergedPacket_frame _ hlt
  | packet :: packet' :: rest, _ =>
    rw [if_neg (by simp only [List.length_cons]; omega)]
    rfl

/-- Flushing closes the open batch. -/
theorem flush (h : s.Holds connectionNumber batches opened) (hopened : opened ≠ []) :
    (s.flush connectionNumber).Holds connectionNumber (batches ++ [opened]) [] where
  datagrams := by
    simp only [MergeState.flush, h.datagrams, h.datagram_eq hopened, List.map_append, List.map_cons,
      List.map_nil]
  current := rfl
  currentCount := rfl
  fits := Nat.le_of_ble_eq_true rfl
  batch := by
    intro b hb
    rcases List.mem_append.mp hb with hb | hb
    · exact h.batch b hb
    · rw [List.mem_singleton.mp hb]
      refine ⟨hopened, fun htwo => ?_⟩
      have hfits := h.fits
      match opened, htwo with
      | packet :: packet' :: rest, _ => rwa [h.current] at hfits

/-- A packet too large for any buffer is a batch of its own. -/
theorem bypass (h : s.Holds connectionNumber batches []) (packet : Bytes) :
    Holds connectionNumber (batches ++ [[packet]]) []
      { s with datagrams := s.datagrams ++ [packet] } where
  datagrams := by
    simp only [h.datagrams, List.map_append, List.map_cons, List.map_nil, batchDatagram]
  current := h.current
  currentCount := h.currentCount
  fits := h.fits
  batch := by
    intro b hb
    rcases List.mem_append.mp hb with hb | hb
    · exact h.batch b hb
    · rw [List.mem_singleton.mp hb]
      exact ⟨List.cons_ne_nil _ _, fun htwo => absurd htwo (by simp)⟩

/-- A packet that fits joins the open batch. -/
theorem push (h : s.Holds connectionNumber batches opened) {packet : Bytes}
    (hfits : s.current.length + (2 + packet.length) ≤ maxMergedPacketSize) :
    Holds connectionNumber batches (opened ++ [packet])
      { s with
        current := s.current ++ leBytes 2 (UInt16.ofNat packet.length).toNat ++ packet
        currentCount := s.currentCount + 1 } where
  datagrams := h.datagrams
  current := by
    have hlt : packet.length < 65536 := by
      unfold maxMergedPacketSize at hfits
      omega
    simp only [h.current, UInt16.toNat_ofNat', Nat.mod_eq_of_lt hlt, List.flatMap_append,
      List.flatMap_cons, List.flatMap_nil, List.append_nil, List.cons_append, List.append_assoc]
    rfl
  currentCount := by simp only [h.currentCount, List.length_append, List.length_singleton]
  fits := by
    simp only [List.length_append, length_leBytes]
    omega
  batch := h.batch

/-- **One round**: the packet is added behind the packets so far, whatever is flushed on the way. -/
theorem mergeStep (h : s.Holds connectionNumber batches opened) (packet : Bytes) :
    ∃ batches' opened',
      (mergeStep connectionNumber s packet).Holds connectionNumber batches' opened' ∧
      batches'.flatten ++ opened' = batches.flatten ++ opened ++ [packet] := by
  unfold Transport.mergeStep
  simp only [h.currentCount]
  by_cases hfull : opened.length > 0 ∧ s.current.length + (2 + packet.length) > maxMergedPacketSize
  · -- the first flush leaves an empty buffer
    have hopened : opened ≠ [] := List.length_pos_iff.mp hfull.1
    have hflush := h.flush hopened
    rw [if_pos hfull]
    by_cases hlarge : 2 + packet.length + 1 > maxMergedPacketSize
    · rw [if_pos hlarge, if_neg (by simp [MergeState.flush])]
      exact ⟨_, _, hflush.bypass packet, by simp⟩
    · rw [if_neg hlarge]
      refine ⟨_, _, hflush.push ?_, by simp⟩
      show 1 + (2 + packet.length) ≤ maxMergedPacketSize
      omega
  · rw [if_neg hfull]
    by_cases hlarge : 2 + packet.length + 1 > maxMergedPacketSize
    · -- a packet this large overflows any buffer, so the buffer is empty here
      have hempty : opened = [] := by
        by_contra hne
        have hpos := List.length_pos_iff.mpr hne
        have hcur : 1 ≤ s.current.length := by rw [h.current]; simp
        exact hfull ⟨hpos, by omega⟩
      subst hempty
      rw [if_pos hlarge, if_neg (by simp [h.currentCount])]
      exact ⟨_, _, h.bypass packet, by simp⟩
    · rw [if_neg hlarge]
      refine ⟨_, _, h.push ?_, by simp⟩
      by_cases hne : opened.length > 0
      · exact not_lt.mp fun hgt => hfull ⟨hne, hgt⟩
      · have hnil : opened = [] := List.eq_nil_of_length_eq_zero (by omega)
        rw [h.current, hnil]
        show 1 + (2 + packet.length) ≤ maxMergedPacketSize
        omega

/-- The whole loop. -/
theorem foldl (h : s.Holds connectionNumber batches opened) (packets : List Bytes) :
    ∃ batches' opened',
      (packets.foldl (Transport.mergeStep connectionNumber) s).Holds connectionNumber
        batches' opened' ∧
      batches'.flatten ++ opened' = batches.flatten ++ opened ++ packets := by
  induction packets generalizing s batches opened with
  | nil => exact ⟨batches, opened, h, by simp⟩
  | cons packet packets ih =>
    obtain ⟨batches₁, opened₁, h₁, heq₁⟩ := h.mergeStep packet
    obtain ⟨batches₂, opened₂, h₂, heq₂⟩ := ih h₁
    refine ⟨batches₂, opened₂, h₂, ?_⟩
    rw [heq₂, heq₁, List.append_assoc, List.singleton_append]

end MergeState.Holds

/-- **The packer splits its packets into consecutive batches.** -/
theorem buildMergedDatagrams_eq (connectionNumber : UInt8) (packets : List Bytes) :
    ∃ batches : List (List Bytes),
      buildMergedDatagrams connectionNumber packets
        = batches.map (batchDatagram connectionNumber) ∧
      batches.flatten = packets ∧
      ∀ b ∈ batches, b ≠ [] ∧
        (2 ≤ b.length → (batchDatagram connectionNumber b).length ≤ maxMergedPacketSize) := by
  unfold buildMergedDatagrams
  split
  next hfew =>
    match packets, hfew with
    | [], _ => exact ⟨[], rfl, rfl, fun _ hb => absurd hb List.not_mem_nil⟩
    | [packet], _ => exact ⟨[[packet]], rfl, rfl, by simp⟩
  next =>
    set s := packets.foldl (mergeStep connectionNumber)
      ⟨[], [headerByte .merged connectionNumber], 0⟩ with hs
    obtain ⟨batches, opened, h, heq⟩ :
        ∃ batches opened, s.Holds connectionNumber batches opened ∧
          batches.flatten ++ opened = [].flatten ++ [] ++ packets :=
      MergeState.Holds.init.foldl packets
    by_cases hopened : opened = []
    · subst hopened
      have hcount : s.currentCount = 0 := h.currentCount
      refine ⟨batches, ?_, by simpa using heq, h.batch⟩
      simp only [hcount]
      exact h.datagrams
    · -- what the source does with a last buffer is a flush without the reset
      have hclosed := h.flush hopened
      have hcount : s.currentCount = opened.length := h.currentCount
      have hpos := List.length_pos_iff.mpr hopened
      refine ⟨batches ++ [opened], ?_, by simpa using heq, hclosed.batch⟩
      rw [← hclosed.datagrams]
      show _ = s.datagrams ++ [s.datagram]
      unfold MergeState.datagram
      by_cases hone : s.currentCount = 1
      · simp only [if_pos hone]
      · have hmany : s.currentCount > 1 := by omega
        simp only [if_neg hone, if_pos hmany]

/-! ### Cutting what was packed -/

/-- A receiver takes a merged datagram apart with its loop and any other datagram as it is. -/
def cutDatagram (loop : Bytes → List Bytes) (datagram : Bytes) : List Bytes :=
  if propertyOf datagram = some .merged then loop datagram else [datagram]

/-- A packet that may be put into a merged datagram. -/
structure Mergeable (packet : Bytes) : Prop where
  valid : isValidMergedPacket packet
  notMerged : propertyOf packet ≠ some .merged

theorem Mergeable.ne_nil {packet : Bytes} (h : Mergeable packet) : packet ≠ [] := by
  rintro rfl
  exact absurd h.valid (by decide)

/-- Each packet is shorter than the frames it stands in. -/
lemma length_le_of_mem_flatMap_frame {packet : Bytes} {batch : List Bytes} (h : packet ∈ batch) :
    packet.length ≤ (batch.flatMap frame).length := by
  obtain ⟨before, after, rfl⟩ := List.append_of_mem h
  simp only [List.flatMap_append, List.flatMap_cons, List.length_append, length_frame]
  omega

/-- A receiver whose loop undoes framing gets every batch back. -/
theorem cutDatagram_batchDatagram {loop : Bytes → List Bytes} {connectionNumber : UInt8}
    (hloop : ∀ batch : List Bytes, (∀ p ∈ batch, Mergeable p ∧ p.length < 65536) →
      loop (headerByte .merged connectionNumber :: batch.flatMap frame) = batch)
    {batch : List Bytes} (hne : batch ≠ []) (hbatch : ∀ p ∈ batch, Mergeable p)
    (hfits : 2 ≤ batch.length →
      (batchDatagram connectionNumber batch).length ≤ maxMergedPacketSize) :
    cutDatagram loop (batchDatagram connectionNumber batch) = batch := by
  match batch, hne with
  | [packet], _ =>
    have hpacket := hbatch packet (List.mem_singleton_self packet)
    exact if_neg hpacket.notMerged
  | packet :: packet' :: rest, _ =>
    have hlen := hfits (by simp)
    have hmerged : propertyOf (batchDatagram connectionNumber (packet :: packet' :: rest))
        = some .merged := fromByte_headerByte .merged connectionNumber
    rw [cutDatagram, if_pos hmerged]
    refine hloop _ fun p hp => ⟨hbatch p hp, ?_⟩
    have hle := length_le_of_mem_flatMap_frame hp
    simp only [batchDatagram, List.length_cons, maxMergedPacketSize] at hlen
    omega

/-- The loop takes merged datagrams apart. -/
def SplitsMerged (loop : Bytes → List Bytes) : Prop :=
  ∀ (header : UInt8) (batch : List Bytes), (∀ p ∈ batch, Mergeable p ∧ p.length < 65536) →
    loop (header :: batch.flatMap frame) = batch

/-- **What was packed is what a receiver gets.** -/
theorem flatMap_cutDatagram_buildMergedDatagrams {loop : Bytes → List Bytes} (hloop : SplitsMerged loop)
    (connectionNumber : UInt8) {packets : List Bytes} (h : ∀ p ∈ packets, Mergeable p) :
    (buildMergedDatagrams connectionNumber packets).flatMap (cutDatagram loop) = packets := by
  obtain ⟨batches, hbuild, hflatten, hbatch⟩ := buildMergedDatagrams_eq connectionNumber packets
  have hcut : ∀ b ∈ batches, cutDatagram loop (batchDatagram connectionNumber b) = b := fun b hb =>
    cutDatagram_batchDatagram (fun batch => hloop _ batch) (hbatch b hb).1
      (fun p hp => h p (hflatten ▸ List.mem_flatten.mpr ⟨b, hb, hp⟩)) (hbatch b hb).2
  rw [hbuild, List.flatMap_map]
  calc batches.flatMap (fun b => cutDatagram loop (batchDatagram connectionNumber b))
      = batches.flatMap id := List.flatMap_congr hcut
    _ = packets := by rw [List.flatMap_id, hflatten]

/-- A merged datagram is no longer than it may be. -/
theorem length_le_of_merged {connectionNumber : UInt8} {packets : List Bytes} (h : ∀ p ∈ packets, Mergeable p)
    {datagram : Bytes} (hdatagram : datagram ∈ buildMergedDatagrams connectionNumber packets)
    (hmerged : propertyOf datagram = some .merged) : datagram.length ≤ maxMergedPacketSize := by
  obtain ⟨batches, hbuild, hflatten, hbatch⟩ := buildMergedDatagrams_eq connectionNumber packets
  rw [hbuild] at hdatagram
  obtain ⟨b, hb, rfl⟩ := List.mem_map.mp hdatagram
  obtain ⟨hne, hfits⟩ := hbatch b hb
  match b, hne with
  | [packet], _ =>
    have hpacket : packet ∈ packets := hflatten ▸ List.mem_flatten.mpr ⟨_, hb, List.mem_singleton_self _⟩
    exact absurd hmerged (h packet hpacket).notMerged
  | packet :: packet' :: rest, _ => exact hfits (by simp)

/-- The server's loop undoes framing. -/
theorem mergedPackets_flatMap_frame (header : UInt8) {batch : List Bytes}
    (h : ∀ p ∈ batch, Mergeable p ∧ p.length < 65536) :
    mergedPackets (header :: batch.flatMap frame) = batch := by
  have hframes : ∀ p ∈ batch, p ≠ [] ∧ p.length < 65536 := fun p hp => ⟨(h p hp).1.ne_nil, (h p hp).2⟩
  rw [mergedPackets, List.drop_one, List.tail_cons, mergedPacketsFrom_eq,
    cutFrames_flatMap_frame hframes]
  exact List.filter_eq_self.mpr fun p hp => (h p hp).1.valid

lemma splitsMerged_mergedPackets : SplitsMerged mergedPackets := fun header _ h => mergedPackets_flatMap_frame header h

end BasisRust.Transport
