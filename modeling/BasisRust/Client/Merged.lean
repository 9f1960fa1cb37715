import BasisRust.Transport.Merged

/-!
# Merged datagrams at both receivers

The client takes merged datagrams apart with a loop of its own, whose conditions are written
differently from the server's.  Both give back exactly the packets that were packed.
-/

namespace BasisRust.Client

open Lib Protocol Transport

/-- The loop of the Merged arm of `handle_packet` from its position on: the packets it hands to
`handle_packet`. -/
def mergedPacketsFrom : Bytes → List Bytes
  | lo :: hi :: rest =>
    let size := leVal [lo, hi]
    if size = 0 ∨ size > rest.length then []
    else rest.take size :: mergedPacketsFrom (rest.drop size)
  | _ => []
termination_by bytes => bytes.length
decreasing_by
  rw [List.length_drop, List.length_cons, List.length_cons]
  omega

/-- The packets of a merged datagram; the loop starts behind the header byte. -/
def mergedPackets (bytes : Bytes) : List Bytes := mergedPacketsFrom (bytes.drop 1)

/-- The client's loop cuts frames. -/
theorem mergedPacketsFrom_eq (bytes : Bytes) : mergedPacketsFrom bytes = cutFrames bytes := by
  induction bytes using cutFrames.induct with
  | case1 lo hi rest size hstop => rw [mergedPacketsFrom, cutFrames, if_pos hstop, if_pos hstop]
  | case2 lo hi rest size hwhole ih =>
    rw [mergedPacketsFrom, cutFrames, if_neg hwhole, if_neg hwhole, ih]
  | case3 bytes hbytes =>
    rcases bytes with _ | ⟨lo, _ | ⟨hi, rest⟩⟩
    · simp [mergedPacketsFrom]
    · simp [mergedPacketsFrom, cutFrames]
    · exact absurd rfl (hbytes lo hi rest)

theorem mergedPackets_flatMap_frame (header : UInt8) {batch : List Bytes}
    (h : ∀ p ∈ batch, Mergeable p ∧ p.length < 65536) :
    mergedPackets (header :: batch.flatMap frame) = batch := by
  have hframes : ∀ p ∈ batch, p ≠ [] ∧ p.length < 65536 := fun p hp => ⟨(h p hp).1.ne_nil, (h p hp).2⟩
  rw [mergedPackets, List.drop_one, List.tail_cons, mergedPacketsFrom_eq,
    cutFrames_flatMap_frame hframes]

lemma splitsMerged_mergedPackets : SplitsMerged mergedPackets := fun header _ h => mergedPackets_flatMap_frame header h

/-- **Merged framing loses, duplicates and reorders nothing, for both receivers.** -/
theorem merged_framing_exact {connectionNumber : UInt8} {packets : List Bytes}
    (h : ∀ p ∈ packets, Mergeable p) :
    (buildMergedDatagrams connectionNumber packets).flatMap (cutDatagram Transport.mergedPackets)
      = packets ∧
    (buildMergedDatagrams connectionNumber packets).flatMap (cutDatagram mergedPackets) = packets ∧
    ∀ datagram ∈ buildMergedDatagrams connectionNumber packets,
      (propertyOf datagram = some .merged →
        2 ≤ (Transport.mergedPackets datagram).length ∧ 2 ≤ (mergedPackets datagram).length ∧
        datagram.length ≤ maxMergedPacketSize) ∧
      (propertyOf datagram ≠ some .merged → datagram ∈ packets) := by
  obtain ⟨batches, hbuild, hflatten, hbatch⟩ := buildMergedDatagrams_eq connectionNumber packets
  have hmem : ∀ b ∈ batches, ∀ p ∈ b, Mergeable p := fun b hb p hp =>
    h p (hflatten ▸ List.mem_flatten.mpr ⟨b, hb, hp⟩)
  have hserver : ∀ b ∈ batches,
      cutDatagram Transport.mergedPackets (batchDatagram connectionNumber b) = b := fun b hb =>
    cutDatagram_batchDatagram (fun _ => Transport.mergedPackets_flatMap_frame _) (hbatch b hb).1
      (hmem b hb) (hbatch b hb).2
  have hclient : ∀ b ∈ batches,
      cutDatagram mergedPackets (batchDatagram connectionNumber b) = b := fun b hb =>
    cutDatagram_batchDatagram (fun _ => mergedPackets_flatMap_frame _) (hbatch b hb).1
      (hmem b hb) (hbatch b hb).2
  refine ⟨flatMap_cutDatagram_buildMergedDatagrams Transport.splitsMerged_mergedPackets _ h,
    flatMap_cutDatagram_buildMergedDatagrams splitsMerged_mergedPackets _ h, fun datagram hd => ?_⟩
  rw [hbuild] at hd
  obtain ⟨b, hb, rfl⟩ := List.mem_map.mp hd
  obtain ⟨hne, hfits⟩ := hbatch b hb
  match b, hne with
  | [packet], _ =>
    have hpacket : Mergeable packet := hmem _ hb packet (List.mem_singleton_self packet)
    refine ⟨fun hmerged => absurd hmerged hpacket.notMerged, fun _ => ?_⟩
    exact hflatten ▸ List.mem_flatten.mpr ⟨_, hb, List.mem_singleton_self packet⟩
  | packet :: packet' :: rest, _ =>
    have hmerged : propertyOf (batchDatagram connectionNumber (packet :: packet' :: rest))
        = some .merged := fromByte_headerByte .merged connectionNumber
    refine ⟨fun _ => ?_, fun hnot => absurd hmerged hnot⟩
    have hs := hserver _ hb
    have hc := hclient _ hb
    rw [cutDatagram, if_pos hmerged] at hs hc
    rw [hs, hc]
    exact ⟨by simp, by simp, hfits (by simp)⟩

/-- Two small packets, one that fits no buffer, and one left alone in the last buffer. -/
theorem merged_framing_exact_mixed :
    (buildMergedDatagrams 1 [[0, 5, 1], [1, 7, 0, 2, 9], 0 :: List.replicate 1300 3, [3, 0, 0]]).flatMap
      (cutDatagram mergedPackets)
        = [[0, 5, 1], [1, 7, 0, 2, 9], 0 :: List.replicate 1300 3, [3, 0, 0]] := by
  have h : ∀ p ∈ [[0, 5, 1], [1, 7, 0, 2, 9], 0 :: List.replicate 1300 3, [3, 0, 0]], Mergeable p := by
    simp only [List.forall_mem_cons]
    exact ⟨⟨by decide, by decide⟩, ⟨by decide, by decide⟩, ⟨by decide +kernel, by decide⟩,
      ⟨by decide, by decide⟩, by simp⟩
  exact (merged_framing_exact h).2.1

end BasisRust.Client
