import BasisRust.Transport.Merged
import BasisRust.Transport.PeerRun

/-!
# Many unreliable packets at once

`try_send_many_unreliable_bytes` has a packer of its own, which writes each packet straight into the running
datagram and never unwraps a single one.  It cuts the packets at the same places as `build_merged_datagrams`, so
whoever splits merged datagrams gets the same packets from both.
-/

namespace BasisRust.Transport

open Lib Protocol

/-! ### The two paths -/

/-- One round of the loop of `try_send_many_bytes`: the peer, and the packets to be merged. -/
def sendOne (now : ℕ) (sent : PeerState × List Bytes) (packet : UInt8 × DeliveryMethod × Bytes) :
    PeerState × List Bytes :=
  let (channel, delivery, payload) := packet
  if isReliableDelivery delivery then (enqueueReliablePayload sent.1 channel delivery payload, sent.2)
  else
    let (built, peer) := buildOutboundPacket sent.1 channel delivery payload
    (recordPendingReliable now peer built, sent.2 ++ [built.bytes])

/-- The peer afterwards, and the datagrams in the order they are sent. -/
def trySendManyBytes (now : ℕ) (peer : PeerState) (packets : List (UInt8 × DeliveryMethod × Bytes)) :
    PeerState × List Bytes :=
  let (peer, outbound) := packets.foldl (sendOne now) (peer, [])
  (peer, buildMergedDatagrams peer.connectionNumber outbound)

/-- One round of the loop over more than one packet. -/
def unreliableStep (connectionNumber : UInt8) (s : MergeState) (packet : UInt8 × Bytes) : MergeState :=
  let (channel, payload) := packet
  let packetLen := payload.length + 2
  let framedLen := packetLen + 2
  let s :=
    if s.currentCount > 0 ∧ s.current.length + framedLen > maxMergedPacketSize then
      ⟨s.datagrams ++ [s.current], [headerByte .merged connectionNumber], 0⟩
    else s
  if framedLen + 1 > maxMergedPacketSize then
    { s with datagrams := s.datagrams ++ [[headerByte .unreliable connectionNumber, channel] ++ payload] }
  else
    { s with
      current := s.current ++ leBytes 2 (UInt16.ofNat packetLen).toNat ++
        [headerByte .unreliable connectionNumber, channel] ++ payload
      currentCount := s.currentCount + 1 }

/-- The datagrams in the order they are sent; the peer stays as it is. -/
def trySendManyUnreliableBytes (peer : PeerState) (packets : List (UInt8 × Bytes)) : List Bytes :=
  match packets with
  | [] => []
  | [(channel, payload)] => [[headerByte .unreliable peer.connectionNumber, channel] ++ payload]
  | packets =>
    let s := packets.foldl (unreliableStep peer.connectionNumber) ⟨[], [headerByte .merged peer.connectionNumber], 0⟩
    if s.currentCount > 0 then s.datagrams ++ [s.current] else s.datagrams

/-! ### The general path with unreliable packets -/

/-- An unreliable packet. -/
def unreliablePacket (connectionNumber : UInt8) (packet : UInt8 × Bytes) : Bytes :=
  [headerByte .unreliable connectionNumber, packet.1] ++ packet.2

/-- What a bare packet looks like to a receiver. -/
structure IsUnreliable (packet : Bytes) : Prop where
  property : propertyOf packet = some .unreliable
  length : 2 ≤ packet.length

lemma isUnreliable_unreliablePacket (connectionNumber : UInt8) (packet : UInt8 × Bytes) :
    IsUnreliable (unreliablePacket connectionNumber packet) where
  property := fromByte_headerByte .unreliable connectionNumber
  length := by simp [unreliablePacket]

lemma IsUnreliable.mergeable {packet : Bytes} (h : IsUnreliable packet) : Mergeable packet where
  valid := by
    have hlength := h.length
    unfold isValidMergedPacket
    rw [h.property]
    simpa using hlength
  notMerged := by
    rw [h.property]
    decide

/-- The peer of `try_send_many_bytes` is the one of its calls. -/
theorem trySendManyBytes_peer (now : ℕ) (peer : PeerState) (packets : List (UInt8 × DeliveryMethod × Bytes)) :
    (trySendManyBytes now peer packets).1 = packets.foldl (sendSlice now) peer := by
  have hfold (outbound : List Bytes) :
      (packets.foldl (sendOne now) (peer, outbound)).1 = packets.foldl (sendSlice now) peer := by
    induction packets generalizing peer outbound with
    | nil => rfl
    | cons packet packets ih =>
      obtain ⟨channel, delivery, payload⟩ := packet
      rw [List.foldl_cons, List.foldl_cons, sendOne, sendSlice]
      dsimp only
      split
      · exact ih _ _
      · exact ih _ _
  exact hfold []

/-- Unreliable packets leave the peer as it is and are merged as they are built. -/
lemma trySendManyBytes_unreliable (now : ℕ) (peer : PeerState) (packets : List (UInt8 × Bytes)) :
    trySendManyBytes now peer (packets.map fun packet => (packet.1, .unreliable, packet.2)) =
      (peer, buildMergedDatagrams peer.connectionNumber
        (packets.map (unreliablePacket peer.connectionNumber))) := by
  have hfold (outbound : List Bytes) :
      (packets.map fun packet => (packet.1, DeliveryMethod.unreliable, packet.2)).foldl (sendOne now) (peer, outbound) =
        (peer, outbound ++ packets.map (unreliablePacket peer.connectionNumber)) := by
    induction packets generalizing outbound with
    | nil => simp
    | cons packet packets ih =>
      have hone : sendOne now (peer, outbound) (packet.1, .unreliable, packet.2) =
          (peer, outbound ++ [unreliablePacket peer.connectionNumber packet]) := rfl
      rw [List.map_cons, List.foldl_cons, hone, ih, List.map_cons, List.append_assoc, List.singleton_append]
  rw [trySendManyBytes, hfold, List.nil_append]

/-! ### Both packers in step -/

/-- The fast path sends the same datagram, or the single packet of it as a merged datagram of one frame. -/
def SameDatagram (connectionNumber : UInt8) (general fast : Bytes) : Prop :=
  fast = general ∨ IsUnreliable general ∧ fast = headerByte .merged connectionNumber :: [general].flatMap frame ∧
    fast.length ≤ maxMergedPacketSize

section InStep

variable {connectionNumber : UInt8}

/-- The running datagram of the fast path against the one the general path sends for it. -/
lemma MergeState.Holds.sameDatagram {batches : List (List Bytes)} {opened : List Bytes} {s : MergeState}
    (h : s.Holds connectionNumber batches opened) (hopened : opened ≠ []) (hbare : ∀ p ∈ opened, IsUnreliable p) :
    SameDatagram connectionNumber s.datagram s.current := by
  have hfits := h.fits
  have hdatagram := h.datagram_eq hopened
  match opened, hopened with
  | [packet], _ =>
    rw [hdatagram]
    exact .inr ⟨hbare packet (List.mem_singleton_self packet), h.current, hfits⟩
  | packet :: packet' :: rest, _ =>
    rw [hdatagram, h.current]
    exact .inl rfl

/-- The two loops have the same running datagram and have sent the same. -/
structure Alike (connectionNumber : UInt8) (general fast : MergeState) : Prop where
  current : fast.current = general.current
  currentCount : fast.currentCount = general.currentCount
  datagrams : List.Forall₂ (SameDatagram connectionNumber) general.datagrams fast.datagrams

/-- Alike, and the packets so far are unreliable ones. -/
structure InStep (connectionNumber : UInt8) (general fast : MergeState) : Prop where
  alike : Alike connectionNumber general fast
  holds : ∃ batches opened, general.Holds connectionNumber batches opened ∧
    ∀ p ∈ batches.flatten ++ opened, IsUnreliable p

lemma inStep_init : InStep connectionNumber ⟨[], [headerByte .merged connectionNumber], 0⟩
    ⟨[], [headerByte .merged connectionNumber], 0⟩ where
  alike := ⟨rfl, rfl, .nil⟩
  holds := ⟨[], [], .init, fun _ hp => absurd hp List.not_mem_nil⟩

variable {general fast : MergeState}

/-- What a flush sends, once there is a packet to send. -/
lemma InStep.sent (h : InStep connectionNumber general fast) (hcount : general.currentCount > 0) :
    List.Forall₂ (SameDatagram connectionNumber) (general.datagrams ++ [general.datagram])
      (fast.datagrams ++ [fast.current]) := by
  obtain ⟨batches, opened, hholds, hbare⟩ := h.holds
  have hopened : opened ≠ [] := by
    rw [hholds.currentCount] at hcount
    exact List.length_pos_iff.mp hcount
  have hlast := hholds.sameDatagram hopened fun p hp => hbare p (List.mem_append_right _ hp)
  rw [h.alike.current]
  exact List.rel_append h.alike.datagrams (.cons hlast .nil)

lemma InStep.flush (h : InStep connectionNumber general fast) (hcount : general.currentCount > 0) :
    Alike connectionNumber (general.flush connectionNumber)
      ⟨fast.datagrams ++ [fast.current], [headerByte .merged connectionNumber], 0⟩ :=
  ⟨rfl, rfl, h.sent hcount⟩

/-- A packet too large for any datagram goes out bare on both paths. -/
lemma Alike.bypass (h : Alike connectionNumber general fast) (packet : Bytes) :
    Alike connectionNumber { general with datagrams := general.datagrams ++ [packet] }
      { fast with datagrams := fast.datagrams ++ [packet] } :=
  ⟨h.current, h.currentCount, List.rel_append h.datagrams (.cons (.inl rfl) .nil)⟩

/-- A packet that fits joins both running datagrams. -/
lemma Alike.push (h : Alike connectionNumber general fast) (packet : UInt8 × Bytes) :
    Alike connectionNumber
      { general with
        current := general.current ++
          leBytes 2 (UInt16.ofNat (unreliablePacket connectionNumber packet).length).toNat ++
          unreliablePacket connectionNumber packet
        currentCount := general.currentCount + 1 }
      { fast with
        current := fast.current ++ leBytes 2 (UInt16.ofNat (packet.2.length + 2)).toNat ++
          [headerByte .unreliable connectionNumber, packet.1] ++ packet.2
        currentCount := fast.currentCount + 1 } := by
  have hlength : (unreliablePacket connectionNumber packet).length = packet.2.length + 2 := by
    simp [unreliablePacket]
  refine ⟨?_, ?_, h.datagrams⟩
  · dsimp only
    rw [hlength, h.current, unreliablePacket, ← List.append_assoc]
  · dsimp only
    rw [h.currentCount]

/-- **One round of both loops**: the same lengths are compared, so both flush, or neither. -/
lemma InStep.alike_step (h : InStep connectionNumber general fast) (packet : UInt8 × Bytes) :
    Alike connectionNumber (mergeStep connectionNumber general (unreliablePacket connectionNumber packet))
      (unreliableStep connectionNumber fast packet) := by
  have hlength : 2 + (unreliablePacket connectionNumber packet).length = packet.2.length + 2 + 2 := by
    simp only [unreliablePacket, List.length_append, List.length_cons, List.length_nil]
    omega
  have hpos : 1 ≤ general.current.length := by
    obtain ⟨batches, opened, hheld, -⟩ := h.holds
    rw [hheld.current]
    exact Nat.le_add_left 1 _
  unfold mergeStep unreliableStep
  dsimp only
  rw [hlength, h.alike.current, h.alike.currentCount]
  by_cases hfull : general.currentCount > 0 ∧ general.current.length + (packet.2.length + 2 + 2) > maxMergedPacketSize
  · have hflushed := h.flush hfull.1
    rw [h.alike.current] at hflushed
    rw [if_pos hfull, if_pos hfull]
    by_cases hlarge : packet.2.length + 2 + 2 + 1 > maxMergedPacketSize
    · rw [if_pos hlarge, if_pos hlarge, if_neg (by simp [MergeState.flush])]
      exact hflushed.bypass _
    · rw [if_neg hlarge, if_neg hlarge]
      exact hflushed.push packet
  · rw [if_neg hfull, if_neg hfull]
    by_cases hlarge : packet.2.length + 2 + 2 + 1 > maxMergedPacketSize
    · -- such a packet overflows any running datagram, so there is nothing in it here
      have hempty : ¬ general.currentCount > 0 := fun hcount => hfull ⟨hcount, by omega⟩
      rw [if_pos hlarge, if_pos hlarge, if_neg hempty]
      exact h.alike.bypass _
    · rw [if_neg hlarge, if_neg hlarge]
      exact h.alike.push packet

theorem InStep.step (h : InStep connectionNumber general fast) (packet : UInt8 × Bytes) :
    InStep connectionNumber (mergeStep connectionNumber general (unreliablePacket connectionNumber packet))
      (unreliableStep connectionNumber fast packet) where
  alike := h.alike_step packet
  holds := by
    obtain ⟨batches, opened, hholds, hbare⟩ := h.holds
    obtain ⟨batches', opened', hholds', hflatten⟩ := hholds.mergeStep (unreliablePacket connectionNumber packet)
    refine ⟨batches', opened', hholds', fun p hp => ?_⟩
    rw [hflatten, List.mem_append, List.mem_singleton] at hp
    rcases hp with hp | rfl
    · exact hbare p hp
    · exact isUnreliable_unreliablePacket connectionNumber packet

end InStep

/-- The whole loops, and what is left in the running datagrams. -/
theorem forall₂_sameDatagram (peer : PeerState) (packets : List (UInt8 × Bytes)) :
    List.Forall₂ (SameDatagram peer.connectionNumber)
      (buildMergedDatagrams peer.connectionNumber (packets.map (unreliablePacket peer.connectionNumber)))
      (trySendManyUnreliableBytes peer packets) := by
  match packets with
  | [] => exact .nil
  | [packet] => exact .cons (.inl rfl) .nil
  | packet :: packet' :: rest =>
    have hstep : InStep peer.connectionNumber
        (((packet :: packet' :: rest).map (unreliablePacket peer.connectionNumber)).foldl
          (mergeStep peer.connectionNumber) ⟨[], [headerByte .merged peer.connectionNumber], 0⟩)
        ((packet :: packet' :: rest).foldl (unreliableStep peer.connectionNumber)
          ⟨[], [headerByte .merged peer.connectionNumber], 0⟩) := by
      rw [List.foldl_map]
      exact List.foldl_rel inStep_init fun packet _ _ _ h => h.step packet
    rw [buildMergedDatagrams, if_neg (by simp), trySendManyUnreliableBytes]
    · dsimp only
      generalize ((packet :: packet' :: rest).map _).foldl _ _ = general at hstep ⊢
      generalize (packet :: packet' :: rest).foldl _ _ = fast at hstep ⊢
      rw [hstep.alike.currentCount]
      by_cases hcount : general.currentCount > 0
      · have hsent := hstep.sent hcount
        unfold MergeState.datagram at hsent
        rw [if_pos hcount]
        by_cases hone : general.currentCount = 1
        · rw [if_pos hone] at hsent ⊢
          exact hsent
        · have hmany : general.currentCount > 1 := by omega
          rw [if_neg hone] at hsent ⊢
          rw [if_pos hmany]
          exact hsent
      · have hone : ¬ general.currentCount = 1 := by omega
        have hmany : ¬ general.currentCount > 1 := by omega
        rw [if_neg hone, if_neg hmany, if_neg hcount]
        exact hstep.alike.datagrams
    · exact fun h => List.cons_ne_nil _ _ h
    · intro channel payload h
      exact absurd h (by simp)

/-! ### Receivers -/

lemma SameDatagram.cutDatagram_eq {connectionNumber : UInt8} {general fast : Bytes} {loop : Bytes → List Bytes}
    (h : SameDatagram connectionNumber general fast) (hloop : SplitsMerged loop) :
    cutDatagram loop fast = cutDatagram loop general := by
  rcases h with rfl | ⟨hbare, rfl, hfits⟩
  · rfl
  · have hlt : general.length < 65536 := by
      simp only [List.flatMap_cons, List.flatMap_nil, List.append_nil, List.length_cons, length_frame,
        maxMergedPacketSize] at hfits
      omega
    have hmerged : propertyOf (headerByte .merged connectionNumber :: [general].flatMap frame) = some .merged :=
      fromByte_headerByte .merged connectionNumber
    rw [cutDatagram, if_pos hmerged, cutDatagram, if_neg hbare.mergeable.notMerged]
    refine hloop _ [general] fun p hp => ?_
    rw [List.mem_singleton.mp hp]
    exact ⟨hbare.mergeable, hlt⟩

lemma flatMap_eq_of_forall₂ {r : Bytes → Bytes → Prop} {f : Bytes → List Bytes} {xs ys : List Bytes}
    (h : List.Forall₂ r xs ys) (hf : ∀ x y, r x y → f y = f x) : ys.flatMap f = xs.flatMap f := by
  induction h with
  | nil => rfl
  | cons hxy _ ih => rw [List.flatMap_cons, List.flatMap_cons, hf _ _ hxy, ih]

lemma exists_of_forall₂ {r : Bytes → Bytes → Prop} {xs ys : List Bytes} (h : List.Forall₂ r xs ys) {y : Bytes}
    (hy : y ∈ ys) : ∃ x ∈ xs, r x y := by
  induction h with
  | nil => cases hy
  | @cons x _ _ _ hxy _ ih =>
    rcases List.mem_cons.mp hy with rfl | hy
    · exact ⟨x, List.mem_cons_self, hxy⟩
    · obtain ⟨x', hx', hxy'⟩ := ih hy
      exact ⟨x', List.mem_cons_of_mem _ hx', hxy'⟩

/-- **The fast path agrees with the general one.**  The datagrams are the same one by one, but for a single packet
in a merged datagram of its own; a receiver that splits merged datagrams gets the packets of the call from both, and
no merged datagram is longer than 1200 bytes. -/
theorem unreliable_paths_agree (now : ℕ) (peer : PeerState) (packets : List (UInt8 × Bytes)) :
    let general := trySendManyBytes now peer (packets.map fun packet => (packet.1, .unreliable, packet.2))
    let fast := trySendManyUnreliableBytes peer packets
    general.1 = peer ∧ List.Forall₂ (SameDatagram peer.connectionNumber) general.2 fast ∧
      (∀ loop, SplitsMerged loop →
        fast.flatMap (cutDatagram loop) = packets.map (unreliablePacket peer.connectionNumber) ∧
        general.2.flatMap (cutDatagram loop) = packets.map (unreliablePacket peer.connectionNumber)) ∧
      ∀ datagram, datagram ∈ general.2 ∨ datagram ∈ fast → propertyOf datagram = some .merged →
        datagram.length ≤ maxMergedPacketSize := by
  intro general fast
  have hgeneral : general = (peer, buildMergedDatagrams peer.connectionNumber
      (packets.map (unreliablePacket peer.connectionNumber))) := trySendManyBytes_unreliable now peer packets
  have hsame : List.Forall₂ (SameDatagram peer.connectionNumber) general.2 fast := by
    rw [hgeneral]
    exact forall₂_sameDatagram peer packets
  have hmergeable : ∀ p ∈ packets.map (unreliablePacket peer.connectionNumber), Mergeable p := by
    intro p hp
    obtain ⟨packet, -, rfl⟩ := List.mem_map.mp hp
    exact (isUnreliable_unreliablePacket _ packet).mergeable
  have hshort : ∀ datagram ∈ general.2, propertyOf datagram = some .merged →
      datagram.length ≤ maxMergedPacketSize := by
    rw [hgeneral]
    exact fun datagram hd hmerged => length_le_of_merged hmergeable hd hmerged
  refine ⟨by rw [hgeneral], hsame, fun loop hloop => ?_, fun datagram hd hmerged => ?_⟩
  · have hcut : general.2.flatMap (cutDatagram loop) = packets.map (unreliablePacket peer.connectionNumber) := by
      rw [hgeneral]
      exact flatMap_cutDatagram_buildMergedDatagrams hloop _ hmergeable
    refine ⟨?_, hcut⟩
    rw [← hcut]
    exact flatMap_eq_of_forall₂ hsame fun _ _ h => h.cutDatagram_eq hloop
  · rcases hd with hd | hd
    · exact hshort datagram hd hmerged
    · obtain ⟨g, hg, hboth⟩ := exists_of_forall₂ hsame hd
      rcases hboth with rfl | ⟨-, -, hfits⟩
      · exact hshort _ hg hmerged
      · exact hfits

end BasisRust.Transport
