import BasisRust.Lib.Checked
import BasisRust.Lib.Lacing
import BasisRust.Protocol.Io

/-!
# The Ogg Opus parser of the client

`OggOpusPackets::parse` with every index, slice and subtraction checked.  A page is a header, the lengths of
its segments and the segments; packets go on from page to page.
-/

namespace BasisRust.Client

open Lib Protocol

/-! ### Packets -/

def defaultVoiceFrameDurationMs : ℕ := 20

structure OpusPacket where
  data : Bytes
  durationMs : ℕ
  deriving DecidableEq, Repr

def isPlayableOpusPacket (packet : Bytes) : Bool :=
  !packet.isEmpty && !(asBytes "OpusHead").isPrefixOf packet && !(asBytes "OpusTags").isPrefixOf packet

/-- The duration of a frame in microseconds, by the configuration of the packet. -/
def frameDurationUs (config : UInt8) : Option ℕ :=
  if config ≤ 11 then
    match (config &&& 0x03).toNat with
    | 0 => some 10000
    | 1 => some 20000
    | 2 => some 40000
    | 3 => some 60000
    | _ => none
  else if config ≤ 15 then some (if config &&& 0x01 = 0 then 10000 else 20000)
  else if config ≤ 31 then
    match (config &&& 0x03).toNat with
    | 0 => some 2500
    | 1 => some 5000
    | 2 => some 10000
    | 3 => some 20000
    | _ => none
  else none

def opusPacketDurationMs (packet : Bytes) : Option ℕ := do
  let toc ← packet.head?
  let frameCount ←
    match (toc &&& 0x03).toNat with
    | 0 => some 1
    | 1 | 2 => some 2
    | 3 => packet[1]?.map fun countByte => (countByte &&& 0x3f).toNat
    | _ => none
  if frameCount = 0 then none
  else
    let duration ← frameDurationUs (toc >>> 3)
    return (duration * frameCount + 999) / 1000

/-- A packet as it is kept. -/
def opusPacket (data : Bytes) : OpusPacket :=
  ⟨data, (opusPacketDurationMs data).getD defaultVoiceFrameDurationMs⟩

/-! ### Parsing -/

/-- `Err` with its text, or a fault of an access. -/
abbrev ParseResult (α : Type) := Except (Stop String) α

def checked {α : Type} (x : Checked α) : ParseResult α := x.mapError .fault

structure OggState where
  currentPacket : Bytes := []
  packets : List OpusPacket := []

/-- What is done at the end of a packet. -/
def OggState.endPacket (s : OggState) : OggState where
  currentPacket := []
  packets := if isPlayableOpusPacket s.currentPacket then s.packets ++ [opusPacket s.currentPacket] else s.packets

/-- One round of the loop over the segments; `dataPos` is where the segment starts. -/
def readSegment (bytes : Bytes) (cursor : ℕ × OggState) (segmentLen : UInt8) : ParseResult (ℕ × OggState) := do
  let segment ← checked (Checked.range bytes cursor.1 (cursor.1 + segmentLen.toNat))
  let s := { cursor.2 with currentPacket := cursor.2.currentPacket ++ segment }
  return (cursor.1 + segmentLen.toNat, if segmentLen < 255 then s.endPacket else s)

/-- One round of the loop over the pages: where the next page starts, and the state. -/
def readPage (bytes : Bytes) (pos : ℕ) (s : OggState) : ParseResult (ℕ × OggState) := do
  let left ← checked (Checked.sub bytes.length pos)
  if left < 27 then throw (.error s!"truncated Ogg page header at byte {pos}")
  else
    let pattern ← checked (Checked.range bytes pos (pos + 4))
    if pattern ≠ asBytes "OggS" then throw (.error s!"invalid Ogg capture pattern at byte {pos}")
    else
      let pageSegments ← checked (Checked.index bytes (pos + 26))
      let segmentTableStart := pos + 27
      let segmentTableEnd := segmentTableStart + pageSegments.toNat
      if segmentTableEnd > bytes.length then throw (.error s!"truncated Ogg segment table at byte {pos}")
      else
        let segmentTable ← checked (Checked.range bytes segmentTableStart segmentTableEnd)
        let dataLen := (segmentTable.map UInt8.toNat).sum
        let dataStart := segmentTableEnd
        let dataEnd := dataStart + dataLen
        if dataEnd > bytes.length then throw (.error s!"truncated Ogg page data at byte {pos}")
        else
          let segments ← checked (Checked.range bytes segmentTableStart segmentTableEnd)
          let after ← segments.foldlM (readSegment bytes) (dataStart, s)
          return (dataEnd, after.2)

/-- The loop over the pages; `fuel` bounds its rounds. -/
def readPages (bytes : Bytes) (pos : ℕ) (s : OggState) : ℕ → ParseResult OggState
  | 0 => if pos < bytes.length then .error .outOfFuel else .ok s
  | fuel + 1 =>
    if pos < bytes.length then do
      let next ← readPage bytes pos s
      readPages bytes next.1 next.2 fuel
    else .ok s

/-- `OggOpusPackets::parse` -/
def parseOggOpus (bytes : Bytes) : ParseResult (List OpusPacket) := do
  let s ← readPages bytes 0 {} bytes.length
  if s.currentPacket ≠ [] then throw (.error "truncated Ogg packet at end of stream")
  else if s.packets = [] then throw (.error "Ogg Opus file contains no playable Opus packets")
  else return s.packets

example : parseOggOpus (asBytes "not ogg") = .error (.error "truncated Ogg page header at byte 0") := by rfl

/-! ### One page -/

lemma checked_ok {α : Type} (a : α) : checked (.ok a) = .ok a := rfl

/-- The state after segments with the packets that end in them and a remainder. -/
def OggState.keep (s : OggState) (collected : List Bytes × Bytes) : OggState where
  currentPacket := collected.2
  packets := s.packets ++ (collected.1.filter isPlayableOpusPacket).map opusPacket

lemma OggState.keep_nil (s : OggState) : s.keep ([], s.currentPacket) = s := by
  rw [keep, List.filter_nil, List.map_nil, List.append_nil]

lemma OggState.keep_keep (s : OggState) (collected later : List Bytes × Bytes) :
    (s.keep collected).keep later = s.keep (collected.1 ++ later.1, later.2) := by
  unfold keep
  rw [List.filter_append, List.map_append, List.append_assoc]

lemma OggState.keep_endPacket (s : OggState) (collected : List Bytes × Bytes) :
    s.endPacket.keep collected = s.keep (s.currentPacket :: collected.1, collected.2) := by
  unfold keep endPacket
  by_cases hplayable : isPlayableOpusPacket s.currentPacket = true
  · rw [List.filter_cons_of_pos hplayable, List.map_cons, if_pos hplayable, List.append_assoc, List.singleton_append]
  · rw [List.filter_cons_of_neg hplayable, if_neg hplayable]

lemma readSegment_eq {bytes : Bytes} {dataPos : ℕ} {segmentLen : UInt8} (s : OggState)
    (h : dataPos + segmentLen.toNat ≤ bytes.length) :
    readSegment bytes (dataPos, s) segmentLen = .ok (dataPos + segmentLen.toNat,
      let s' := { s with currentPacket := s.currentPacket ++ (bytes.drop dataPos).take segmentLen.toNat }
      if segmentLen.toNat < 255 then s'.endPacket else s') := by
  rw [readSegment, Checked.range_eq (Nat.le_add_right _ _) h, Nat.add_sub_cancel_left]
  rfl

/-- The segments within the bytes are collected without a fault. -/
lemma foldlM_readSegment {bytes table : Bytes} {dataPos : ℕ} (s : OggState)
    (h : dataPos + (table.map UInt8.toNat).sum ≤ bytes.length) :
    table.foldlM (readSegment bytes) (dataPos, s) = .ok (dataPos + (table.map UInt8.toNat).sum,
      s.keep (unlace 255 (table.map UInt8.toNat) (bytes.drop dataPos) s.currentPacket)) := by
  induction table generalizing dataPos s with
  | nil =>
    rw [List.map_nil, List.sum_nil, Nat.add_zero, unlace, OggState.keep_nil]
    rfl
  | cons segmentLen table ih =>
    rw [List.map_cons, List.sum_cons] at h
    have hrest : dataPos + segmentLen.toNat + (table.map UInt8.toNat).sum ≤ bytes.length := by omega
    rw [List.foldlM_cons, readSegment_eq s (by omega), List.map_cons, List.sum_cons, ← Nat.add_assoc]
    change table.foldlM (readSegment bytes) _ = _
    rw [ih _ hrest, ← List.drop_drop]
    by_cases hlt : segmentLen.toNat < 255
    · rw [if_pos hlt, unlace_cons_of_lt hlt, OggState.keep_endPacket]
      rfl
    · rw [if_neg hlt, unlace_cons_of_le (Nat.not_lt.mp hlt)]
      rfl

/-- **One page, where every access is in range.** -/
lemma readPage_eq {bytes : Bytes} {pos : ℕ} (h : pos < bytes.length) (s : OggState) :
    readPage bytes pos s =
      let count := (bytes.getD (pos + 26) 0).toNat
      let table := (bytes.drop (pos + 27)).take count
      let dataLen := (table.map UInt8.toNat).sum
      if bytes.length - pos < 27 then .error (.error s!"truncated Ogg page header at byte {pos}")
      else if (bytes.drop pos).take 4 ≠ asBytes "OggS" then
        .error (.error s!"invalid Ogg capture pattern at byte {pos}")
      else if pos + 27 + count > bytes.length then .error (.error s!"truncated Ogg segment table at byte {pos}")
      else if pos + 27 + count + dataLen > bytes.length then
        .error (.error s!"truncated Ogg page data at byte {pos}")
      else .ok (pos + 27 + count + dataLen,
        s.keep (unlace 255 (table.map UInt8.toNat) (bytes.drop (pos + 27 + count)) s.currentPacket)) := by
  rw [readPage, Checked.sub_eq (Nat.le_of_lt h), checked_ok]
  dsimp only
  change (if bytes.length - pos < 27 then _ else _) = _
  split
  next => rfl
  next hleft =>
    have hindex : Checked.index bytes (pos + 26) = .ok (bytes.getD (pos + 26) 0) := Checked.index_eq (by omega) 0
    rw [Checked.range_eq (Nat.le_add_right _ _) (by omega), checked_ok, Nat.add_sub_cancel_left]
    change (if (bytes.drop pos).take 4 ≠ asBytes "OggS" then _ else _) = _
    split
    next => rfl
    next =>
      rw [hindex, checked_ok]
      change (if pos + 27 + (bytes.getD (pos + 26) 0).toNat > bytes.length then _ else _) = _
      split
      next => rfl
      next htable =>
        have hrange : Checked.range bytes (pos + 27) (pos + 27 + (bytes.getD (pos + 26) 0).toNat) =
            .ok ((bytes.drop (pos + 27)).take (bytes.getD (pos + 26) 0).toNat) := by
          rw [Checked.range_eq (Nat.le_add_right _ _) (Nat.not_lt.mp htable), Nat.add_sub_cancel_left]
        rw [hrange, checked_ok]
        change (if _ > bytes.length then _ else _) = _
        split
        next => rfl
        next hdata =>
          change (List.foldlM (readSegment bytes) _ _ >>= fun after => _) = _
          rw [foldlM_readSegment s (Nat.not_lt.mp hdata)]
          rfl

/-! ### A stream of pages -/

/-- A page: the fields between the capture pattern and the count, the lengths of the segments, the segments. -/
structure OggPage where
  fields : Bytes
  table : Bytes
  data : Bytes
  length_fields : fields.length = 22
  length_table : table.length ≤ 255
  length_data : data.length = (table.map UInt8.toNat).sum

namespace OggPage

/-- The 27 bytes in front of the table. -/
def header (page : OggPage) : Bytes := asBytes "OggS" ++ page.fields ++ [UInt8.ofNat page.table.length]

def bytes (page : OggPage) : Bytes := page.header ++ page.table ++ page.data

variable (page : OggPage)

lemma length_header : page.header.length = 27 := by
  have hpattern : (asBytes "OggS").length = 4 := by decide
  rw [header, List.length_append, List.length_append, hpattern, page.length_fields]
  rfl

lemma length_bytes : page.bytes.length = 27 + page.table.length + (page.table.map UInt8.toNat).sum := by
  rw [bytes, List.length_append, List.length_append, length_header, page.length_data]

lemma toNat_count : (UInt8.ofNat page.table.length).toNat = page.table.length :=
  UInt8.toNat_ofNat_of_lt' (Nat.lt_succ_of_le page.length_table)

/-- The count is the last byte of the header. -/
lemma getD_header (rest : Bytes) : (page.header ++ rest).getD 26 0 = UInt8.ofNat page.table.length := by
  have hpattern : (asBytes "OggS").length = 4 := by decide
  have hlength : (asBytes "OggS" ++ page.fields).length = 26 := by
    rw [List.length_append, hpattern, page.length_fields]
  rw [header, List.append_assoc, List.getD_eq_getElem?_getD, List.getElem?_append_right (le_of_eq hlength), hlength]
  rfl

/-- **A page is read**, wherever it is in the stream. -/
lemma readPage_append (before after : Bytes) (s : OggState) :
    readPage (before ++ (page.bytes ++ after)) before.length s = .ok (before.length + page.bytes.length,
      s.keep (unlace 255 (page.table.map UInt8.toNat) page.data s.currentPacket)) := by
  have hstream : page.bytes ++ after = page.header ++ (page.table ++ (page.data ++ after)) := by
    rw [bytes, List.append_assoc, List.append_assoc]
  have hlength : (before ++ (page.bytes ++ after)).length =
      before.length + (27 + page.table.length + (page.table.map UInt8.toNat).sum) + after.length := by
    rw [List.length_append, List.length_append, length_bytes, Nat.add_assoc before.length]
  have hpattern : ((before ++ (page.bytes ++ after)).drop before.length).take 4 = asBytes "OggS" := by
    rw [List.drop_left, hstream, header, List.append_assoc, List.append_assoc]
    exact List.take_left' (by decide)
  have hcount : (before ++ (page.bytes ++ after)).getD (before.length + 26) 0 = UInt8.ofNat page.table.length := by
    rw [List.getD_eq_getElem?_getD, List.getElem?_append_right (Nat.le_add_right _ _), Nat.add_sub_cancel_left,
      ← List.getD_eq_getElem?_getD, hstream, getD_header]
  have hdrop : (before ++ (page.bytes ++ after)).drop (before.length + 27) = page.table ++ (page.data ++ after) := by
    rw [← List.drop_drop, List.drop_left, hstream, ← page.length_header, List.drop_left]
  have htable : (page.table ++ (page.data ++ after)).take page.table.length = page.table := List.take_left
  have hdata : (before ++ (page.bytes ++ after)).drop (before.length + 27 + page.table.length) = page.data ++ after := by
    rw [← List.drop_drop, hdrop, List.drop_left]
  rw [readPage_eq (by omega)]
  dsimp only
  rw [hcount, toNat_count, hdrop, htable, hdata, hlength, if_neg (by omega), if_neg (not_not.mpr hpattern),
    if_neg (by omega), if_neg (by omega), unlace_append_data _ _ page.length_data, length_bytes]
  simp only [Nat.add_assoc]

end OggPage

/-- **Pages are read one after the other**, and it does not matter where a packet is cut. -/
lemma readPages_flatMap (pages : List OggPage) {fuel : ℕ} (hfuel : pages.length ≤ fuel) (before : Bytes)
    (s : OggState) :
    readPages (before ++ pages.flatMap OggPage.bytes) before.length s fuel =
      .ok (s.keep (unlace 255 ((pages.flatMap OggPage.table).map UInt8.toNat) (pages.flatMap OggPage.data)
        s.currentPacket)) := by
  induction pages generalizing fuel before s with
  | nil =>
    have hend : ¬ before.length < (before ++ ([] : List OggPage).flatMap OggPage.bytes).length := by
      rw [List.flatMap_nil, List.append_nil]
      exact Nat.lt_irrefl _
    have hnone : s.keep (unlace 255 [] ([] : Bytes) s.currentPacket) = s := s.keep_nil
    cases fuel with
    | zero => exact (if_neg hend).trans (congrArg Except.ok hnone.symm)
    | succ fuel => exact (if_neg hend).trans (congrArg Except.ok hnone.symm)
  | cons page pages ih =>
    cases fuel with
    | zero => exact absurd hfuel (Nat.not_succ_le_zero _)
    | succ fuel =>
      have hpos : before.length < (before ++ (page.bytes ++ pages.flatMap OggPage.bytes)).length := by
        have := page.length_bytes
        rw [List.length_append, List.length_append]
        omega
      rw [List.flatMap_cons, readPages, if_pos hpos, page.readPage_append, ← List.append_assoc,
        ← List.length_append]
      change readPages (before ++ page.bytes ++ pages.flatMap OggPage.bytes) (before ++ page.bytes).length _ fuel = _
      rw [ih (Nat.le_of_succ_le_succ hfuel), OggState.keep_keep, List.flatMap_cons, List.flatMap_cons,
        List.map_append, unlace_append _ _ _ page.length_data]
      rfl

lemma length_le_length_flatMap (pages : List OggPage) : pages.length ≤ (pages.flatMap OggPage.bytes).length := by
  induction pages with
  | nil => exact Nat.le_refl 0
  | cons page pages ih =>
    have := page.length_bytes
    rw [List.flatMap_cons, List.length_append, List.length_cons]
    omega

/-- The state after a stream of pages: the packets that end in it, and what there is of one that does not. -/
lemma readPages_of_laced {packets : List Bytes} {pages : List OggPage} {full : ℕ} {tail : Bytes}
    (htable : (pages.flatMap OggPage.table).map UInt8.toNat =
      (packets.flatMap fun packet => lacing 255 packet.length) ++ List.replicate full 255)
    (hdata : pages.flatMap OggPage.data = packets.flatten ++ tail) (htail : tail.length = full * 255) :
    readPages (pages.flatMap OggPage.bytes) 0 {} (pages.flatMap OggPage.bytes).length =
      .ok { currentPacket := tail, packets := (packets.filter isPlayableOpusPacket).map opusPacket } := by
  have hread := readPages_flatMap pages (length_le_length_flatMap pages) [] {}
  rw [List.nil_append, htable, hdata, unlace_flatMap_lacing (by decide) packets full htail] at hread
  exact hread

/-! ### Every other stream -/

/-- The computation ends, and not by a fault. -/
def Ends {α : Type} (x : ParseResult α) : Prop := (∃ a, x = .ok a) ∨ ∃ text, x = .error (.error text)

lemma readPage_cases {bytes : Bytes} {pos : ℕ} (h : pos < bytes.length) (s : OggState) :
    (∃ text, readPage bytes pos s = .error (.error text)) ∨
      ∃ next s', readPage bytes pos s = .ok (next, s') ∧ pos < next := by
  rw [readPage_eq h]
  dsimp only
  split
  · exact .inl ⟨_, rfl⟩
  · split
    · exact .inl ⟨_, rfl⟩
    · split
      · exact .inl ⟨_, rfl⟩
      · split
        · exact .inl ⟨_, rfl⟩
        · exact .inr ⟨_, _, rfl, by omega⟩

lemma readPages_ends {bytes : Bytes} {fuel pos : ℕ} (h : bytes.length - pos ≤ fuel) (s : OggState) :
    Ends (readPages bytes pos s fuel) := by
  induction fuel generalizing pos s with
  | zero =>
    rw [readPages, if_neg (by omega)]
    exact .inl ⟨s, rfl⟩
  | succ fuel ih =>
    rw [readPages]
    split
    next hpos =>
      rcases readPage_cases hpos s with ⟨text, hfails⟩ | ⟨next, s', hnext, hlt⟩
      · rw [hfails]
        exact .inr ⟨text, rfl⟩
      · rw [hnext]
        exact ih (by omega) s'
    next => exact .inl ⟨s, rfl⟩

lemma parseOggOpus_ends (bytes : Bytes) : Ends (parseOggOpus bytes) := by
  rw [parseOggOpus]
  rcases readPages_ends (le_of_eq (Nat.sub_zero _)) {} with ⟨s, hread⟩ | ⟨text, hread⟩
  · rw [hread]
    change Ends (if s.currentPacket ≠ [] then _ else _)
    split
    · exact .inr ⟨_, rfl⟩
    · split
      · exact .inr ⟨_, rfl⟩
      · exact .inl ⟨_, rfl⟩
  · rw [hread]
    exact .inr ⟨text, rfl⟩

/-! ### Framing is inverted -/

/-- What a client plays: not empty, and none of the two headers. -/
def Playable (packet : Bytes) : Prop :=
  packet ≠ [] ∧ ¬ asBytes "OpusHead" <+: packet ∧ ¬ asBytes "OpusTags" <+: packet

instance : DecidablePred Playable := fun _ => inferInstanceAs (Decidable (_ ∧ _ ∧ _))

lemma isPlayableOpusPacket_iff (packet : Bytes) : isPlayableOpusPacket packet = decide (Playable packet) := by
  rw [Bool.eq_iff_iff, decide_eq_true_iff, Playable, isPlayableOpusPacket, Bool.and_eq_true, Bool.and_eq_true,
    Bool.not_eq_true', Bool.not_eq_true', Bool.not_eq_true', ← Bool.not_eq_true, ← Bool.not_eq_true,
    ← Bool.not_eq_true, List.isEmpty_iff, List.isPrefixOf_iff_prefix, List.isPrefixOf_iff_prefix, and_assoc]

/-- **The parser inverts Ogg framing.**  The playable packets come back in order, wherever the pages end; a
stream that ends within a packet is refused; and no stream makes an access fail. -/
theorem ogg_parse_inverts_framing :
    (∀ (packets : List Bytes) (pages : List OggPage),
      (pages.flatMap OggPage.table).map UInt8.toNat = (packets.flatMap fun packet => lacing 255 packet.length) →
      pages.flatMap OggPage.data = packets.flatten →
      parseOggOpus (pages.flatMap OggPage.bytes) =
        if (packets.filter Playable) = [] then .error (.error "Ogg Opus file contains no playable Opus packets")
        else .ok ((packets.filter Playable).map opusPacket)) ∧
    (∀ (packets : List Bytes) (pages : List OggPage) (full : ℕ) (tail : Bytes),
      (pages.flatMap OggPage.table).map UInt8.toNat =
        (packets.flatMap fun packet => lacing 255 packet.length) ++ List.replicate full 255 →
      pages.flatMap OggPage.data = packets.flatten ++ tail → tail.length = full * 255 → tail ≠ [] →
      parseOggOpus (pages.flatMap OggPage.bytes) = .error (.error "truncated Ogg packet at end of stream")) ∧
    ∀ bytes, (∃ packets, parseOggOpus bytes = .ok packets) ∨ ∃ text, parseOggOpus bytes = .error (.error text) := by
  have hfilter (packets : List Bytes) : packets.filter isPlayableOpusPacket = packets.filter Playable :=
    List.filter_congr fun packet _ => isPlayableOpusPacket_iff packet
  refine ⟨?_, ?_, parseOggOpus_ends⟩
  · intro packets pages htable hdata
    have hread := @readPages_of_laced packets pages 0 [] (by rw [htable]; exact (List.append_nil _).symm)
      (by rw [hdata, List.append_nil]) rfl
    rw [parseOggOpus, hread, hfilter]
    change (if (packets.filter Playable).map opusPacket = [] then _ else _ : ParseResult (List OpusPacket)) = _
    simp only [List.map_eq_nil_iff]
    rfl
  · intro packets pages full tail htable hdata htail hne
    rw [parseOggOpus, readPages_of_laced htable hdata htail]
    change (if tail ≠ [] then _ else _ : ParseResult (List OpusPacket)) = _
    rw [if_pos hne]
    rfl

/-- A page with one full segment. -/
def fullPage : OggPage := ⟨List.replicate 22 0, [255], List.replicate 255 1, rfl, by decide, List.length_replicate⟩

/-- A page with the end of a packet. -/
def endPage : OggPage := ⟨List.replicate 22 0, [3], [2, 3, 4], rfl, by decide, rfl⟩

/-- A packet on two pages; the first page alone is refused. -/
theorem ogg_parse_inverts_framing_twoPages :
    parseOggOpus ([fullPage, endPage].flatMap OggPage.bytes) = .ok [opusPacket (List.replicate 255 1 ++ [2, 3, 4])] ∧
    parseOggOpus ([fullPage].flatMap OggPage.bytes) = .error (.error "truncated Ogg packet at end of stream") := by
  have hplayable : Playable (List.replicate 255 1 ++ [2, 3, 4]) := by decide +kernel
  have hkept : [List.replicate 255 1 ++ [2, 3, 4]].filter (fun packet => decide (Playable packet)) =
      [List.replicate 255 1 ++ [2, 3, 4]] :=
    List.filter_eq_self.mpr (List.forall_mem_singleton.mpr (decide_eq_true hplayable))
  refine ⟨?_, ?_⟩
  · have hread := ogg_parse_inverts_framing.1 [List.replicate 255 1 ++ [2, 3, 4]] [fullPage, endPage]
      (by decide +kernel) (by decide +kernel)
    rw [hkept, if_neg (List.cons_ne_nil _ _)] at hread
    exact hread
  · exact ogg_parse_inverts_framing.2.1 [] [fullPage] 1 (List.replicate 255 1) (by decide +kernel)
      (by decide +kernel) List.length_replicate (by decide +kernel)

end BasisRust.Client
