import BasisRust.Protocol.Io

/-!
# `avatar.rs`: bundles of avatar messages

Messages in a row, each with its channel and length, compressed behind their number and their length together.  The
compressor is a parameter.
-/

namespace BasisRust.Protocol

open Lib

/-- `lz4_flex::compress`, and `decompress` with the size asked for. -/
structure BlockCodec where
  compress : Bytes → Bytes
  decompress : Bytes → ℕ → Option Bytes

/-- What was compressed comes back. -/
def BlockCodec.Lossless (codec : BlockCodec) : Prop :=
  ∀ raw, codec.decompress (codec.compress raw) raw.length = some raw

structure AvatarBundleItem where
  originalChannel : UInt8
  payload : Bytes
  deriving DecidableEq

structure AvatarBundleSlice where
  originalChannel : UInt8
  payload : Bytes
  intervalPatch : Option (ℕ × UInt8)
  deriving DecidableEq

structure EncodedAvatarBundle where
  bytes : Bytes
  rawLen : ℕ
  compressedLen : ℕ
  deriving DecidableEq

/-- The payload as it is written, with the byte at the offset replaced if there is one. -/
def AvatarBundleSlice.written (item : AvatarBundleSlice) : Bytes :=
  match item.intervalPatch with
  | some (offset, value) =>
    if offset < item.payload.length then
      putBytes (item.payload.take offset) ++ putU8 value ++ putBytes (item.payload.drop (offset + 1))
    else putBytes item.payload
  | none => putBytes item.payload

/-- One message is written behind the others. -/
def writeItem (raw : Bytes) (item : AvatarBundleSlice) : Except String Bytes :=
  if item.payload.length > 65535 then .error "bundle item payload too large"
  else .ok (raw ++ putU8 item.originalChannel ++ putU16 (UInt16.ofNat item.payload.length) ++ item.written)

def tryEncodeAvatarBundleSlices (codec : BlockCodec) (items : List AvatarBundleSlice) :
    Except String EncodedAvatarBundle :=
  if items.length > 255 then .error "too many bundle items"
  else do
    let raw ← items.foldlM writeItem []
    if raw.length > 65535 then throw "bundle raw payload too large"
    let compressed := codec.compress raw
    return {
      bytes := putU8 (UInt8.ofNat items.length) ++ putU16 (UInt16.ofNat raw.length) ++ putBytes compressed
      rawLen := raw.length
      compressedLen := compressed.length }

inductive BundleError where
  | read (error : NetReadError)
  | message (text : String)
  deriving DecidableEq

def readBundleHeader : ReadResult (UInt8 × UInt16) := do
  let count ← getU8
  return (count, ← getU16)

def readBundleItem : ReadResult AvatarBundleItem := do
  let originalChannel ← getU8
  let len := (← getU16).toNat
  return ⟨originalChannel, ← getBytes len⟩

def decodeAvatarBundle (codec : BlockCodec) (bytes : Bytes) : Except BundleError (List AvatarBundleItem) :=
  match readBundleHeader bytes with
  | .error e _ => .error (.read e)
  | .ok (count, rawLen) remaining =>
    match codec.decompress remaining rawLen.toNat with
    | none => .error (.message "decompressing LZ4 bundle")
    | some raw =>
      if raw.length ≠ rawLen.toNat then .error (.message "bundle raw length mismatch")
      else
        match readN readBundleItem count.toNat raw with
        | .error e _ => .error (.read e)
        | .ok items _ => .ok items

/-! ### Decode undoes encode -/

/-- The message a receiver is to get. -/
def AvatarBundleSlice.item (slice : AvatarBundleSlice) : AvatarBundleItem := ⟨slice.originalChannel, slice.written⟩

lemma AvatarBundleSlice.length_written (slice : AvatarBundleSlice) : slice.written.length = slice.payload.length := by
  unfold written
  split
  next offset value _ =>
    split
    next hlt =>
      simp only [putBytes, putU8, List.length_append, List.length_take, List.length_drop, List.length_singleton]
      omega
    next => rfl
  next => rfl

/-- A byte replaced in place. -/
lemma AvatarBundleSlice.written_patch (channel : UInt8) (payload : Bytes) (offset : ℕ) (value : UInt8) :
    AvatarBundleSlice.written ⟨channel, payload, some (offset, value)⟩ = payload.set offset value := by
  unfold written
  dsimp only
  by_cases hlt : offset < payload.length
  · rw [if_pos hlt, List.set_eq_take_append_cons_drop, if_pos hlt]
    simp [putBytes, putU8]
  · rw [if_neg hlt, List.set_eq_of_length_le (not_lt.mp hlt)]
    rfl

/-- A message on the wire of the bundle. -/
def AvatarBundleSlice.frame (slice : AvatarBundleSlice) : Bytes :=
  putU8 slice.originalChannel ++ putU16 (UInt16.ofNat slice.payload.length) ++ slice.written

lemma AvatarBundleSlice.length_frame (slice : AvatarBundleSlice) : slice.frame.length = 3 + slice.payload.length := by
  have hcount : (putU16 (UInt16.ofNat slice.payload.length)).length = 2 := length_leBytes _ _
  rw [frame, List.length_append, List.length_append, hcount, slice.length_written]
  rfl

/-- The messages in a row. -/
def bundleFrames (slices : List AvatarBundleSlice) : Bytes := slices.flatMap AvatarBundleSlice.frame

lemma length_bundleFrames (slices : List AvatarBundleSlice) :
    (bundleFrames slices).length = (slices.map fun slice => 3 + slice.payload.length).sum := by
  rw [bundleFrames, List.length_flatMap]
  exact congrArg List.sum (List.map_congr_left fun slice _ => slice.length_frame)

lemma foldlM_writeItem {items : List AvatarBundleSlice} {raw out : Bytes} :
    items.foldlM writeItem raw = .ok out ↔
      (∀ item ∈ items, item.payload.length ≤ 65535) ∧ out = raw ++ bundleFrames items := by
  induction items generalizing raw with
  | nil =>
    rw [and_iff_right fun item hitem => absurd hitem List.not_mem_nil, bundleFrames, List.flatMap_nil, List.append_nil]
    exact ⟨fun h => (Except.ok.inj h).symm, fun h => congrArg Except.ok h.symm⟩
  | cons item items ih =>
    rw [List.foldlM_cons, List.forall_mem_cons]
    by_cases hlarge : item.payload.length > 65535
    · rw [writeItem, if_pos hlarge]
      exact iff_of_false nofun fun h => absurd h.1.1 (not_le.mpr hlarge)
    · rw [writeItem, if_neg hlarge, and_iff_right (not_lt.mp hlarge)]
      refine ih.trans (and_congr_right fun _ => ?_)
      simp [bundleFrames, AvatarBundleSlice.frame]

lemma decodes_readBundleItem {slice : AvatarBundleSlice} (h : slice.payload.length ≤ 65535) :
    Decodes readBundleItem slice.frame slice.item := by
  have hlength : slice.written.length = (UInt16.ofNat slice.payload.length).toNat := by
    rw [slice.length_written, UInt16.toNat_ofNat']
    omega
  unfold readBundleItem AvatarBundleSlice.frame
  rw [List.append_assoc]
  refine (decodes_getU8 _).bind ?_
  refine (decodes_getU16 _).bind ?_
  exact (decodes_getBytes hlength).map _

lemma decodes_readBundleHeader (count : UInt8) (rawLen : UInt16) :
    Decodes readBundleHeader (putU8 count ++ putU16 rawLen) (count, rawLen) :=
  (decodes_getU8 count).bind ((decodes_getU16 rawLen).map _)

/-- The number of messages, the length of each and of all together fit what counts them. -/
structure FitsBundle (slices : List AvatarBundleSlice) : Prop where
  few : slices.length ≤ 255
  small : ∀ slice ∈ slices, slice.payload.length ≤ 65535
  raw : (slices.map fun slice => 3 + slice.payload.length).sum ≤ 65535

/-- The bundle of messages that fit. -/
def encodedBundle (codec : BlockCodec) (slices : List AvatarBundleSlice) : EncodedAvatarBundle where
  bytes := putU8 (UInt8.ofNat slices.length) ++ putU16 (UInt16.ofNat (bundleFrames slices).length) ++
    codec.compress (bundleFrames slices)
  rawLen := (bundleFrames slices).length
  compressedLen := (codec.compress (bundleFrames slices)).length

/-- **When a bundle is made, and which.** -/
theorem tryEncodeAvatarBundleSlices_eq_ok_iff {codec : BlockCodec} {slices : List AvatarBundleSlice}
    {encoded : EncodedAvatarBundle} : tryEncodeAvatarBundleSlices codec slices = .ok encoded ↔
      FitsBundle slices ∧ encoded = encodedBundle codec slices := by
  unfold tryEncodeAvatarBundleSlices
  by_cases hmany : slices.length > 255
  · rw [if_pos hmany]
    exact iff_of_false nofun fun h => absurd h.1.few (not_le.mpr hmany)
  rw [if_neg hmany]
  cases hraw : slices.foldlM writeItem [] with
  | error e =>
    refine iff_of_false nofun fun h => ?_
    rw [foldlM_writeItem.mpr ⟨h.1.small, rfl⟩] at hraw
    cases hraw
  | ok raw =>
    obtain ⟨hsmall, rfl⟩ := foldlM_writeItem.mp hraw
    rw [List.nil_append]
    by_cases hlarge : (bundleFrames slices).length > 65535
    · simp only [bind, Except.bind, if_pos hlarge]
      refine iff_of_false nofun fun h => absurd h.1.raw (not_le.mpr ?_)
      rwa [← length_bundleFrames]
    · simp only [bind, Except.bind, if_neg hlarge]
      have hfits : FitsBundle slices := ⟨not_lt.mp hmany, hsmall, by rw [← length_bundleFrames]; exact not_lt.mp hlarge⟩
      rw [and_iff_right hfits]
      exact ⟨fun h => (Except.ok.inj h).symm, fun h => congrArg Except.ok h.symm⟩

/-- What stands in front of the compressed part. -/
lemma readBundleHeader_encodedBundle (codec : BlockCodec) (slices : List AvatarBundleSlice) :
    readBundleHeader (encodedBundle codec slices).bytes =
      .ok (UInt8.ofNat slices.length, UInt16.ofNat (bundleFrames slices).length)
        (codec.compress (bundleFrames slices)) :=
  decodes_readBundleHeader _ _ _

namespace FitsBundle

variable {slices : List AvatarBundleSlice}

lemma toNat_count (h : FitsBundle slices) : (UInt8.ofNat slices.length).toNat = slices.length := by
  have hfew := h.few
  rw [UInt8.toNat_ofNat']
  omega

lemma toNat_rawLen (h : FitsBundle slices) :
    (UInt16.ofNat (bundleFrames slices).length).toNat = (bundleFrames slices).length := by
  have hraw := h.raw
  rw [← length_bundleFrames] at hraw
  rw [UInt16.toNat_ofNat']
  omega

lemma decodes (h : FitsBundle slices) :
    Decodes (readN readBundleItem slices.length) (bundleFrames slices) (slices.map AvatarBundleSlice.item) :=
  Decodes.readN fun slice hslice => decodes_readBundleItem (h.small slice hslice)

end FitsBundle

/-- **What was put into a bundle is what comes out of it.** -/
theorem decodeAvatarBundle_of_encoded {codec : BlockCodec} (hcodec : codec.Lossless) {slices : List AvatarBundleSlice}
    {encoded : EncodedAvatarBundle} (h : tryEncodeAvatarBundleSlices codec slices = .ok encoded) :
    decodeAvatarBundle codec encoded.bytes = .ok (slices.map AvatarBundleSlice.item) := by
  obtain ⟨hfits, rfl⟩ := tryEncodeAvatarBundleSlices_eq_ok_iff.mp h
  have hread := hfits.decodes []
  rw [List.append_nil] at hread
  unfold decodeAvatarBundle
  rw [readBundleHeader_encodedBundle]
  dsimp only
  rw [hfits.toNat_rawLen, hcodec]
  simp only [ne_eq, not_true_eq_false, if_false, hfits.toNat_count, hread]

/-- The payload with the patch applied, if its offset is inside. -/
def AvatarBundleSlice.patched (slice : AvatarBundleSlice) : Bytes :=
  match slice.intervalPatch with
  | some (offset, value) => slice.payload.set offset value
  | none => slice.payload

lemma AvatarBundleSlice.written_eq_patched (slice : AvatarBundleSlice) : slice.written = slice.patched := by
  obtain ⟨channel, payload, patch⟩ := slice
  cases patch with
  | none => rfl
  | some patch => exact written_patch channel payload patch.1 patch.2

/-- **The codec of bundles.**  A bundle is made exactly of what fits; every message comes back from it in its place,
patched where it was to be, and the lengths reported are those in the header and of the body. -/
theorem avatar_bundle_round_trips {codec : BlockCodec} (hcodec : codec.Lossless) (slices : List AvatarBundleSlice) :
    ((∃ encoded, tryEncodeAvatarBundleSlices codec slices = .ok encoded) ↔ FitsBundle slices) ∧
      ∀ encoded, tryEncodeAvatarBundleSlices codec slices = .ok encoded →
        decodeAvatarBundle codec encoded.bytes =
          .ok (slices.map fun slice => ⟨slice.originalChannel, slice.patched⟩) ∧
        ∃ count rawLen body, readBundleHeader encoded.bytes = .ok (count, rawLen) body ∧
          count.toNat = slices.length ∧ rawLen.toNat = encoded.rawLen ∧ body.length = encoded.compressedLen := by
  refine ⟨⟨?_, fun hfits => ⟨_, tryEncodeAvatarBundleSlices_eq_ok_iff.mpr ⟨hfits, rfl⟩⟩⟩, fun encoded h => ⟨?_, ?_⟩⟩
  · rintro ⟨encoded, h⟩
    exact (tryEncodeAvatarBundleSlices_eq_ok_iff.mp h).1
  · rw [decodeAvatarBundle_of_encoded hcodec h]
    exact congrArg Except.ok (List.map_congr_left fun slice _ => congrArg _ slice.written_eq_patched)
  · obtain ⟨hfits, rfl⟩ := tryEncodeAvatarBundleSlices_eq_ok_iff.mp h
    exact ⟨_, _, _, readBundleHeader_encodedBundle codec slices, hfits.toNat_count, hfits.toNat_rawLen, rfl⟩

/-- Blocks of literals alone, as short input is compressed to. -/
def literalBlocks : BlockCodec where
  compress raw :=
    (if raw.length < 15 then [UInt8.ofNat (16 * raw.length)]
     else 0xf0 :: (List.replicate ((raw.length - 15) / 255) 255 ++ [UInt8.ofNat ((raw.length - 15) % 255)])) ++ raw
  decompress bytes len := if len ≤ bytes.length then some (bytes.drop (bytes.length - len)) else none

lemma lossless_literalBlocks : literalBlocks.Lossless := by
  intro raw
  unfold literalBlocks
  dsimp only
  rw [List.length_append, if_pos (Nat.le_add_left _ _), Nat.add_sub_cancel, List.drop_left]

/-- Two messages, a patch inside the first and one behind the second. -/
theorem avatar_bundle_round_trips_two :
    decodeAvatarBundle literalBlocks (encodedBundle literalBlocks
      [⟨12, [1, 2, 3], some (1, 9)⟩, ⟨47, [4, 5], some (2, 9)⟩]).bytes = .ok [⟨12, [1, 9, 3]⟩, ⟨47, [4, 5]⟩] := by
  have hencoded : tryEncodeAvatarBundleSlices literalBlocks
      [⟨12, [1, 2, 3], some (1, 9)⟩, ⟨47, [4, 5], some (2, 9)⟩] = .ok (encodedBundle literalBlocks _) :=
    tryEncodeAvatarBundleSlices_eq_ok_iff.mpr ⟨⟨by decide, by decide, by decide⟩, rfl⟩
  exact ((avatar_bundle_round_trips lossless_literalBlocks _).2 _ hencoded).1

end BasisRust.Protocol
