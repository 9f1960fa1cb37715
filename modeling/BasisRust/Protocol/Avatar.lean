import BasisRust.Protocol.Io
import Mathlib.Data.Fin.Basic

/-!
# `avatar.rs`: qualities, bone tables and the repacking of a pose

A pose is 12 bytes of position, the rotation block of the 51 synced bones and a tail of 22 bytes.
The rotation block is a bit stream: a slot holds the index of the largest quaternion component in 2
bits and the other three components in `bpc` bits each, slots back to back.  A lower quality has
fewer bits per component, so every slot starts elsewhere.
-/

namespace BasisRust.Protocol

inductive BitQuality where
  | veryLow
  | low
  | medium
  | high
  deriving DecidableEq, Repr

namespace BitQuality

/-- The discriminant, `quality as u8`. -/
def toU8 : BitQuality → UInt8
  | veryLow => 0
  | low => 1
  | medium => 2
  | high => 3

def payloadLen : BitQuality → ℕ
  | veryLow => 112
  | low => 131
  | medium => 156
  | high => 182

def rotationLen : BitQuality → ℕ
  | veryLow => 78
  | low => 97
  | medium => 122
  | high => 148

end BitQuality

def writePosition : ℕ := 12
def writeScale : ℕ := 2
def writeRotation : ℕ := 7
def writeHipsDelta : ℕ := 6
def writeHipsRotation : ℕ := 7
def tailBytes : ℕ := writeScale + writeRotation + writeHipsDelta + writeHipsRotation
def syncBoneCount : ℕ := 51

/-! ### Bits per component -/

def bpcHigh : List ℕ :=
  [10, 10, 10, 10, 10, 10, 10, 10, 10, 10, 10, 10, 10, 10, 10, 10, 10, 9, 9, 5, 5, 6, 6, 6, 6, 5,
    6, 6, 6, 6, 5, 6, 6, 5, 5, 5, 6, 6, 5, 5, 5, 5, 5, 5, 5, 5, 5, 5, 5, 5, 5]

def bpcMedium : List ℕ :=
  [8, 8, 8, 8, 8, 8, 8, 8, 8, 8, 8, 8, 8, 8, 8, 8, 8, 6, 6, 3, 3, 6, 6, 5, 5, 4, 6, 6, 5, 5, 4, 5,
    5, 4, 4, 4, 5, 5, 4, 4, 4, 4, 4, 4, 4, 4, 4, 4, 4, 4, 4]

def bpcLow : List ℕ :=
  [6, 6, 6, 6, 6, 6, 6, 6, 6, 6, 6, 6, 6, 6, 6, 6, 6, 5, 5, 3, 3, 5, 5, 4, 4, 3, 5, 5, 4, 4, 3, 4,
    4, 3, 3, 3, 4, 4, 3, 3, 3, 3, 3, 3, 3, 3, 3, 3, 3, 3, 3]

def bpcVeryLow : List ℕ :=
  [5, 5, 5, 5, 5, 5, 5, 5, 5, 5, 5, 5, 5, 5, 5, 5, 5, 4, 4, 2, 2, 4, 4, 3, 3, 2, 4, 4, 3, 3, 2, 3,
    3, 2, 2, 2, 3, 3, 2, 2, 2, 2, 2, 2, 2, 2, 2, 2, 2, 2, 2]

/-- The table of a quality. -/
def BitQuality.bpc : BitQuality → List ℕ
  | veryLow => bpcVeryLow
  | low => bpcLow
  | medium => bpcMedium
  | high => bpcHigh

/-- The loop of `bit_offsets` from a slot on: each slot is as wide as an index and three components. -/
def bitOffsetsFrom (bit : ℕ) : List ℕ → List ℕ
  | [] => []
  | b :: bpc => bit :: bitOffsetsFrom (bit + (2 + 3 * b)) bpc

def bitOffsets (bpc : List ℕ) : List ℕ := bitOffsetsFrom 0 bpc

/-- The tables `OFFSETS_*`. -/
def BitQuality.offsets (q : BitQuality) : List ℕ := bitOffsets q.bpc

/-! ### Reading and writing bits

The 64-bit registers of the source are natural numbers: a slot is at most 32 bits wide and the largest
product of `rescale_quant` has 20, so nothing is cut off.  An index outside the slice panics, which is
the result `none`. -/

/-- The loop of `read_bits_u64`. -/
def readBitsLoop (src : Bytes) (bytePos : ℕ) (bitInByte : Fin 8) (result outShift bitsLeft : ℕ) :
    Option ℕ :=
  if bitsLeft = 0 then some result
  else
    let take := min bitsLeft (8 - bitInByte.val)
    match src[bytePos]? with
    | none => none
    | some b =>
      let current := b.toNat >>> bitInByte.val
      let mask := 2 ^ take - 1
      readBitsLoop src (bytePos + 1) 0 (result ||| (current &&& mask) <<< outShift) (outShift + take)
        (bitsLeft - take)
termination_by bitsLeft
decreasing_by omega

def readBitsU64 (src : Bytes) (baseByteOffset bitPos bitCount : ℕ) : Option ℕ :=
  readBitsLoop src (baseByteOffset + bitPos / 8) ⟨bitPos % 8, Nat.mod_lt _ (by decide)⟩ 0 0 bitCount

/-- The loop of `write_bits_u64`. -/
def writeBitsLoop (dst : Bytes) (bytePos : ℕ) (bitInByte : Fin 8) (value bitsLeft : ℕ) :
    Option Bytes :=
  if bitsLeft = 0 then some dst
  else
    let take := min bitsLeft (8 - bitInByte.val)
    let mask := 2 ^ take - 1
    let chunk := UInt8.ofNat (value &&& mask)
    if bytePos < dst.length then
      writeBitsLoop (dst.modify bytePos (· ||| chunk <<< UInt8.ofNat bitInByte.val)) (bytePos + 1) 0
        (value >>> take) (bitsLeft - take)
    else none
termination_by bitsLeft
decreasing_by omega

def writeBitsU64 (dst : Bytes) (baseByteOffset bitPos value bitCount : ℕ) : Option Bytes :=
  writeBitsLoop dst (baseByteOffset + bitPos / 8) ⟨bitPos % 8, Nat.mod_lt _ (by decide)⟩ value bitCount

/-! ### Repacking -/

def rescaleQuant (value srcBits dstBits : ℕ) : ℕ :=
  if srcBits = dstBits then value
  else if dstBits = 0 then 0
  else
    let maxSrc := 2 ^ srcBits - 1
    let maxDst := 2 ^ dstBits - 1
    (value * maxDst + maxSrc / 2) / maxSrc

/-- One round of the slot loop; every slot is below the 51 entries of the tables. -/
def repackSlot (highPayload : Bytes) (target : BitQuality) (out : Bytes) (slot : ℕ) :
    Option Bytes := do
  let srcBpc := bpcHigh.getD slot 0
  let raw ← readBitsU64 highPayload writePosition (BitQuality.high.offsets.getD slot 0)
    (2 + 3 * srcBpc)
  let idx := raw &&& 3
  let maskSrc := 2 ^ srcBpc - 1
  let qa := (raw >>> 2) &&& maskSrc
  let qb := (raw >>> (2 + srcBpc)) &&& maskSrc
  let qc := (raw >>> (2 + 2 * srcBpc)) &&& maskSrc
  let dstBpc := target.bpc.getD slot 0
  let packed := idx ||| rescaleQuant qa srcBpc dstBpc <<< 2
    ||| rescaleQuant qb srcBpc dstBpc <<< (2 + dstBpc)
    ||| rescaleQuant qc srcBpc dstBpc <<< (2 + 2 * dstBpc)
  writeBitsU64 out writePosition (target.offsets.getD slot 0) packed (2 + 3 * dstBpc)

/-- The buffer after the call, or the error; the buffer past the payload is not part of the slice that
is written. -/
def repackHighToLowerInto (highPayload : Bytes) (target : BitQuality) (out : Bytes) :
    Option (Except String Bytes) :=
  if highPayload.length < BitQuality.high.payloadLen then some (.error "high payload too small")
  else if target = .high then some (.error "target must be lower than high")
  else if out.length < target.payloadLen then some (.error "target output buffer too small")
  else do
    let filled : Bytes := List.replicate target.payloadLen 0
    let positioned := highPayload.take writePosition ++ filled.drop writePosition
    let rotated ← (List.range syncBoneCount).foldlM (repackSlot highPayload target) positioned
    let srcTail := writePosition + BitQuality.high.rotationLen
    let dstTail := writePosition + target.rotationLen
    let tailed := rotated.take dstTail ++ (highPayload.drop srcTail).take tailBytes
      ++ rotated.drop (dstTail + tailBytes)
    return .ok (tailed ++ out.drop target.payloadLen)

end BasisRust.Protocol
