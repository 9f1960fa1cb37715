import BasisRust.Lib.BitField
import BasisRust.Protocol.Avatar
import Mathlib.Algebra.Order.Round
import Mathlib.Data.Rat.Floor
import Mathlib.Tactic.Linarith
import Mathlib.Tactic.Positivity

/-!
# Repacking is exact field by field

A payload is seen as the number of its bit stream, where a slot of the rotation block is four fields
(`boneAt`).  The two bit loops read and write one field of that number; the slot loop fills the
rotation block from the front, everything behind the slots done being clear.
-/

namespace BasisRust.Protocol

open Lib

/-! ### The bit loops -/

/-- What one byte contributes to a field. -/
lemma and_mask_eq_field {src : Bytes} {bytePos bit take : ℕ} {b : UInt8} (hb : src[bytePos]? = some b)
    (h : bit + take ≤ 8) :
    b.toNat >>> bit &&& (2 ^ take - 1) = field (leVal src) (8 * bytePos + bit) take := by
  rw [Nat.and_two_pow_sub_one_eq_mod]
  show field b.toNat bit take = _
  refine field_congr fun i hi => ?_
  have hdiv : (8 * bytePos + bit + i) / 8 = bytePos := by omega
  have hmod : (8 * bytePos + bit + i) % 8 = bit + i := by omega
  rw [testBit_leVal, hdiv, hmod, List.getD_eq_getElem?_getD, hb, Option.getD_some]

/-- **Reading**: the loop collects the field at its position behind what it has. -/
theorem readBitsLoop_eq {src : Bytes} {bytePos : ℕ} {bitInByte : Fin 8} {bitsLeft : ℕ}
    (h : 8 * bytePos + bitInByte.val + bitsLeft ≤ 8 * src.length) (result outShift : ℕ) :
    readBitsLoop src bytePos bitInByte result outShift bitsLeft
      = some (result |||
          field (leVal src) (8 * bytePos + bitInByte.val) bitsLeft <<< outShift) := by
  induction bitsLeft using Nat.strong_induction_on generalizing bytePos bitInByte result outShift with
  | _ bitsLeft ih =>
    rw [readBitsLoop]
    by_cases hzero : bitsLeft = 0
    · subst hzero
      simp [field, Nat.mod_one]
    · have hlt : bytePos < src.length := by omega
      have hbyte : src[bytePos]? = some src[bytePos] := List.getElem?_eq_getElem hlt
      set take := min bitsLeft (8 - bitInByte.val) with htake
      have hmask := and_mask_eq_field hbyte (show bitInByte.val + take ≤ 8 by omega)
      simp only [if_neg hzero, hbyte, hmask]
      have hrest : 8 * (bytePos + 1) + (0 : Fin 8).val + (bitsLeft - take) ≤ 8 * src.length := by
        simp only [Fin.val_zero]
        omega
      rw [ih (bitsLeft - take) (by omega) hrest]
      -- a piece that stops short of the end of its byte is the last one
      have hjoin : field (leVal src) (8 * bytePos + bitInByte.val) bitsLeft
          = field (leVal src) (8 * bytePos + bitInByte.val) take |||
            field (leVal src) (8 * (bytePos + 1) + (0 : Fin 8).val) (bitsLeft - take) <<< take := by
        obtain hlast | hmore : bitsLeft - take = 0 ∨ bitInByte.val + take = 8 := by omega
        · rw [hlast, show bitsLeft = take by omega]
          simp [field, Nat.mod_one]
        · have hsplit := field_add (leVal src) (8 * bytePos + bitInByte.val) take (bitsLeft - take)
          rw [show take + (bitsLeft - take) = bitsLeft by omega] at hsplit
          rw [hsplit, show 8 * (bytePos + 1) + (0 : Fin 8).val = 8 * bytePos + bitInByte.val + take by
            simp only [Fin.val_zero]; omega]
      rw [hjoin, Nat.shiftLeft_or_distrib, ← Nat.shiftLeft_add, Nat.or_assoc, Nat.add_comm take]

theorem readBitsU64_eq {src : Bytes} {base bitPos bitCount : ℕ}
    (h : 8 * base + bitPos + bitCount ≤ 8 * src.length) :
    readBitsU64 src base bitPos bitCount = some (field (leVal src) (8 * base + bitPos) bitCount) := by
  have hpos : 8 * (base + bitPos / 8) + bitPos % 8 = 8 * base + bitPos := by omega
  rw [readBitsU64, readBitsLoop_eq (by simp only [hpos]; exact h)]
  simp only [hpos, Nat.zero_or, Nat.shiftLeft_zero]

/-- **Writing**: the loop ors the value into the field at its position. -/
theorem writeBitsLoop_eq {dst : Bytes} {bytePos : ℕ} {bitInByte : Fin 8} {bitsLeft : ℕ}
    (h : 8 * bytePos + bitInByte.val + bitsLeft ≤ 8 * dst.length) (value : ℕ) :
    ∃ dst', writeBitsLoop dst bytePos bitInByte value bitsLeft = some dst' ∧
      dst'.length = dst.length ∧
      leVal dst' = leVal dst ||| field value 0 bitsLeft <<< (8 * bytePos + bitInByte.val) := by
  induction bitsLeft using Nat.strong_induction_on generalizing dst bytePos bitInByte value with
  | _ bitsLeft ih =>
    rw [writeBitsLoop]
    by_cases hzero : bitsLeft = 0
    · subst hzero
      exact ⟨dst, by rw [if_pos rfl], rfl, by simp [field, Nat.mod_one]⟩
    · have hlt : bytePos < dst.length := by omega
      set take := min bitsLeft (8 - bitInByte.val) with htake
      have hbit := bitInByte.isLt
      set chunk := UInt8.ofNat (value &&& (2 ^ take - 1)) <<< UInt8.ofNat bitInByte.val with hchunk
      -- the shifted chunk fits its byte
      have hchunkVal : chunk.toNat = field value 0 take <<< bitInByte.val := by
        have hval : value &&& (2 ^ take - 1) = field value 0 take := by
          rw [Nat.and_two_pow_sub_one_eq_mod, field, Nat.shiftRight_zero]
        have hv : field value 0 take < 2 ^ take := field_lt _ _ _
        have hprod : field value 0 take * 2 ^ bitInByte.val < 2 ^ 8 := by
          calc field value 0 take * 2 ^ bitInByte.val
              < 2 ^ take * 2 ^ bitInByte.val := by
                exact Nat.mul_lt_mul_of_pos_right hv (Nat.two_pow_pos _)
            _ = 2 ^ (take + bitInByte.val) := (Nat.pow_add ..).symm
            _ ≤ 2 ^ 8 := Nat.pow_le_pow_right (by decide) (by omega)
        have hsmall : field value 0 take < 2 ^ 8 :=
          hv.trans_le (Nat.pow_le_pow_right (by decide) (by omega))
        rw [hchunk, hval, UInt8.toNat_shiftLeft, UInt8.toNat_ofNat', UInt8.toNat_ofNat',
          Nat.mod_eq_of_lt hsmall, Nat.mod_eq_of_lt (show bitInByte.val < 2 ^ 8 by omega),
          Nat.mod_eq_of_lt (show bitInByte.val < 8 from hbit), Nat.shiftLeft_eq,
          Nat.mod_eq_of_lt hprod]
      have hrest : 8 * (bytePos + 1) + (0 : Fin 8).val + (bitsLeft - take)
          ≤ 8 * (dst.modify bytePos (· ||| chunk)).length := by
        simp only [Fin.val_zero, List.length_modify]
        omega
      obtain ⟨dst', hwrite, hlen, hval⟩ := ih (bitsLeft - take) (by omega) hrest (value >>> take)
      refine ⟨dst', ?_, by rw [hlen, List.length_modify], ?_⟩
      · simp only [if_neg hzero, ← hchunk, if_pos hlt]
        exact hwrite
      · have hjoin : field value 0 bitsLeft <<< (8 * bytePos + bitInByte.val)
            = chunk.toNat <<< (8 * bytePos) |||
              field (value >>> take) 0 (bitsLeft - take) <<< (8 * (bytePos + 1) + (0 : Fin 8).val) := by
          have hshift : field (value >>> take) 0 (bitsLeft - take) = field value take (bitsLeft - take) := by
            rw [field, field, Nat.shiftRight_zero]
          rw [hchunkVal, hshift, ← Nat.shiftLeft_add, Nat.add_comm bitInByte.val]
          obtain hlast | hmore : bitsLeft - take = 0 ∨ bitInByte.val + take = 8 := by omega
          · rw [hlast, show bitsLeft = take by omega]
            simp [field, Nat.mod_one]
          · have hsplit := field_add value 0 take (bitsLeft - take)
            rw [show take + (bitsLeft - take) = bitsLeft by omega, Nat.zero_add] at hsplit
            rw [hsplit, Nat.shiftLeft_or_distrib, ← Nat.shiftLeft_add,
              show take + (8 * bytePos + bitInByte.val) = 8 * (bytePos + 1) + (0 : Fin 8).val by
                simp only [Fin.val_zero]; omega]
        rw [hval, leVal_modify_or hlt, hjoin, Nat.or_assoc]

theorem writeBitsU64_eq {dst : Bytes} {base bitPos value bitCount : ℕ}
    (h : 8 * base + bitPos + bitCount ≤ 8 * dst.length) (hvalue : value < 2 ^ bitCount) :
    ∃ dst', writeBitsU64 dst base bitPos value bitCount = some dst' ∧
      dst'.length = dst.length ∧ leVal dst' = leVal dst ||| value <<< (8 * base + bitPos) := by
  have hpos : 8 * (base + bitPos / 8) + bitPos % 8 = 8 * base + bitPos := by omega
  have hroom : 8 * (base + bitPos / 8) + (⟨bitPos % 8, Nat.mod_lt _ (by decide)⟩ : Fin 8).val
      + bitCount ≤ 8 * dst.length := by
    simp only [hpos]
    exact h
  obtain ⟨dst', hwrite, hlen, hval⟩ := writeBitsLoop_eq hroom value
  exact ⟨dst', hwrite, hlen, by simpa only [hpos, field_zero_of_lt hvalue] using hval⟩

/-! ### Rescaling -/

/-- A component stays a component. -/
theorem rescaleQuant_lt {value srcBits dstBits : ℕ} (hvalue : value < 2 ^ srcBits) :
    rescaleQuant value srcBits dstBits < 2 ^ dstBits := by
  unfold rescaleQuant
  split_ifs with heq hzero
  · rwa [← heq]
  · exact Nat.two_pow_pos _
  · have hdst := Nat.two_pow_pos dstBits
    rcases Nat.eq_zero_or_pos (2 ^ srcBits - 1) with hsrc | hsrc
    · simp [hsrc]
    · have hle : (value * (2 ^ dstBits - 1) + (2 ^ srcBits - 1) / 2) / (2 ^ srcBits - 1)
          < 2 ^ dstBits := by
        rw [Nat.div_lt_iff_lt_mul hsrc]
        have hmul : value * (2 ^ dstBits - 1) ≤ (2 ^ srcBits - 1) * (2 ^ dstBits - 1) :=
          Nat.mul_le_mul_right _ (by omega)
        have hsplit : 2 ^ dstBits * (2 ^ srcBits - 1)
            = (2 ^ srcBits - 1) * (2 ^ dstBits - 1) + (2 ^ srcBits - 1) := by
          obtain ⟨d, hd⟩ : ∃ d, 2 ^ dstBits = d + 1 := ⟨2 ^ dstBits - 1, by omega⟩
          rw [hd, Nat.add_sub_cancel]
          ring
        omega
      exact hle

/-- Adding half of an odd divisor before a division rounds to the nearest integer. -/
lemma div_odd_eq_round {n s h : ℕ} (hs : s = 2 * h + 1) :
    (((n + h) / s : ℕ) : ℤ) = round ((n : ℚ) / s) := by
  have hpos : (0 : ℚ) < s := by
    rw [hs]
    positivity
  have hodd : (s : ℚ) = 2 * h + 1 := by exact_mod_cast hs
  set q := (n + h) / s with hq
  have hdiv : s * q + (n + h) % s = n + h := Nat.div_add_mod (n + h) s
  have hmod : (n + h) % s < s := Nat.mod_lt _ (by omega)
  have hlow : (s : ℚ) * q ≤ n + h := by exact_mod_cast (by omega : s * q ≤ n + h)
  have hhigh : (n : ℚ) + h + 1 ≤ s * q + s := by exact_mod_cast (by omega : n + h + 1 ≤ s * q + s)
  rw [round_eq, eq_comm, Int.floor_eq_iff]
  constructor
  · rw [← sub_le_iff_le_add, le_div_iff₀ hpos]
    push_cast
    linarith
  · rw [← lt_sub_iff_add_lt, div_lt_iff₀ hpos]
    push_cast
    linarith

/-- **Rescaling rounds to the nearest integer.**  The number of source levels less one is odd, so a half
never occurs. -/
theorem rescaleQuant_eq_round {value srcBits dstBits : ℕ} (hsrc : 0 < srcBits) (hdst : 0 < dstBits) :
    (rescaleQuant value srcBits dstBits : ℤ)
      = round ((value : ℚ) * (2 ^ dstBits - 1) / (2 ^ srcBits - 1)) := by
  have hlevels : ∀ bits, (2 : ℚ) ^ bits - 1 = ((2 ^ bits - 1 : ℕ) : ℚ) := fun bits => by
    rw [Nat.cast_sub Nat.one_le_two_pow]
    push_cast
    rfl
  have hodd : ∃ h, 2 ^ srcBits - 1 = 2 * h + 1 := by
    obtain ⟨k, rfl⟩ : ∃ k, srcBits = k + 1 := ⟨srcBits - 1, by omega⟩
    have hk := Nat.two_pow_pos k
    exact ⟨2 ^ k - 1, by rw [Nat.pow_succ]; omega⟩
  obtain ⟨h, hh⟩ := hodd
  rw [hlevels, hlevels]
  unfold rescaleQuant
  split_ifs with heq hzero
  · have hne : ((2 ^ srcBits - 1 : ℕ) : ℚ) ≠ 0 := by
      rw [hh]
      positivity
    rw [← heq, mul_div_assoc, div_self hne, mul_one]
    exact (round_natCast value).symm
  · omega
  · dsimp only
    rw [show (2 ^ srcBits - 1) / 2 = h by omega, div_odd_eq_round hh]
    push_cast
    rfl

/-! ### Slots -/

/-- A slot of the rotation block: the index of the largest component and the other three. -/
structure PackedBone where
  index : ℕ
  a : ℕ
  b : ℕ
  c : ℕ
  deriving DecidableEq, Repr

namespace PackedBone

/-- The bone in the bits of a slot. -/
def ofBits (bpc raw : ℕ) : PackedBone where
  index := field raw 0 2
  a := field raw 2 bpc
  b := field raw (2 + bpc) bpc
  c := field raw (2 + 2 * bpc) bpc

/-- The bits of a bone. -/
def toBits (bpc : ℕ) (p : PackedBone) : ℕ :=
  p.index ||| p.a <<< 2 ||| p.b <<< (2 + bpc) ||| p.c <<< (2 + 2 * bpc)

def rescale (srcBpc dstBpc : ℕ) (p : PackedBone) : PackedBone where
  index := p.index
  a := rescaleQuant p.a srcBpc dstBpc
  b := rescaleQuant p.b srcBpc dstBpc
  c := rescaleQuant p.c srcBpc dstBpc

structure Fits (bpc : ℕ) (p : PackedBone) : Prop where
  index : p.index < 2 ^ 2
  a : p.a < 2 ^ bpc
  b : p.b < 2 ^ bpc
  c : p.c < 2 ^ bpc

theorem fits_ofBits (bpc raw : ℕ) : (ofBits bpc raw).Fits bpc :=
  ⟨field_lt _ _ _, field_lt _ _ _, field_lt _ _ _, field_lt _ _ _⟩

theorem Fits.rescale {srcBpc : ℕ} {p : PackedBone} (h : p.Fits srcBpc) (dstBpc : ℕ) :
    (p.rescale srcBpc dstBpc).Fits dstBpc :=
  ⟨h.index, rescaleQuant_lt h.a, rescaleQuant_lt h.b, rescaleQuant_lt h.c⟩

lemma shiftLeft_lt {v len pos total : ℕ} (hv : v < 2 ^ len) (h : pos + len ≤ total) :
    v <<< pos < 2 ^ total := by
  rw [Nat.shiftLeft_eq]
  calc v * 2 ^ pos < 2 ^ len * 2 ^ pos := Nat.mul_lt_mul_of_pos_right hv (Nat.two_pow_pos _)
    _ = 2 ^ (pos + len) := by rw [Nat.add_comm, Nat.pow_add]
    _ ≤ 2 ^ total := Nat.pow_le_pow_right (by decide) h

theorem Fits.toBits_lt {bpc : ℕ} {p : PackedBone} (h : p.Fits bpc) :
    p.toBits bpc < 2 ^ (2 + 3 * bpc) := by
  have hindex : p.index < 2 ^ (2 + 3 * bpc) :=
    h.index.trans_le (Nat.pow_le_pow_right (by decide) (by omega))
  exact Nat.or_lt_two_pow (Nat.or_lt_two_pow (Nat.or_lt_two_pow hindex
    (shiftLeft_lt h.a (by omega))) (shiftLeft_lt h.b (by omega))) (shiftLeft_lt h.c (by omega))

/-- **The bits of a bone hold the bone.** -/
theorem Fits.ofBits_toBits {bpc : ℕ} {p : PackedBone} (h : p.Fits bpc) :
    ofBits bpc (p.toBits bpc) = p := by
  have hlow : ∀ {v n i : ℕ}, v < 2 ^ n → n ≤ i → v.testBit i = false := fun hv hi =>
    Nat.testBit_lt_two_pow (hv.trans_le (Nat.pow_le_pow_right (by decide) hi))
  have hab : (p.index ||| p.a <<< 2) < 2 ^ (2 + bpc) :=
    Nat.or_lt_two_pow (h.index.trans_le (Nat.pow_le_pow_right (by decide) (by omega)))
      (shiftLeft_lt h.a le_rfl)
  have habc : (p.index ||| p.a <<< 2 ||| p.b <<< (2 + bpc)) < 2 ^ (2 + 2 * bpc) :=
    Nat.or_lt_two_pow (hab.trans_le (Nat.pow_le_pow_right (by decide) (by omega)))
      (shiftLeft_lt h.b (by omega))
  have ha : field (p.index ||| p.a <<< 2) 2 bpc = p.a :=
    field_or_shiftLeft h.a fun i _ => hlow h.index (by omega)
  have hb : field (p.index ||| p.a <<< 2 ||| p.b <<< (2 + bpc)) (2 + bpc) bpc = p.b :=
    field_or_shiftLeft h.b fun i _ => hlow hab (by omega)
  have hc : field (p.toBits bpc) (2 + 2 * bpc) bpc = p.c :=
    field_or_shiftLeft h.c fun i _ => hlow habc (by omega)
  have hindex : field (p.toBits bpc) 0 2 = p.index := by
    unfold toBits
    rw [field_or_shiftLeft_of_disjoint h.c (by omega), field_or_shiftLeft_of_disjoint h.b (by omega),
      field_or_shiftLeft_of_disjoint h.a (by omega), field_zero_of_lt h.index]
  have ha' : field (p.toBits bpc) 2 bpc = p.a := by
    unfold toBits
    rw [field_or_shiftLeft_of_disjoint h.c (by omega), field_or_shiftLeft_of_disjoint h.b (by omega),
      ha]
  have hb' : field (p.toBits bpc) (2 + bpc) bpc = p.b := by
    unfold toBits
    rw [field_or_shiftLeft_of_disjoint h.c (by omega), hb]
  unfold ofBits
  rw [hindex, ha', hb', hc]

end PackedBone

/-- The bits per component of a slot. -/
def BitQuality.slotBpc (q : BitQuality) (slot : ℕ) : ℕ := q.bpc.getD slot 0

/-- The bone a payload holds in a slot, read as the source reads it. -/
def readBone (q : BitQuality) (payload : Bytes) (slot : ℕ) : Option PackedBone :=
  (readBitsU64 payload writePosition (q.offsets.getD slot 0) (2 + 3 * q.slotBpc slot)).map
    (PackedBone.ofBits (q.slotBpc slot))

/-! ### Where the slots are -/

/-- The bits of the rotation block before a slot; of all 51 slots, the bits in use. -/
def BitQuality.bitsBefore (q : BitQuality) (slot : ℕ) : ℕ :=
  ((q.bpc.take slot).map fun b => 2 + 3 * b).sum

lemma getD_bitOffsetsFrom {bit slot : ℕ} {bpc : List ℕ} (h : slot < bpc.length) :
    (bitOffsetsFrom bit bpc).getD slot 0 = bit + ((bpc.take slot).map fun b => 2 + 3 * b).sum := by
  induction bpc generalizing bit slot with
  | nil => cases h
  | cons b bpc ih =>
    cases slot with
    | zero => simp [bitOffsetsFrom]
    | succ slot =>
      rw [bitOffsetsFrom, List.getD_cons_succ, ih (Nat.lt_of_succ_lt_succ h), List.take_succ_cons,
        List.map_cons, List.sum_cons, Nat.add_assoc]

namespace BitQuality

variable (q : BitQuality)

lemma length_bpc : q.bpc.length = syncBoneCount := by cases q <;> rfl

/-- The table of offsets holds the bits before each slot. -/
lemma offsets_getD {slot : ℕ} (h : slot < syncBoneCount) :
    q.offsets.getD slot 0 = q.bitsBefore slot := by
  rw [offsets, bitOffsets, getD_bitOffsetsFrom (by rwa [length_bpc]), Nat.zero_add, bitsBefore]

lemma bitsBefore_succ {slot : ℕ} (h : slot < syncBoneCount) :
    q.bitsBefore (slot + 1) = q.bitsBefore slot + (2 + 3 * q.slotBpc slot) := by
  have hslot : slot < q.bpc.length := by rwa [length_bpc]
  rw [bitsBefore, List.take_add_one, List.getElem?_eq_getElem hslot, Option.toList_some,
    List.map_append, List.sum_append, bitsBefore, slotBpc, List.getD_eq_getElem _ _ hslot]
  simp

lemma bitsBefore_mono {m n : ℕ} (h : m ≤ n) : q.bitsBefore m ≤ q.bitsBefore n := by
  obtain ⟨k, rfl⟩ := Nat.exists_eq_add_of_le h
  rw [bitsBefore, bitsBefore, List.take_add, List.map_append, List.sum_append]
  exact Nat.le_add_right _ _

/-- The slots fit the rotation block. -/
lemma bitsBefore_all : q.bitsBefore syncBoneCount ≤ 8 * q.rotationLen := by cases q <;> decide

/-- A slot ends inside the bits in use. -/
lemma slot_end {slot : ℕ} (h : slot < syncBoneCount) :
    q.bitsBefore slot + (2 + 3 * q.slotBpc slot) ≤ q.bitsBefore syncBoneCount := by
  rw [← q.bitsBefore_succ h]
  exact q.bitsBefore_mono h

lemma slotBpc_pos {slot : ℕ} (h : slot < syncBoneCount) : 0 < q.slotBpc slot := by
  have hall : ∀ s < 51, 0 < q.slotBpc s := by cases q <;> decide
  exact hall slot h

/-- Position, rotation block and tail make up the payload. -/
lemma payloadLen_eq : q.payloadLen = writePosition + q.rotationLen + tailBytes := by cases q <;> rfl

end BitQuality

/-- A payload long enough for its rotation block has a bone in every slot. -/
theorem readBone_eq {q : BitQuality} {payload : Bytes} {slot : ℕ} (hslot : slot < syncBoneCount)
    (hlen : writePosition + q.rotationLen ≤ payload.length) :
    readBone q payload slot = some (PackedBone.ofBits (q.slotBpc slot)
      (field (leVal payload) (8 * writePosition + q.bitsBefore slot) (2 + 3 * q.slotBpc slot))) := by
  have hend := q.slot_end hslot
  have hall := q.bitsBefore_all
  rw [readBone, q.offsets_getD hslot, readBitsU64_eq (by omega), Option.map_some]

/-! ### The slot loop -/

/-- The bone that a slot of the target gets. -/
def targetBone (highPayload : Bytes) (target : BitQuality) (slot : ℕ) : PackedBone :=
  (PackedBone.ofBits (BitQuality.high.slotBpc slot)
    (field (leVal highPayload) (8 * writePosition + BitQuality.high.bitsBefore slot)
      (2 + 3 * BitQuality.high.slotBpc slot))).rescale
    (BitQuality.high.slotBpc slot) (target.slotBpc slot)

lemma targetBone_fits (highPayload : Bytes) (target : BitQuality) (slot : ℕ) :
    (targetBone highPayload target slot).Fits (target.slotBpc slot) :=
  (PackedBone.fits_ofBits _ _).rescale _

/-- **The buffer after the first `k` slots**: they hold their bones, and all that follows is clear. -/
structure Repacked (highPayload : Bytes) (target : BitQuality) (k : ℕ) (out : Bytes) : Prop where
  length : out.length = target.payloadLen
  position : out.take writePosition = highPayload.take writePosition
  bones : ∀ slot < k, PackedBone.ofBits (target.slotBpc slot)
    (field (leVal out) (8 * writePosition + target.bitsBefore slot) (2 + 3 * target.slotBpc slot))
      = targetBone highPayload target slot
  clear : ∀ i, 8 * writePosition + target.bitsBefore k ≤ i → (leVal out).testBit i = false

/-- The slot is read and rescaled as one bone, and written as one field. -/
lemma repackSlot_eq {highPayload : Bytes} {target : BitQuality} {slot : ℕ}
    (hslot : slot < syncBoneCount) (hhigh : BitQuality.high.payloadLen ≤ highPayload.length)
    (out : Bytes) :
    repackSlot highPayload target out slot
      = writeBitsU64 out writePosition (target.bitsBefore slot)
          ((targetBone highPayload target slot).toBits (target.slotBpc slot))
          (2 + 3 * target.slotBpc slot) := by
  have hend := BitQuality.high.slot_end hslot
  have hall := BitQuality.high.bitsBefore_all
  have hlen := BitQuality.high.payloadLen_eq
  have hread : readBitsU64 highPayload writePosition (BitQuality.high.offsets.getD slot 0)
      (2 + 3 * BitQuality.high.slotBpc slot)
      = some (field (leVal highPayload) (8 * writePosition + BitQuality.high.bitsBefore slot)
          (2 + 3 * BitQuality.high.slotBpc slot)) := by
    rw [BitQuality.high.offsets_getD hslot]
    exact readBitsU64_eq (by omega)
  unfold repackSlot
  dsimp only
  rw [show bpcHigh.getD slot 0 = BitQuality.high.slotBpc slot from rfl, hread,
    target.offsets_getD hslot]
  have hidx : ∀ raw : ℕ, raw &&& 3 = field raw 0 2 := fun raw => by
    rw [field, Nat.shiftRight_zero]
    exact Nat.and_two_pow_sub_one_eq_mod raw 2
  simp only [Option.bind_eq_bind, Option.bind_some, Nat.and_two_pow_sub_one_eq_mod, hidx]
  rfl

theorem Repacked.step {highPayload : Bytes} {target : BitQuality} {k : ℕ} {out : Bytes}
    (h : Repacked highPayload target k out) (hk : k < syncBoneCount)
    (hhigh : BitQuality.high.payloadLen ≤ highPayload.length) :
    ∃ out', repackSlot highPayload target out k = some out' ∧
      Repacked highPayload target (k + 1) out' := by
  have hend := target.slot_end hk
  have hall := target.bitsBefore_all
  have hlen := target.payloadLen_eq
  have hfits := targetBone_fits highPayload target k
  have hroom : 8 * writePosition + target.bitsBefore k + (2 + 3 * target.slotBpc k)
      ≤ 8 * out.length := by
    rw [h.length]
    omega
  obtain ⟨out', hwrite, hlength, hval⟩ := writeBitsU64_eq hroom hfits.toBits_lt
  refine ⟨out', by rw [repackSlot_eq hk hhigh, hwrite], ?_⟩
  -- fields in front of the slot are not touched
  have hfront : ∀ pos len, pos + len ≤ 8 * writePosition + target.bitsBefore k →
      field (leVal out') pos len = field (leVal out) pos len := fun pos len hle => by
    rw [hval, field_or_shiftLeft_of_disjoint hfits.toBits_lt (.inl hle)]
  refine ⟨hlength.trans h.length, ?_, fun slot hslot => ?_, fun i hi => ?_⟩
  · rw [← h.position]
    refine leVal_inj (by simp [hlength]) ?_
    have hpow : (256 : ℕ) ^ writePosition = 2 ^ (8 * writePosition) := by decide
    have hfield := hfront 0 (8 * writePosition) (by omega)
    simp only [field, Nat.shiftRight_zero] at hfield
    rw [leVal_take, leVal_take, hpow, hfield]
  · rcases Nat.lt_succ_iff_lt_or_eq.mp hslot with hlt | rfl
    · have hbefore : target.bitsBefore slot + (2 + 3 * target.slotBpc slot) ≤ target.bitsBefore k := by
        rw [← target.bitsBefore_succ (hlt.trans hk)]
        exact target.bitsBefore_mono hlt
      rw [hfront _ _ (by omega)]
      exact h.bones slot hlt
    · rw [hval, field_or_shiftLeft hfits.toBits_lt fun i _ => h.clear _ (by omega)]
      exact hfits.ofBits_toBits
  · rw [target.bitsBefore_succ hk] at hi
    rw [hval, Nat.testBit_or, h.clear i (by omega),
      testBit_shiftLeft_of_lt hfits.toBits_lt (.inr (by omega)), Bool.or_false]

/-- The whole loop. -/
theorem Repacked.foldlM {highPayload : Bytes} {target : BitQuality} {out : Bytes}
    (h : Repacked highPayload target 0 out)
    (hhigh : BitQuality.high.payloadLen ≤ highPayload.length) {k : ℕ} (hk : k ≤ syncBoneCount) :
    ∃ out', (List.range k).foldlM (repackSlot highPayload target) out = some out' ∧
      Repacked highPayload target k out' := by
  induction k with
  | zero => exact ⟨out, rfl, h⟩
  | succ k ih =>
    obtain ⟨out₁, hfold, h₁⟩ := ih (by omega)
    obtain ⟨out₂, hslot, h₂⟩ := h₁.step hk hhigh
    refine ⟨out₂, ?_, h₂⟩
    rw [List.range_succ, List.foldlM_append, hfold]
    simpa using hslot

/-- The buffer the loop starts from. -/
theorem repacked_zero {highPayload : Bytes} (target : BitQuality)
    (hhigh : BitQuality.high.payloadLen ≤ highPayload.length) :
    Repacked highPayload target 0 (highPayload.take writePosition ++
      (List.replicate target.payloadLen 0 : Bytes).drop writePosition) := by
  have hlen := target.payloadLen_eq
  have htake : (highPayload.take writePosition).length = writePosition := by
    rw [List.length_take, min_eq_left]
    exact le_trans (by decide) hhigh
  refine ⟨?_, ?_, fun slot hslot => absurd hslot (Nat.not_lt_zero _), fun i hi => ?_⟩
  · rw [List.length_append, htake, List.length_drop, List.length_replicate]
    omega
  · rw [List.take_append_of_le_length htake.ge, List.take_of_length_le htake.le]
  · have hbyte : (highPayload.take writePosition).length ≤ i / 8 := by
      rw [htake]
      omega
    rw [testBit_leVal, List.getD_eq_getElem?_getD, List.getElem?_append_right hbyte,
      List.getElem?_drop, List.getElem?_replicate]
    split <;> simp

/-! ### The result -/

/-- `w` is the integer nearest to the component `v` on the coarser scale, and fits it. -/
def IsNearest (srcBpc dstBpc v w : ℕ) : Prop :=
  (w : ℤ) = round ((v : ℚ) * (2 ^ dstBpc - 1) / (2 ^ srcBpc - 1)) ∧ w < 2 ^ dstBpc

/-- The payload that is put together from the slots done and the tail. -/
def assembled (highPayload : Bytes) (target : BitQuality) (rotated : Bytes) : Bytes :=
  rotated.take (writePosition + target.rotationLen) ++
    (highPayload.drop (writePosition + BitQuality.high.rotationLen)).take tailBytes

/-- The function puts the payload together in front of the rest of the buffer. -/
lemma repackHighToLowerInto_eq {highPayload : Bytes} {target : BitQuality} {out : Bytes}
    (hhigh : BitQuality.high.payloadLen ≤ highPayload.length) (htarget : target ≠ .high)
    (hout : target.payloadLen ≤ out.length) :
    ∃ rotated, Repacked highPayload target syncBoneCount rotated ∧
      repackHighToLowerInto highPayload target out
        = some (.ok (assembled highPayload target rotated ++ out.drop target.payloadLen)) := by
  obtain ⟨rotated, hfold, h⟩ := (repacked_zero target hhigh).foldlM hhigh le_rfl
  have hlen := target.payloadLen_eq
  have hrest : rotated.drop (writePosition + target.rotationLen + tailBytes) = [] :=
    List.drop_of_length_le (by rw [h.length]; omega)
  refine ⟨rotated, h, ?_⟩
  unfold repackHighToLowerInto
  rw [if_neg (not_lt.mpr hhigh), if_neg htarget, if_neg (not_lt.mpr hout)]
  simp only [hfold, Option.bind_eq_bind, Option.bind_some]
  rw [hrest, List.append_nil]
  rfl

namespace Repacked

variable {highPayload : Bytes} {target : BitQuality} {rotated : Bytes}

lemma length_take (h : Repacked highPayload target syncBoneCount rotated) :
    (rotated.take (writePosition + target.rotationLen)).length
      = writePosition + target.rotationLen := by
  have hlen := target.payloadLen_eq
  rw [List.length_take, h.length]
  omega

lemma length_assembled (h : Repacked highPayload target syncBoneCount rotated)
    (hhigh : BitQuality.high.payloadLen ≤ highPayload.length) :
    (assembled highPayload target rotated).length = target.payloadLen := by
  have hlen := target.payloadLen_eq
  have hhighLen := BitQuality.high.payloadLen_eq
  rw [assembled, List.length_append, h.length_take, List.length_take, List.length_drop]
  omega

/-- In front of the tail the result is the buffer the slot loop left. -/
lemma getElem?_assembled (h : Repacked highPayload target syncBoneCount rotated) (rest : Bytes)
    {k : ℕ} (hk : k < writePosition + target.rotationLen) :
    (assembled highPayload target rotated ++ rest)[k]? = rotated[k]? := by
  have hlt : k < (rotated.take (writePosition + target.rotationLen)).length := by
    rwa [h.length_take]
  rw [assembled, List.append_assoc, List.getElem?_append_left hlt, List.getElem?_take_of_lt hk]

/-- So every slot still holds its bone. -/
theorem readBone_assembled (h : Repacked highPayload target syncBoneCount rotated)
    (hhigh : BitQuality.high.payloadLen ≤ highPayload.length) (rest : Bytes) {slot : ℕ}
    (hslot : slot < syncBoneCount) :
    readBone target (assembled highPayload target rotated ++ rest) slot
      = some (targetBone highPayload target slot) := by
  have hend := target.slot_end hslot
  have hall := target.bitsBefore_all
  have hlen := target.payloadLen_eq
  have hroom : writePosition + target.rotationLen
      ≤ (assembled highPayload target rotated ++ rest).length := by
    rw [List.length_append, h.length_assembled hhigh]
    omega
  have hfield : field (leVal (assembled highPayload target rotated ++ rest))
      (8 * writePosition + target.bitsBefore slot) (2 + 3 * target.slotBpc slot)
      = field (leVal rotated) (8 * writePosition + target.bitsBefore slot)
          (2 + 3 * target.slotBpc slot) :=
    field_leVal_congr (by omega) fun k hk => h.getElem?_assembled rest hk
  rw [readBone_eq hslot hroom, hfield, h.bones slot hslot]

/-- And the bits behind the last slot are still clear. -/
theorem testBit_assembled (h : Repacked highPayload target syncBoneCount rotated) (rest : Bytes)
    {i : ℕ} (hlow : 8 * writePosition + target.bitsBefore syncBoneCount ≤ i)
    (hhi : i < 8 * (writePosition + target.rotationLen)) :
    (leVal (assembled highPayload target rotated ++ rest)).testBit i = false := by
  have hclear := h.clear i hlow
  rw [testBit_leVal, List.getD_eq_getElem?_getD] at hclear ⊢
  rw [h.getElem?_assembled rest (by omega)]
  exact hclear

end Repacked

/-- **Repacking is exact field by field.** -/
theorem repack_high_to_lower_exact {highPayload : Bytes} {target : BitQuality} {out : Bytes}
    (hhigh : 182 ≤ highPayload.length) (htarget : target ≠ .high)
    (hout : target.payloadLen ≤ out.length) :
    ∃ out', repackHighToLowerInto highPayload target out = some (.ok out') ∧
      out'.take 12 = highPayload.take 12 ∧
      (out'.take target.payloadLen).drop (target.payloadLen - 22) = (highPayload.drop 160).take 22 ∧
      (∀ slot < 51, ∃ v w,
        readBone .high highPayload slot = some v ∧ readBone target out' slot = some w ∧
        w.index = v.index ∧
        IsNearest (BitQuality.high.slotBpc slot) (target.slotBpc slot) v.a w.a ∧
        IsNearest (BitQuality.high.slotBpc slot) (target.slotBpc slot) v.b w.b ∧
        IsNearest (BitQuality.high.slotBpc slot) (target.slotBpc slot) v.c w.c) ∧
      (∀ i, 8 * 12 + target.bitsBefore 51 ≤ i → i < 8 * (12 + target.rotationLen) →
        (leVal out').testBit i = false) ∧
      out'.drop target.payloadLen = out.drop target.payloadLen ∧ out'.length = out.length := by
  obtain ⟨rotated, h, hrepack⟩ := repackHighToLowerInto_eq hhigh htarget hout
  have hlen := target.payloadLen_eq
  have hhighLen := BitQuality.high.payloadLen_eq
  have hwhole := h.length_assembled hhigh
  refine ⟨_, hrepack, ?_, ?_, fun slot hslot => ?_,
    fun i hlow hhi => h.testBit_assembled _ hlow hhi, List.drop_left' hwhole, ?_⟩
  · have hle : writePosition ≤ (rotated.take (writePosition + target.rotationLen)).length := by
      rw [h.length_take]
      exact Nat.le_add_right _ _
    show (assembled highPayload target rotated ++ _).take writePosition = _
    rw [assembled, List.append_assoc, List.take_append_of_le_length hle, List.take_take,
      min_eq_left (Nat.le_add_right _ _)]
    exact h.position
  · have hcut : target.payloadLen - 22
        = (rotated.take (writePosition + target.rotationLen)).length := by
      have htail : tailBytes = 22 := rfl
      rw [h.length_take]
      omega
    rw [List.take_left' hwhole, hcut, assembled, List.drop_left]
    rfl
  · have hsrc := BitQuality.high.slotBpc_pos hslot
    have hdst := target.slotBpc_pos hslot
    have hfits := targetBone_fits highPayload target slot
    have hroom : writePosition + BitQuality.high.rotationLen ≤ highPayload.length :=
      le_trans (by decide) hhigh
    exact ⟨_, _, readBone_eq hslot hroom, h.readBone_assembled hhigh _ hslot, rfl,
      ⟨rescaleQuant_eq_round hsrc hdst, hfits.a⟩, ⟨rescaleQuant_eq_round hsrc hdst, hfits.b⟩,
      ⟨rescaleQuant_eq_round hsrc hdst, hfits.c⟩⟩
  · rw [List.length_append, hwhole, List.length_drop]
    omega

/-- A dirty buffer longer than the payload. -/
theorem repack_high_to_lower_exact_dirty :
    ∃ out', repackHighToLowerInto (List.replicate 190 0xc5) .low (List.replicate 140 0xff)
        = some (.ok out') ∧
      out'.take 12 = List.replicate 12 0xc5 ∧ out'.drop 131 = List.replicate 9 0xff := by
  obtain ⟨out', hrepack, hposition, -, -, -, hrest, -⟩ :=
    @repack_high_to_lower_exact (List.replicate 190 0xc5) .low (List.replicate 140 0xff)
      (by rw [List.length_replicate]; omega) (by decide)
      (by rw [List.length_replicate]; decide)
  exact ⟨out', hrepack, hposition, hrest⟩

end BasisRust.Protocol
