import BasisRust.Protocol.Repack

/-!
# Bit fields in 64-bit registers

`read_bits_u64` and `write_bits_u64` once more with the registers of the source, where a shift by 64 or more
overflows.  Up to 64 bits nothing is cut off, so they do what the loops over natural numbers do: a field that was
clear holds what is written, and the bits around it stay.
-/

namespace BasisRust.Protocol.Word

open Lib

/-! ### The loops -/

lemma mod_eight_lt (bitPos : ℕ) : bitPos % 8 < 8 := Nat.mod_lt _ (by decide)

/-- `(1u64 << take) - 1` -/
def mask (take : ℕ) : UInt64 := (1 <<< UInt64.ofNat take) - 1

/-- The loop of `read_bits_u64`; an index out of range and a shift by the width panic. -/
def readBitsLoop (src : Bytes) (bytePos : ℕ) (bitInByte : Fin 8) (result : UInt64) (outShift bitsLeft : ℕ) :
    Option UInt64 :=
  if bitsLeft = 0 then some result
  else
    let take := min bitsLeft (8 - bitInByte.val)
    match src[bytePos]? with
    | none => none
    | some b =>
      let current := b.toUInt64 >>> UInt64.ofNat bitInByte.val
      if outShift < 64 then
        readBitsLoop src (bytePos + 1) 0 (result ||| (current &&& mask take) <<< UInt64.ofNat outShift)
          (outShift + take) (bitsLeft - take)
      else none
termination_by bitsLeft
decreasing_by omega

def readBitsU64 (src : Bytes) (baseByteOffset bitPos bitCount : ℕ) : Option UInt64 :=
  readBitsLoop src (baseByteOffset + bitPos / 8) ⟨bitPos % 8, mod_eight_lt bitPos⟩ 0 0 bitCount

/-- The loop of `write_bits_u64`. -/
def writeBitsLoop (dst : Bytes) (bytePos : ℕ) (bitInByte : Fin 8) (value : UInt64) (bitsLeft : ℕ) :
    Option Bytes :=
  if bitsLeft = 0 then some dst
  else
    let take := min bitsLeft (8 - bitInByte.val)
    let chunk := (value &&& mask take).toUInt8
    if bytePos < dst.length then
      writeBitsLoop (dst.modify bytePos (· ||| chunk <<< UInt8.ofNat bitInByte.val)) (bytePos + 1) 0
        (value >>> UInt64.ofNat take) (bitsLeft - take)
    else none
termination_by bitsLeft
decreasing_by omega

def writeBitsU64 (dst : Bytes) (baseByteOffset bitPos : ℕ) (value : UInt64) (bitCount : ℕ) : Option Bytes :=
  writeBitsLoop dst (baseByteOffset + bitPos / 8) ⟨bitPos % 8, mod_eight_lt bitPos⟩ value bitCount

/-! ### Registers as numbers -/

lemma toNat_ofNat_of_lt {n : ℕ} (h : n < 64) : (UInt64.ofNat n).toNat % 64 = n := by
  rw [UInt64.toNat_ofNat', Nat.mod_eq_of_lt (show n < 2 ^ 64 by omega), Nat.mod_eq_of_lt h]

lemma toNat_mask {take : ℕ} (h : take ≤ 8) : (mask take).toNat = 2 ^ take - 1 := by
  have hpow : 2 ^ take ≤ 2 ^ 8 := Nat.pow_le_pow_right (by decide) h
  have hshift : (1 <<< UInt64.ofNat take : UInt64).toNat = 2 ^ take := by
    rw [UInt64.toNat_shiftLeft, toNat_ofNat_of_lt (by omega), UInt64.toNat_one, Nat.one_shiftLeft,
      Nat.mod_eq_of_lt (by omega)]
  have hpos := Nat.two_pow_pos take
  rw [mask, UInt64.toNat_sub_of_le _ _ (by rw [UInt64.le_iff_toNat_le, hshift, UInt64.toNat_one]; exact hpos), hshift,
    UInt64.toNat_one]

/-- What one byte contributes. -/
lemma toNat_piece {b : UInt8} {bit take : ℕ} (hbit : bit < 8) (htake : take ≤ 8) :
    (b.toUInt64 >>> UInt64.ofNat bit &&& mask take).toNat = b.toNat >>> bit &&& (2 ^ take - 1) := by
  rw [UInt64.toNat_and, toNat_mask htake, UInt64.toNat_shiftRight, toNat_ofNat_of_lt (by omega),
    UInt8.toNat_toUInt64]

/-- **Reading in registers** is reading in numbers as long as no more than 64 bits are read. -/
theorem readBitsLoop_eq {src : Bytes} {bytePos : ℕ} {bitInByte : Fin 8} {result : UInt64} {outShift bitsLeft : ℕ}
    (h : outShift + bitsLeft ≤ 64) :
    (readBitsLoop src bytePos bitInByte result outShift bitsLeft).map UInt64.toNat =
      Protocol.readBitsLoop src bytePos bitInByte result.toNat outShift bitsLeft := by
  induction bitsLeft using Nat.strong_induction_on generalizing bytePos bitInByte result outShift with
  | _ bitsLeft ih =>
    rw [readBitsLoop, Protocol.readBitsLoop]
    by_cases hzero : bitsLeft = 0
    · rw [if_pos hzero, if_pos hzero, Option.map_some]
    · rw [if_neg hzero, if_neg hzero]
      cases src[bytePos]? with
      | none => rfl
      | some b =>
        have hbit := bitInByte.isLt
        set take := min bitsLeft (8 - bitInByte.val) with htake
        dsimp only
        rw [if_pos (by omega), ih (bitsLeft - take) (by omega) (by omega), UInt64.toNat_or, UInt64.toNat_shiftLeft,
          toNat_piece hbit (by omega), toNat_ofNat_of_lt (by omega)]
        have hpiece : b.toNat >>> bitInByte.val &&& (2 ^ take - 1) < 2 ^ take := by
          rw [Nat.and_two_pow_sub_one_eq_mod]
          exact Nat.mod_lt _ (Nat.two_pow_pos take)
        have hfits : (b.toNat >>> bitInByte.val &&& (2 ^ take - 1)) <<< outShift < 2 ^ 64 := by
          rw [Nat.shiftLeft_eq]
          calc (b.toNat >>> bitInByte.val &&& (2 ^ take - 1)) * 2 ^ outShift
              < 2 ^ take * 2 ^ outShift := Nat.mul_lt_mul_of_pos_right hpiece (Nat.two_pow_pos outShift)
            _ = 2 ^ (take + outShift) := (Nat.pow_add ..).symm
            _ ≤ 2 ^ 64 := Nat.pow_le_pow_right (by decide) (by omega)
        rw [Nat.mod_eq_of_lt hfits]

theorem readBitsU64_eq {src : Bytes} {base bitPos bitCount : ℕ} (h : bitCount ≤ 64) :
    (readBitsU64 src base bitPos bitCount).map UInt64.toNat = Protocol.readBitsU64 src base bitPos bitCount :=
  readBitsLoop_eq (by omega)

/-- **Writing in registers** is writing in numbers. -/
theorem writeBitsLoop_eq {dst : Bytes} {bytePos : ℕ} {bitInByte : Fin 8} {value : UInt64} {bitsLeft : ℕ} :
    writeBitsLoop dst bytePos bitInByte value bitsLeft =
      Protocol.writeBitsLoop dst bytePos bitInByte value.toNat bitsLeft := by
  induction bitsLeft using Nat.strong_induction_on generalizing dst bytePos bitInByte value with
  | _ bitsLeft ih =>
    rw [writeBitsLoop, Protocol.writeBitsLoop]
    by_cases hzero : bitsLeft = 0
    · rw [if_pos hzero, if_pos hzero]
    · rw [if_neg hzero, if_neg hzero]
      set take := min bitsLeft (8 - bitInByte.val) with htake
      have hchunk : (value &&& mask take).toUInt8 =
          UInt8.ofNat (value.toNat &&& (2 ^ take - 1)) := by
        rw [← UInt8.toNat_inj, UInt64.toNat_toUInt8, UInt64.toNat_and, toNat_mask (by omega), UInt8.toNat_ofNat']
      dsimp only
      rw [hchunk]
      split
      next => rw [ih (bitsLeft - take) (by omega), UInt64.toNat_shiftRight, toNat_ofNat_of_lt (by omega)]
      next => rfl

/-! ### Fields apart -/

/-- A bit of a buffer. -/
def bitAt (bytes : Bytes) (i : ℕ) : Bool := (bytes.getD (i / 8) 0).toNat.testBit (i % 8)

/-- What is read depends on the bits that are read; a read that panics does so on any buffer of the length. -/
theorem readBitsLoop_congr {src src' : Bytes} (hlength : src'.length = src.length) {bytePos : ℕ} {bitInByte : Fin 8}
    {result : UInt64} {outShift bitsLeft : ℕ}
    (h : ∀ i < bitsLeft, bitAt src' (8 * bytePos + bitInByte.val + i) = bitAt src (8 * bytePos + bitInByte.val + i)) :
    readBitsLoop src' bytePos bitInByte result outShift bitsLeft =
      readBitsLoop src bytePos bitInByte result outShift bitsLeft := by
  induction bitsLeft using Nat.strong_induction_on generalizing bytePos bitInByte result outShift with
  | _ bitsLeft ih =>
    rw [readBitsLoop, readBitsLoop.eq_def src]
    by_cases hzero : bitsLeft = 0
    · rw [if_pos hzero, if_pos hzero]
    · rw [if_neg hzero, if_neg hzero]
      have hbit := bitInByte.isLt
      set take := min bitsLeft (8 - bitInByte.val) with htake
      by_cases hlt : bytePos < src.length
      · have hbyte : src[bytePos]? = some src[bytePos] := List.getElem?_eq_getElem hlt
        have hbyte' : src'[bytePos]? = some src'[bytePos] := List.getElem?_eq_getElem (by omega)
        have hpiece : src'[bytePos].toUInt64 >>> UInt64.ofNat bitInByte.val &&& mask take =
            src[bytePos].toUInt64 >>> UInt64.ofNat bitInByte.val &&& mask take := by
          rw [← UInt64.toNat_inj, toNat_piece hbit (by omega), toNat_piece hbit (by omega),
            and_mask_eq_field hbyte (by omega), and_mask_eq_field hbyte' (by omega)]
          refine field_congr fun i hi => ?_
          rw [testBit_leVal, testBit_leVal]
          exact h i (by omega)
        simp only [hbyte, hbyte', hpiece]
        split
        next =>
          refine ih (bitsLeft - take) (by omega) fun i hi => ?_
          -- there is another byte only where this one was read to its end
          have hnext : 8 * (bytePos + 1) + (0 : Fin 8).val + i = 8 * bytePos + bitInByte.val + (take + i) := by
            simp only [Fin.val_zero]
            omega
          rw [hnext]
          exact h (take + i) (by omega)
        next => rfl
      · rw [List.getElem?_eq_none (by omega), List.getElem?_eq_none (by omega)]

lemma readBitsU64_congr {src src' : Bytes} (hlength : src'.length = src.length) {base bitPos bitCount : ℕ}
    (h : ∀ i < bitCount, bitAt src' (8 * base + bitPos + i) = bitAt src (8 * base + bitPos + i)) :
    readBitsU64 src' base bitPos bitCount = readBitsU64 src base bitPos bitCount := by
  have hpos : 8 * (base + bitPos / 8) + bitPos % 8 = 8 * base + bitPos := by omega
  refine readBitsLoop_congr hlength fun i hi => ?_
  simp only [hpos]
  exact h i hi

/-- The field from the bit `start` on has no bit in common with this one. -/
def Apart (start len start' len' : ℕ) : Prop := start' + len' ≤ start ∨ start + len ≤ start'

/-- **A clear field holds what is written to it**, up to 64 bits at any position, and nothing else changes. -/
theorem bit_field_written {dst : Bytes} {base bitPos bitCount : ℕ} {value : UInt64} (hcount : bitCount ≤ 64)
    (hroom : 8 * base + bitPos + bitCount ≤ 8 * dst.length)
    (hclear : ∀ i < bitCount, bitAt dst (8 * base + bitPos + i) = false) (hvalue : value.toNat < 2 ^ bitCount) :
    ∃ dst', writeBitsU64 dst base bitPos value bitCount = some dst' ∧
      dst'.length = dst.length ∧
      readBitsU64 dst' base bitPos bitCount = some value ∧
      (∀ i, Apart (8 * base + bitPos) bitCount i 1 → bitAt dst' i = bitAt dst i) ∧
      ∀ base' bitPos' bitCount', Apart (8 * base + bitPos) bitCount (8 * base' + bitPos') bitCount' →
        readBitsU64 dst' base' bitPos' bitCount' = readBitsU64 dst base' bitPos' bitCount' := by
  obtain ⟨dst', hwrite, hlength, hval⟩ := Protocol.writeBitsU64_eq hroom hvalue
  have hothers : ∀ i, Apart (8 * base + bitPos) bitCount i 1 → bitAt dst' i = bitAt dst i := by
    intro i hi
    have hout : i < 8 * base + bitPos ∨ 8 * base + bitPos + bitCount ≤ i := by
      unfold Apart at hi
      omega
    rw [bitAt, bitAt, ← testBit_leVal, ← testBit_leVal, hval, Nat.testBit_or, testBit_shiftLeft_of_lt hvalue hout,
      Bool.or_false]
  refine ⟨dst', writeBitsLoop_eq.trans hwrite, hlength, ?_, hothers, fun base' bitPos' bitCount' hapart => ?_⟩
  · have hclear' : ∀ i < bitCount, (leVal dst).testBit (8 * base + bitPos + i) = false := fun i hi => by
      rw [testBit_leVal]
      exact hclear i hi
    have hread : (readBitsU64 dst' base bitPos bitCount).map UInt64.toNat = some value.toNat := by
      rw [readBitsU64_eq hcount, Protocol.readBitsU64_eq (by rw [hlength]; exact hroom), hval,
        field_or_shiftLeft hvalue hclear']
    obtain ⟨read, hread, hsame⟩ := Option.map_eq_some_iff.mp hread
    rw [hread, UInt64.toNat_inj.mp hsame]
  · refine readBitsU64_congr hlength fun i hi => hothers _ ?_
    unfold Apart at hapart ⊢
    omega

/-- A field of 64 bits that spans nine bytes. -/
theorem bit_field_written_nine : ∃ dst', writeBitsU64 (List.replicate 9 0) 0 5 0xfedcba9876543210 64 = some dst' ∧
    readBitsU64 dst' 0 5 64 = some 0xfedcba9876543210 := by
  have hclear : ∀ i < 64, bitAt (List.replicate 9 0) (8 * 0 + 5 + i) = false := by decide +kernel
  have hvalue : (0xfedcba9876543210 : UInt64).toNat < 2 ^ 64 := by decide
  obtain ⟨dst', hwrite, -, hread, -⟩ := bit_field_written (le_refl 64) (by decide) hclear hvalue
  exact ⟨dst', hwrite, hread⟩

end BasisRust.Protocol.Word
