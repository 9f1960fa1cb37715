import BasisRust.Lib.LittleEndian
import Mathlib.Data.List.Induction

/-!
# Byte strings as bitmaps

Bit `i` of a bitmap is bit `i % 8` of byte `i / 8`.  Setting and clearing touch one bit; outside the
string there is nothing to touch and every bit reads as clear.
-/

namespace BasisRust.Lib

def bitMask (i : ℕ) : UInt8 := 1 <<< UInt8.ofNat (i % 8)

def getBit (bits : List UInt8) (i : ℕ) : Bool :=
  match bits[i / 8]? with
  | some b => b &&& bitMask i != 0
  | none => false

def setBit (bits : List UInt8) (i : ℕ) : List UInt8 := bits.modify (i / 8) (· ||| bitMask i)

def clearBit (bits : List UInt8) (i : ℕ) : List UInt8 := bits.modify (i / 8) (· &&& ~~~ bitMask i)

@[simp] lemma length_setBit (bits : List UInt8) (i : ℕ) : (setBit bits i).length = bits.length :=
  List.length_modify ..

@[simp] lemma length_clearBit (bits : List UInt8) (i : ℕ) :
    (clearBit bits i).length = bits.length := List.length_modify ..

/-! ### One byte -/

/-- Masking a byte tests one of its bits. -/
lemma and_bitMask (b : UInt8) (i : ℕ) : (b &&& bitMask i != 0) = b.toNat.testBit (i % 8) := by
  have key : ∀ c : UInt8, ∀ r < 8, (c &&& bitMask r != 0) = c.toNat.testBit r := by decide +kernel
  have h := key b (i % 8) (Nat.mod_lt _ (by decide))
  rwa [bitMask, Nat.mod_mod, ← bitMask] at h

lemma testBit_bitMask (i j : ℕ) :
    (bitMask i).toNat.testBit (j % 8) = decide (i % 8 = j % 8) := by
  have key : ∀ r < 8, ∀ t < 8, (bitMask r).toNat.testBit t = decide (r = t) := by decide
  have h := key (i % 8) (Nat.mod_lt _ (by decide)) (j % 8) (Nat.mod_lt _ (by decide))
  rwa [bitMask, Nat.mod_mod, ← bitMask] at h

lemma testBit_not (b : UInt8) (j : ℕ) :
    (~~~ b).toNat.testBit (j % 8) = !b.toNat.testBit (j % 8) := by
  have key : ∀ c : UInt8, ∀ r < 8, (~~~ c).toNat.testBit r = !c.toNat.testBit r := by
    decide +kernel
  exact key b (j % 8) (Nat.mod_lt _ (by decide))

lemma or_bitMask_and_bitMask (b : UInt8) (i j : ℕ) :
    ((b ||| bitMask i) &&& bitMask j != 0) = (decide (i % 8 = j % 8) || b &&& bitMask j != 0) := by
  rw [and_bitMask, and_bitMask, UInt8.toNat_or, Nat.testBit_or, testBit_bitMask, Bool.or_comm]

lemma and_not_bitMask_and_bitMask (b : UInt8) (i j : ℕ) :
    (b &&& ~~~ bitMask i &&& bitMask j != 0)
      = (decide (i % 8 ≠ j % 8) && b &&& bitMask j != 0) := by
  rw [and_bitMask, and_bitMask, UInt8.toNat_and, Nat.testBit_and, testBit_not, testBit_bitMask,
    Bool.and_comm, decide_not]

/-! ### The whole string -/

lemma eq_of_div_eq_of_mod_eq {i j : ℕ} (hdiv : i / 8 = j / 8) (hmod : i % 8 = j % 8) : i = j := by
  omega

/-- **Setting** a bit of the string sets that bit and no other. -/
theorem getBit_setBit {bits : List UInt8} {i : ℕ} (hi : i / 8 < bits.length) (j : ℕ) :
    getBit (setBit bits i) j = (decide (j = i) || getBit bits j) := by
  unfold getBit setBit
  by_cases hbyte : i / 8 = j / 8
  · have hj : j / 8 < bits.length := hbyte ▸ hi
    have hiff : i % 8 = j % 8 ↔ j = i :=
      ⟨fun h => (eq_of_div_eq_of_mod_eq hbyte h).symm, fun h => h ▸ rfl⟩
    simp only [List.getElem?_modify, if_pos hbyte, List.getElem?_eq_getElem hj, Option.map_eq_map,
      Option.map_some, or_bitMask_and_bitMask, hiff]
  · have hne : j ≠ i := fun h => hbyte (h ▸ rfl)
    simp only [List.getElem?_modify, if_neg hbyte, decide_eq_false hne, Bool.false_or, id_map']

/-- **Clearing** a bit clears that bit and no other. -/
theorem getBit_clearBit (bits : List UInt8) (i j : ℕ) :
    getBit (clearBit bits i) j = (decide (j ≠ i) && getBit bits j) := by
  unfold getBit clearBit
  by_cases hbyte : i / 8 = j / 8
  · have hiff : i % 8 ≠ j % 8 ↔ j ≠ i :=
      not_congr ⟨fun h => (eq_of_div_eq_of_mod_eq hbyte h).symm, fun h => h ▸ rfl⟩
    simp only [List.getElem?_modify, if_pos hbyte, Option.map_eq_map]
    cases bits[j / 8]? with
    | none => simp
    | some b => simp only [Option.map_some, and_not_bitMask_and_bitMask, hiff]
  · have hne : j ≠ i := fun h => hbyte (h ▸ rfl)
    simp only [List.getElem?_modify, if_neg hbyte, decide_eq_true hne, Bool.true_and, id_map']

/-- A fresh bitmap has no bit set. -/
@[simp] lemma getBit_replicate (n i : ℕ) : getBit (List.replicate n 0) i = false := by
  unfold getBit
  rw [List.getElem?_replicate]
  by_cases h : i / 8 < n
  · simp [if_pos h]
  · simp [if_neg h]

/-- Setting a list of positions. -/
theorem getBit_foldl_setBit {bits : List UInt8} {is : List ℕ} (his : ∀ i ∈ is, i / 8 < bits.length) (j : ℕ) :
    getBit (is.foldl setBit bits) j = (decide (j ∈ is) || getBit bits j) := by
  induction is generalizing bits with
  | nil => simp
  | cons i is ih =>
    rw [List.forall_mem_cons] at his
    have hrest : ∀ i' ∈ is, i' / 8 < (setBit bits i).length := by
      rw [length_setBit]
      exact his.2
    rw [List.foldl_cons, ih hrest, getBit_setBit his.1, ← Bool.or_assoc]
    congr 1
    simp only [List.mem_cons, Bool.decide_or, Bool.or_comm]

lemma length_foldl_setBit (bits : List UInt8) (is : List ℕ) : (is.foldl setBit bits).length = bits.length := by
  induction is generalizing bits with
  | nil => rfl
  | cons i is ih => rw [List.foldl_cons, ih, length_setBit]

/-- Clearing a list of positions. -/
theorem getBit_foldl_clearBit (bits : List UInt8) (is : List ℕ) (j : ℕ) :
    getBit (is.foldl clearBit bits) j = (decide (j ∉ is) && getBit bits j) := by
  induction is generalizing bits with
  | nil => simp
  | cons i is ih =>
    rw [List.foldl_cons, ih, getBit_clearBit, ← Bool.and_assoc]
    congr 1
    simp only [List.mem_cons, not_or, ne_eq, Bool.decide_and, Bool.and_comm]

lemma length_foldl_clearBit (bits : List UInt8) (is : List ℕ) :
    (is.foldl clearBit bits).length = bits.length := by
  induction is generalizing bits with
  | nil => rfl
  | cons i is ih => rw [List.foldl_cons, ih, length_clearBit]

/-! ### The bits that are set -/

lemma div_lt_of_getBit {bits : List UInt8} {i : ℕ} (h : getBit bits i = true) : i / 8 < bits.length := by
  by_contra hout
  unfold getBit at h
  rw [List.getElem?_eq_none (Nat.le_of_not_lt hout)] at h
  cases h

/-- The positions of the bits that are set, in order. -/
def setIndexes (bits : List UInt8) : List ℕ := (List.range (8 * bits.length)).filter (getBit bits)

@[simp] lemma mem_setIndexes {bits : List UInt8} {i : ℕ} : i ∈ setIndexes bits ↔ getBit bits i = true := by
  rw [setIndexes, List.mem_filter, List.mem_range, and_iff_right_iff_imp]
  intro h
  have hbyte := div_lt_of_getBit h
  omega

lemma nodup_setIndexes (bits : List UInt8) : (setIndexes bits).Nodup := List.nodup_range.filter _

/-- The bits of one more byte come behind all others. -/
lemma setIndexes_append_singleton (bits : List UInt8) (byte : UInt8) :
    setIndexes (bits ++ [byte]) = setIndexes bits ++
      ((List.range 8).filter fun bit => byte.toNat.testBit bit).map fun bit => bits.length * 8 + bit := by
  have hfront : ∀ i ∈ List.range (8 * bits.length), getBit (bits ++ [byte]) i = getBit bits i := by
    intro i hi
    have hbyte : i / 8 < bits.length := by
      rw [List.mem_range] at hi
      omega
    unfold getBit
    rw [List.getElem?_append_left hbyte]
  have hback : ∀ bit ∈ List.range 8, (getBit (bits ++ [byte]) ∘ (8 * bits.length + ·)) bit = byte.toNat.testBit bit := by
    intro bit hbit
    rw [List.mem_range] at hbit
    have hdiv : (8 * bits.length + bit) / 8 = bits.length := by omega
    have hmod : (8 * bits.length + bit) % 8 = bit := by omega
    unfold getBit
    rw [Function.comp_apply, hdiv, List.getElem?_concat_length]
    dsimp only
    rw [and_bitMask, hmod]
  have hlength : 8 * (bits ++ [byte]).length = 8 * bits.length + 8 := by
    rw [List.length_append, List.length_singleton, Nat.mul_add]
  rw [setIndexes, hlength, List.range_add, List.filter_append, List.filter_congr hfront, List.filter_map,
    List.filter_congr hback, setIndexes]
  simp only [Nat.mul_comm]

/-- **Byte after byte** the same positions are found. -/
theorem flatMap_zipIdx_testBit (bits : List UInt8) :
    (bits.zipIdx.flatMap fun (byte, byteIndex) =>
      ((List.range 8).filter fun bit => byte.toNat.testBit bit).map fun bit => byteIndex * 8 + bit) =
        setIndexes bits := by
  induction bits using List.reverseRecOn with
  | nil => rfl
  | append_singleton bits byte ih =>
    rw [List.zipIdx_append, List.flatMap_append, ih, setIndexes_append_singleton]
    simp

end BasisRust.Lib
