import BasisRust.Lib.LittleEndian
import Mathlib.Data.Nat.Bits

/-!
# Bit fields

`field n pos len` is the number formed by `len` bits of `n` from bit `pos` on.  Fields are compared bit
by bit; a value or-ed into a clear field is what the field then holds, and fields it does not overlap
keep theirs.
-/

namespace BasisRust.Lib

def field (n pos len : ℕ) : ℕ := (n >>> pos) % 2 ^ len

theorem testBit_field (n pos len i : ℕ) :
    (field n pos len).testBit i = (decide (i < len) && n.testBit (pos + i)) := by
  rw [field, Nat.testBit_mod_two_pow, Nat.testBit_shiftRight]

theorem field_lt (n pos len : ℕ) : field n pos len < 2 ^ len := Nat.mod_lt _ (Nat.two_pow_pos len)

/-- Equal bits make equal fields. -/
theorem field_congr {m n pos pos' len : ℕ}
    (h : ∀ i < len, m.testBit (pos + i) = n.testBit (pos' + i)) :
    field m pos len = field n pos' len := by
  apply Nat.eq_of_testBit_eq
  intro i
  rw [testBit_field, testBit_field]
  by_cases hi : i < len
  · rw [h i hi]
  · rw [decide_eq_false hi, Bool.false_and, Bool.false_and]

@[simp] theorem field_zero_of_lt {n len : ℕ} (h : n < 2 ^ len) : field n 0 len = n := by
  rw [field, Nat.shiftRight_zero, Nat.mod_eq_of_lt h]

/-- A field read in two pieces. -/
theorem field_add (n pos a b : ℕ) :
    field n pos (a + b) = field n pos a ||| field n (pos + a) b <<< a := by
  apply Nat.eq_of_testBit_eq
  intro i
  rw [Nat.testBit_or, Nat.testBit_shiftLeft, testBit_field, testBit_field, testBit_field]
  by_cases hi : i < a
  · rw [decide_eq_true hi, decide_eq_true (by omega), decide_eq_false (by omega)]
    simp
  · rw [decide_eq_false hi, decide_eq_true (show i ≥ a by omega), Bool.false_and, Bool.false_or,
      Bool.true_and, show pos + a + (i - a) = pos + i by omega]
    congr 1
    exact decide_eq_decide.mpr (by omega)

/-- A value of `len` bits has no bit outside them. -/
lemma testBit_shiftLeft_of_lt {v pos len i : ℕ} (hv : v < 2 ^ len) (h : i < pos ∨ pos + len ≤ i) :
    (v <<< pos).testBit i = false := by
  rw [Nat.testBit_shiftLeft]
  rcases h with h | h
  · rw [decide_eq_false (by omega), Bool.false_and]
  · rw [Nat.testBit_lt_two_pow (hv.trans_le (Nat.pow_le_pow_right (by decide) (by omega))),
      Bool.and_false]

/-- **Writing** into a clear field. -/
theorem field_or_shiftLeft {n pos len v : ℕ} (hv : v < 2 ^ len)
    (hclear : ∀ i < len, n.testBit (pos + i) = false) : field (n ||| v <<< pos) pos len = v := by
  calc field (n ||| v <<< pos) pos len
      = field v 0 len := by
        refine field_congr fun i hi => ?_
        rw [Nat.testBit_or, hclear i hi, Bool.false_or, Nat.testBit_shiftLeft,
          decide_eq_true (by omega), Bool.true_and, Nat.add_sub_cancel_left, Nat.zero_add]
    _ = v := field_zero_of_lt hv

/-- **Writing elsewhere.** -/
theorem field_or_shiftLeft_of_disjoint {n pos len v pos' len' : ℕ} (hv : v < 2 ^ len)
    (h : pos' + len' ≤ pos ∨ pos + len ≤ pos') :
    field (n ||| v <<< pos) pos' len' = field n pos' len' := by
  refine field_congr fun i hi => ?_
  rw [Nat.testBit_or, testBit_shiftLeft_of_lt hv (by omega), Bool.or_false]

/-! ### Fields of byte strings -/

/-- A byte or-ed into a string is or-ed into its number. -/
theorem leVal_modify_or {bs : List UInt8} {k : ℕ} (hk : k < bs.length) (c : UInt8) :
    leVal (bs.modify k (· ||| c)) = leVal bs ||| c.toNat <<< (8 * k) := by
  apply Nat.eq_of_testBit_eq
  intro i
  rw [Nat.testBit_or, testBit_leVal, testBit_leVal, List.getD_eq_getElem?_getD,
    List.getD_eq_getElem?_getD, List.getElem?_modify, Nat.testBit_shiftLeft]
  by_cases hi : k = i / 8
  · subst hi
    have hrest : i - 8 * (i / 8) = i % 8 := by omega
    rw [List.getElem?_eq_getElem hk, hrest, decide_eq_true (show i ≥ 8 * (i / 8) by omega),
      Bool.true_and]
    simp [UInt8.toNat_or, Nat.testBit_or]
  · have hout : (decide (i ≥ 8 * k) && c.toNat.testBit (i - 8 * k)) = false := by
      by_cases hle : i ≥ 8 * k
      · have hlt : c.toNat < 2 ^ (i - 8 * k) :=
          (UInt8.toNat_lt c).trans_le (Nat.pow_le_pow_right (by decide) (by omega))
        rw [Nat.testBit_lt_two_pow hlt, Bool.and_false]
      · rw [decide_eq_false hle, Bool.false_and]
    rw [hout, Bool.or_false]
    simp only [if_neg hi, id_map']

/-- Strings that agree up to a byte agree on the fields in front of it. -/
theorem field_leVal_congr {xs ys : List UInt8} {pos len hi : ℕ} (hhi : pos + len ≤ 8 * hi)
    (h : ∀ k < hi, xs[k]? = ys[k]?) : field (leVal xs) pos len = field (leVal ys) pos len := by
  refine field_congr fun i hi' => ?_
  rw [testBit_leVal, testBit_leVal, List.getD_eq_getElem?_getD, List.getD_eq_getElem?_getD,
    h ((pos + i) / 8) (by omega)]

end BasisRust.Lib
