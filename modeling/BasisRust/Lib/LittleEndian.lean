import Mathlib.Data.Nat.Bitwise
import Mathlib.Tactic.Ring

/-!
# Little-endian byte strings

`leBytes k n` is the `k`-byte little-endian word of `n` and `leVal` the number a byte string stands
for.  The number is also the bit stream of the string: bit `i` of `leVal bs` is bit `i % 8` of byte
`i / 8` (`testBit_leVal`), which is how the bit fields of `Lib.BitField` are read.
-/

namespace BasisRust.Lib

/-- A statement about a byte is decided by running over the 256 bytes. -/
instance decidableForallByte (P : UInt8 → Prop) [DecidablePred P] : Decidable (∀ b, P b) :=
  decidable_of_iff (∀ v : BitVec 8, P ⟨v⟩) ⟨fun h b => h b.toBitVec, fun h v => h ⟨v⟩⟩

/-- The `k`-byte little-endian word of `n`; higher digits are cut off. -/
def leBytes : ℕ → ℕ → List UInt8
  | 0, _ => []
  | k + 1, n => UInt8.ofNat n :: leBytes k (n / 256)

/-- The number a little-endian byte string stands for. -/
def leVal : List UInt8 → ℕ
  | [] => 0
  | b :: bs => b.toNat + 256 * leVal bs

@[simp] lemma leVal_nil : leVal [] = 0 := rfl

@[simp] lemma leVal_cons (b : UInt8) (bs : List UInt8) :
    leVal (b :: bs) = b.toNat + 256 * leVal bs := rfl

@[simp] lemma length_leBytes (k n : ℕ) : (leBytes k n).length = k := by
  induction k generalizing n with
  | zero => rfl
  | succ k ih => simp [leBytes, ih]

theorem leVal_leBytes (k n : ℕ) : leVal (leBytes k n) = n % 256 ^ k := by
  induction k generalizing n with
  | zero => simp [leBytes, Nat.mod_one]
  | succ k ih =>
    simp only [leBytes, leVal_cons, ih, UInt8.toNat_ofNat']
    rw [show 256 ^ (k + 1) = 256 * 256 ^ k by ring, Nat.mod_mul]

theorem leVal_leBytes_of_lt {k n : ℕ} (h : n < 256 ^ k) : leVal (leBytes k n) = n := by
  rw [leVal_leBytes, Nat.mod_eq_of_lt h]

theorem leVal_lt (bs : List UInt8) : leVal bs < 256 ^ bs.length := by
  induction bs with
  | nil => simp
  | cons b bs ih =>
    have hb := b.toNat_lt
    simp only [leVal_cons, List.length_cons, pow_succ]
    omega

/-- A byte string is the word of its own number. -/
theorem leBytes_leVal (bs : List UInt8) : leBytes bs.length (leVal bs) = bs := by
  induction bs with
  | nil => rfl
  | cons b bs ih =>
    have hb := b.toNat_lt
    have hdiv : (b.toNat + 256 * leVal bs) / 256 = leVal bs := by omega
    have hhead : UInt8.ofNat (b.toNat + 256 * leVal bs) = b := by
      apply UInt8.toNat_inj.mp
      rw [UInt8.toNat_ofNat']
      omega
    simp only [List.length_cons, leBytes, leVal_cons, hdiv, ih, hhead]

/-- Strings of one length are told apart by their numbers. -/
theorem leVal_inj {xs ys : List UInt8} (hlen : xs.length = ys.length) (h : leVal xs = leVal ys) :
    xs = ys := by
  rw [← leBytes_leVal xs, ← leBytes_leVal ys, hlen, h]

/-- The front of a string is the low digits. -/
theorem leVal_take (bs : List UInt8) (n : ℕ) : leVal (bs.take n) = leVal bs % 256 ^ n := by
  induction bs generalizing n with
  | nil => simp
  | cons b bs ih =>
    cases n with
    | zero => simp [Nat.mod_one]
    | succ n =>
      have hb := b.toNat_lt
      have hdiv : (b.toNat + 256 * leVal bs) / 256 = leVal bs := by omega
      have hmod : (b.toNat + 256 * leVal bs) % 256 = b.toNat := by omega
      rw [List.take_succ_cons, leVal_cons, ih, leVal_cons, show 256 ^ (n + 1) = 256 * 256 ^ n by ring,
        Nat.mod_mul, hdiv, hmod]

/-! ### The bit stream of a byte string -/

/-- **The bit stream.**  Bit `i` of the number is bit `i % 8` of byte `i / 8`; past the end every
bit is clear. -/
theorem testBit_leVal (bs : List UInt8) (i : ℕ) :
    (leVal bs).testBit i = (bs.getD (i / 8) 0).toNat.testBit (i % 8) := by
  induction bs generalizing i with
  | nil => simp
  | cons b bs ih =>
    have hb : b.toNat < 2 ^ 8 := b.toNat_lt
    rw [leVal_cons, show b.toNat + 256 * leVal bs = 2 ^ 8 * leVal bs + b.toNat by ring,
      Nat.testBit_two_pow_mul_add _ hb]
    by_cases hi : i < 8
    · rw [if_pos hi, Nat.div_eq_of_lt hi, Nat.mod_eq_of_lt hi, List.getD_cons_zero]
    · have hd : i / 8 = (i - 8) / 8 + 1 := by omega
      have hm : i % 8 = (i - 8) % 8 := by omega
      rw [if_neg hi, ih, hd, hm, List.getD_cons_succ]

end BasisRust.Lib
