import Mathlib.Algebra.Order.Group.Nat
import Mathlib.Data.Nat.ModEq
import Mathlib.Order.Lattice

/-!
# A sliding window over a circle of numbers

Numbers run from `0` to `M - 1` and then start again.  A window of `W` consecutive ones is kept as its
start and one mark for each residue modulo `W`, so that sliding the window on reuses the marks of the
numbers that leave it.  This is sound when `W` divides `M`: no two numbers of the window share a
residue, also across the wrap (`CircularWindow.Sound`).
-/

namespace BasisRust.Lib

/-- How far `n` is ahead of `start` on the circle. -/
def ahead (M start n : ℕ) : ℕ := if start ≤ n then n - start else n + M - start

structure CircularWindow where
  start : ℕ
  marks : ℕ → Bool

namespace CircularWindow

variable {M W : ℕ} {w : CircularWindow} {seen : ℕ → Prop}

/-- `n` is one of the numbers the window covers. -/
def Covers (M W : ℕ) (w : CircularWindow) (n : ℕ) : Prop := n < M ∧ ahead M w.start n < W

/-- Mark the residue of `n`. -/
def mark (W : ℕ) (w : CircularWindow) (n : ℕ) : CircularWindow where
  start := w.start
  marks r := decide (r = n % W) || w.marks r

/-- Move the start on by `k`, clearing the marks of the numbers passed over. -/
def slide (M W : ℕ) (w : CircularWindow) (k : ℕ) : CircularWindow where
  start := (w.start + k) % M
  marks r := decide (∀ i < k, (w.start + i) % W ≠ r) && w.marks r

/-- **Soundness**: a marked number of the window has been seen. -/
structure Sound (M W : ℕ) (seen : ℕ → Prop) (w : CircularWindow) : Prop where
  start : w.start < M
  seen_of_mark : ∀ n, w.Covers M W n → w.marks (n % W) = true → seen n

/-! ### Numbers and residues -/

lemma eq_add_ahead (M start n : ℕ) (h : start < M) :
    n = start + ahead M start n ∨ n + M = start + ahead M start n := by
  unfold ahead
  split <;> omega

/-- Moving the start towards a number brings the number nearer by as much. -/
lemma ahead_add_mod {start n k : ℕ} (h : start < M) (hn : n < M) (hk : k ≤ ahead M start n) :
    ahead M ((start + k) % M) n = ahead M start n - k := by
  unfold ahead at hk ⊢
  by_cases hle : start ≤ n
  · rw [if_pos hle] at hk ⊢
    rw [Nat.mod_eq_of_lt (by omega), if_pos (by omega)]
    omega
  · rw [if_neg hle] at hk ⊢
    by_cases hwrap : start + k < M
    · rw [Nat.mod_eq_of_lt hwrap]
      split <;> omega
    · rw [Nat.mod_eq_sub_mod (by omega), Nat.mod_eq_of_lt (by omega), if_pos (by omega)]
      omega

/-- The residue of a number is that of its position counted from the start. -/
lemma mod_eq_of_ahead {start : ℕ} (n : ℕ) (hdvd : W ∣ M) (h : start < M) :
    n % W = (start + ahead M start n) % W := by
  rcases eq_add_ahead M start n h with hn | hn
  · rw [← hn]
  · obtain ⟨c, rfl⟩ := hdvd
    rw [← hn, Nat.add_mul_mod_self_left]

/-- Two covered numbers with one residue are the same number. -/
theorem Covers.eq_of_mod_eq {m n : ℕ} (hdvd : W ∣ M) (hstart : w.start < M)
    (hm : w.Covers M W m) (hn : w.Covers M W n) (h : m % W = n % W) : m = n := by
  have hmod : (w.start + ahead M w.start m) % W = (w.start + ahead M w.start n) % W := by
    rw [← mod_eq_of_ahead m hdvd hstart, ← mod_eq_of_ahead n hdvd hstart, h]
  have hahead : ahead M w.start m = ahead M w.start n :=
    Nat.ModEq.eq_of_lt_of_lt (Nat.ModEq.add_left_cancel' _ hmod) hm.2 hn.2
  have hmlt := hm.1
  have hnlt := hn.1
  rcases eq_add_ahead M w.start m hstart with hm' | hm' <;>
    rcases eq_add_ahead M w.start n hstart with hn' | hn' <;> omega

/-! ### The operations are sound -/

theorem Sound.mono {seen' : ℕ → Prop} (h : w.Sound M W seen) (hle : ∀ n, seen n → seen' n) :
    w.Sound M W seen' where
  start := h.start
  seen_of_mark n hn hmark := hle n (h.seen_of_mark n hn hmark)

/-- A window without marks. -/
theorem Sound.fresh {start : ℕ} (h : start < M) : Sound M W seen ⟨start, fun _ => false⟩ where
  start := h
  seen_of_mark _ _ hmark := by cases hmark

/-- Marking a covered number that has been seen. -/
theorem Sound.mark {n : ℕ} (hdvd : W ∣ M) (h : w.Sound M W seen) (hn : w.Covers M W n)
    (hseen : seen n) : (w.mark W n).Sound M W seen where
  start := h.start
  seen_of_mark m hm hmark := by
    have hcovers : w.Covers M W m := hm
    rcases Bool.or_eq_true .. ▸ hmark with hres | hold
    · have hmn : m = n := hcovers.eq_of_mod_eq hdvd h.start hn (of_decide_eq_true hres)
      rwa [hmn]
    · exact h.seen_of_mark m hcovers hold

/-- **Sliding.**  A number of the new window is either one of the old window, or its residue is that of
a number passed over, whose mark is cleared. -/
theorem Sound.slide {k : ℕ} (hdvd : W ∣ M) (hpos : 0 < M) (hW : W ≤ M) (h : w.Sound M W seen) :
    (w.slide M W k).Sound M W seen where
  start := Nat.mod_lt _ hpos
  seen_of_mark n hn hmark := by
    obtain ⟨hnM, hahead⟩ := hn
    obtain ⟨hkept, hold⟩ := Bool.and_eq_true .. ▸ hmark
    have hkept := of_decide_eq_true hkept
    have hstart' : (w.start + k) % M < M := Nat.mod_lt _ hpos
    set q := ahead M ((w.start + k) % M) n with hq
    have hqW : q < W := hahead
    -- the position of `n` from the old start is `k + q`
    have hpos' : n ≡ w.start + (k + q) [MOD M] := by
      have hmod : n ≡ (w.start + k) % M + q [MOD M] := by
        rcases eq_add_ahead M ((w.start + k) % M) n hstart' with hn | hn
        · rw [hq, ← hn]
        · rw [hq, ← hn]
          exact (Nat.add_mod_right n M).symm
      rw [← Nat.add_assoc]
      exact hmod.trans ((Nat.mod_modEq _ _).add_right q)
    have hres : n % W = (w.start + (k + q)) % W := hpos'.of_dvd hdvd
    by_cases hin : k + q < W
    · refine h.seen_of_mark n ⟨hnM, ?_⟩ hold
      have hlt := h.start
      have hnow : n ≡ w.start + ahead M w.start n [MOD M] := by
        rcases eq_add_ahead M w.start n h.start with hn | hn
        · rw [← hn]
        · rw [← hn]
          exact (Nat.add_mod_right n M).symm
      have haheadlt : ahead M w.start n < M := by
        unfold ahead
        split <;> omega
      have heq : ahead M w.start n = k + q :=
        Nat.ModEq.eq_of_lt_of_lt
          (Nat.ModEq.add_left_cancel' _ (hnow.symm.trans hpos')) haheadlt (hin.trans_le hW)
      rwa [heq]
    · -- `n` entered the window: it took the residue of a number that left
      refine absurd ?_ (hkept (k + q - W) (by omega))
      show (w.start + (k + q - W)) % W = n % W
      rw [hres, show w.start + (k + q) = w.start + (k + q - W) + W by omega, Nat.add_mod_right]

end CircularWindow
end BasisRust.Lib
