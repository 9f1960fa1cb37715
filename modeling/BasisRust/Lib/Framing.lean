import BasisRust.Lib.LittleEndian
import Mathlib.Data.List.Basic

/-!
# Length-prefixed frames

A frame is a `u16` length and that many bytes.  `cutFrames` cuts whole frames off the front of a byte
string and stops at the first length that is zero, cut short or longer than what follows.  Frames of
nonempty packets in a row are cut back into exactly these packets (`cutFrames_flatMap_frame`).
-/

namespace BasisRust.Lib

/-- The frame of a packet; longer packets than a `u16` can count do not come back. -/
def frame (p : List UInt8) : List UInt8 := leBytes 2 p.length ++ p

def cutFrames : List UInt8 → List (List UInt8)
  | a :: b :: rest =>
    let size := leVal [a, b]
    if size = 0 ∨ rest.length < size then []
    else rest.take size :: cutFrames (rest.drop size)
  | _ => []
termination_by bs => bs.length
decreasing_by
  rw [List.length_drop, List.length_cons, List.length_cons]
  omega

@[simp] lemma length_frame (p : List UInt8) : (frame p).length = 2 + p.length := by simp [frame]

@[simp] lemma cutFrames_nil : cutFrames [] = [] := by rw [cutFrames]; simp

/-- One frame in front is one packet off. -/
theorem cutFrames_frame_append {p : List UInt8} (hp : p ≠ []) (hlt : p.length < 65536)
    (rest : List UInt8) : cutFrames (frame p ++ rest) = p :: cutFrames rest := by
  have hsize : leVal (leBytes 2 p.length) = p.length := leVal_leBytes_of_lt hlt
  have hpos : p.length ≠ 0 := fun h => hp (List.eq_nil_of_length_eq_zero h)
  have hshape : frame p ++ rest
      = UInt8.ofNat p.length :: UInt8.ofNat (p.length / 256) :: (p ++ rest) := rfl
  rw [hshape, cutFrames]
  have hsize' : leVal [UInt8.ofNat p.length, UInt8.ofNat (p.length / 256)] = p.length := hsize
  have hfits : ¬ (p.length = 0 ∨ (p ++ rest).length < p.length) := by
    rw [List.length_append]
    omega
  simp only [hsize', if_neg hfits, List.take_left, List.drop_left]

/-- **Cutting undoes framing.** -/
theorem cutFrames_flatMap_frame {ps : List (List UInt8)}
    (h : ∀ p ∈ ps, p ≠ [] ∧ p.length < 65536) : cutFrames (ps.flatMap frame) = ps := by
  induction ps with
  | nil => exact cutFrames_nil
  | cons p ps ih =>
    obtain ⟨⟨hp, hlt⟩, hps⟩ := List.forall_mem_cons.mp h
    rw [List.flatMap_cons, cutFrames_frame_append hp hlt, ih hps]

/-- What is cut off is shorter than what it was cut from. -/
theorem length_lt_of_mem_cutFrames {bs p : List UInt8} (h : p ∈ cutFrames bs) :
    p.length < bs.length := by
  induction bs using cutFrames.induct with
  | case1 a b rest size hsize => rw [cutFrames, if_pos hsize] at h; cases h
  | case2 a b rest size hsize ih =>
    rw [cutFrames, if_neg hsize] at h
    rcases List.mem_cons.mp h with rfl | h
    · simp only [List.length_take, List.length_cons]
      omega
    · have := ih h
      simp only [List.length_drop, List.length_cons] at this ⊢
      omega
  | case3 bs hbs => rw [cutFrames] at h <;> simp_all

/-- The packets cut off are no longer together than what they were cut from. -/
theorem sum_length_cutFrames_le (bs : List UInt8) : ((cutFrames bs).map List.length).sum ≤ bs.length := by
  induction bs using cutFrames.induct with
  | case1 a b rest size hsize =>
    rw [cutFrames, if_pos hsize]
    exact Nat.zero_le _
  | case2 a b rest size hsize ih =>
    rw [cutFrames, if_neg hsize, List.map_cons, List.sum_cons]
    simp only [List.length_take, List.length_drop, List.length_cons, size] at ih hsize ⊢
    omega
  | case3 bs hbs => rw [cutFrames] <;> simp_all

end BasisRust.Lib
