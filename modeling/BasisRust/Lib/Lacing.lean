import Mathlib.Algebra.GroupWithZero.Nat
import Mathlib.Data.List.Basic

/-!
# Lacing: packets in segments of bounded length

A packet is cut into full segments and a last one that is not full, so that the lengths of the segments alone
tell where each packet ends.  `unlace` collects the packets from the lengths and the data; what it has
collected of a packet that has not ended is the remainder.
-/

namespace BasisRust.Lib

variable {β : Type} {full : ℕ}

/-- The lengths of the segments of a packet. -/
def lacing (full length : ℕ) : List ℕ := List.replicate (length / full) full ++ [length % full]

/-- The packets that end in the segments, and the remainder; `current` has been collected of the first one. -/
def unlace (full : ℕ) : List ℕ → List β → List β → List (List β) × List β
  | [], _, current => ([], current)
  | length :: lengths, data, current =>
    let collected := current ++ data.take length
    if length < full then
      let later := unlace full lengths (data.drop length) []
      (collected :: later.1, later.2)
    else unlace full lengths (data.drop length) collected

lemma unlace_cons_of_lt {length : ℕ} (h : length < full) (lengths : List ℕ) (data current : List β) :
    unlace full (length :: lengths) data current =
      ((current ++ data.take length) :: (unlace full lengths (data.drop length) []).1,
        (unlace full lengths (data.drop length) []).2) := by
  rw [unlace, if_pos h]

lemma unlace_cons_of_le {length : ℕ} (h : full ≤ length) (lengths : List ℕ) (data current : List β) :
    unlace full (length :: lengths) data current =
      unlace full lengths (data.drop length) (current ++ data.take length) := by
  rw [unlace, if_neg (Nat.not_lt.mpr h)]

/-- **Where the segments are cut does not matter.** -/
theorem unlace_append (lengths more : List ℕ) {data rest : List β} (current : List β)
    (h : data.length = lengths.sum) :
    unlace full (lengths ++ more) (data ++ rest) current =
      ((unlace full lengths data current).1 ++ (unlace full more rest (unlace full lengths data current).2).1,
        (unlace full more rest (unlace full lengths data current).2).2) := by
  induction lengths generalizing data current with
  | nil =>
    obtain rfl := List.length_eq_zero_iff.mp h
    rfl
  | cons length lengths ih =>
    rw [List.sum_cons] at h
    have htake : (data ++ rest).take length = data.take length := List.take_append_of_le_length (by omega)
    have hdrop : (data ++ rest).drop length = data.drop length ++ rest := List.drop_append_of_le_length (by omega)
    have hlength : (data.drop length).length = lengths.sum := by
      rw [List.length_drop]
      omega
    rw [List.cons_append]
    by_cases hlt : length < full
    · rw [unlace_cons_of_lt hlt, unlace_cons_of_lt hlt, htake, hdrop, ih _ hlength]
      rfl
    · rw [unlace_cons_of_le (Nat.not_lt.mp hlt), unlace_cons_of_le (Nat.not_lt.mp hlt), htake, hdrop, ih _ hlength]

/-- What follows the segments is not looked at. -/
lemma unlace_append_data {lengths : List ℕ} {data : List β} (rest current : List β) (h : data.length = lengths.sum) :
    unlace full lengths (data ++ rest) current = unlace full lengths data current := by
  have happend := @unlace_append _ full lengths [] data rest current h
  rw [List.append_nil, unlace, List.append_nil] at happend
  exact happend

/-- Full segments are collected. -/
lemma unlace_replicate (n : ℕ) (more : List ℕ) {data rest : List β} (current : List β)
    (h : data.length = n * full) :
    unlace full (List.replicate n full ++ more) (data ++ rest) current = unlace full more rest (current ++ data) := by
  induction n generalizing data current with
  | zero =>
    rw [Nat.zero_mul] at h
    obtain rfl := List.length_eq_zero_iff.mp h
    rw [List.append_nil]
    rfl
  | succ n ih =>
    rw [Nat.succ_mul] at h
    have htake : (data ++ rest).take full = data.take full := List.take_append_of_le_length (by omega)
    have hdrop : (data ++ rest).drop full = data.drop full ++ rest := List.drop_append_of_le_length (by omega)
    have hlength : (data.drop full).length = n * full := by
      rw [List.length_drop]
      omega
    rw [List.replicate_succ, List.cons_append, unlace_cons_of_le (Nat.le_refl full), htake, hdrop, ih _ hlength,
      List.append_assoc, List.take_append_drop]

/-- One packet. -/
lemma unlace_lacing (hfull : 0 < full) (packet : List β) (more : List ℕ) (rest : List β) :
    unlace full (lacing full packet.length ++ more) (packet ++ rest) [] =
      (packet :: (unlace full more rest []).1, (unlace full more rest []).2) := by
  have hsplit := Nat.div_add_mod packet.length full
  have hmul := Nat.mul_comm full (packet.length / full)
  have hfront : (packet.take (packet.length / full * full)).length = packet.length / full * full := by
    rw [List.length_take]
    omega
  have hback : (packet.drop (packet.length / full * full)).length = packet.length % full := by
    rw [List.length_drop]
    omega
  have hpacket : packet ++ rest =
      packet.take (packet.length / full * full) ++ (packet.drop (packet.length / full * full) ++ rest) := by
    rw [← List.append_assoc, List.take_append_drop]
  have htake : (packet.drop (packet.length / full * full) ++ rest).take (packet.length % full) =
      packet.drop (packet.length / full * full) := List.take_left' hback
  have hdrop : (packet.drop (packet.length / full * full) ++ rest).drop (packet.length % full) = rest :=
    List.drop_left' hback
  rw [hpacket, lacing, List.append_assoc, unlace_replicate _ _ _ hfront, List.nil_append, List.singleton_append,
    unlace_cons_of_lt (Nat.mod_lt _ hfull), htake, hdrop, List.take_append_drop]

/-- **Packets come back**, and of an unfinished one what is there of it. -/
theorem unlace_flatMap_lacing (hfull : 0 < full) (packets : List (List β)) (n : ℕ) {tail : List β}
    (htail : tail.length = n * full) :
    unlace full ((packets.flatMap fun packet => lacing full packet.length) ++ List.replicate n full)
      (packets.flatten ++ tail) [] = (packets, tail) := by
  induction packets with
  | nil =>
    have hcollect := @unlace_replicate _ full n [] tail [] [] htail
    rw [List.append_nil, List.append_nil] at hcollect
    exact hcollect
  | cons packet packets ih =>
    rw [List.flatMap_cons, List.flatten_cons, List.append_assoc, List.append_assoc, unlace_lacing hfull, ih]

end BasisRust.Lib
