import Mathlib.Data.List.Basic

/-!
# Codes whose words show where they begin

Every word begins with an element that is a start, and has no other start in it.  So a sequence of words can
be cut between two words where there is a start, and at its ends, and nowhere else; and of two prefixes of
the words the one that takes less room is a prefix of the other.
-/

namespace BasisRust.Lib

variable {α β : Type} {isStart : β → Bool} {enc : α → List β}

structure StartCode (isStart : β → Bool) (enc : α → List β) : Prop where
  eq_cons : ∀ a, ∃ b bs, enc a = b :: bs ∧ isStart b = true ∧ ∀ c ∈ bs, isStart c = false

/-- An end of the list, or the place of a start. -/
def IsBoundary (isStart : β → Bool) (l : List β) (i : ℕ) : Prop :=
  i = 0 ∨ i = l.length ∨ ∃ b, l[i]? = some b ∧ isStart b = true

namespace StartCode

lemma length_pos (h : StartCode isStart enc) (a : α) : 0 < (enc a).length := by
  obtain ⟨b, bs, henc, -⟩ := h.eq_cons a
  rw [henc]
  exact Nat.succ_pos _

/-- Inside of a word there is no place to cut. -/
lemma not_isBoundary (h : StartCode isStart enc) {a : α} {rest : List β} {i : ℕ} (hpos : 0 < i)
    (hlt : i < (enc a).length) : ¬ IsBoundary isStart (enc a ++ rest) i := by
  obtain ⟨b, bs, henc, -, hinner⟩ := h.eq_cons a
  rintro (rfl | hend | ⟨c, hc, hstart⟩)
  · exact absurd hpos (Nat.lt_irrefl 0)
  · rw [List.length_append] at hend
    omega
  · obtain ⟨i, rfl⟩ := Nat.exists_eq_add_of_le' hpos
    rw [List.getElem?_append_left hlt, henc, List.getElem?_cons_succ] at hc
    rw [hinner c (List.mem_of_getElem? hc)] at hstart
    cases hstart

/-- Behind the first word the places to cut are those of the rest. -/
lemma isBoundary_add_iff (h : StartCode isStart enc) {a : α} {l : List α} {i : ℕ} :
    IsBoundary isStart (enc a ++ l.flatMap enc) ((enc a).length + i) ↔ IsBoundary isStart (l.flatMap enc) i := by
  have hpos := h.length_pos a
  rw [IsBoundary, IsBoundary, List.getElem?_append_right (Nat.le_add_right _ i), Nat.add_sub_cancel_left,
    List.length_append]
  constructor
  · rintro (hzero | hend | hstart)
    · omega
    · exact .inr (.inl (by omega))
    · exact .inr (.inr hstart)
  · rintro (rfl | hend | hstart)
    · -- the rest is empty, or its first word shows its start
      cases l with
      | nil => exact .inr (.inl rfl)
      | cons a' l =>
        obtain ⟨b, bs, henc, hb, -⟩ := h.eq_cons a'
        refine .inr (.inr ⟨b, ?_, hb⟩)
        rw [List.flatMap_cons, henc]
        rfl
    · exact .inr (.inl (by omega))
    · exact .inr (.inr hstart)

/-- **Where a sequence of words can be cut.** -/
theorem isBoundary_flatMap_iff (h : StartCode isStart enc) {l : List α} {i : ℕ} :
    IsBoundary isStart (l.flatMap enc) i ↔ ∃ p, p <+: l ∧ (p.flatMap enc).length = i := by
  induction l generalizing i with
  | nil =>
    constructor
    · rintro (rfl | rfl | ⟨b, hb, -⟩)
      · exact ⟨[], List.nil_prefix, rfl⟩
      · exact ⟨[], List.nil_prefix, rfl⟩
      · cases hb
    · rintro ⟨p, hp, rfl⟩
      rw [List.prefix_nil.mp hp]
      exact .inl rfl
  | cons a l ih =>
    rw [List.flatMap_cons]
    rcases Nat.lt_or_ge i (enc a).length with hlt | hge
    · rcases Nat.eq_zero_or_pos i with rfl | hpos
      · exact iff_of_true (.inl rfl) ⟨[], List.nil_prefix, rfl⟩
      · refine iff_of_false (h.not_isBoundary hpos hlt) ?_
        rintro ⟨p, hp, rfl⟩
        cases p with
        | nil => exact absurd hpos (Nat.lt_irrefl 0)
        | cons a' p =>
          obtain rfl := (List.cons_prefix_cons.mp hp).1
          rw [List.flatMap_cons, List.length_append] at hlt
          omega
    · obtain ⟨i, rfl⟩ := Nat.exists_eq_add_of_le hge
      rw [h.isBoundary_add_iff, ih]
      constructor
      · rintro ⟨p, hp, rfl⟩
        refine ⟨a :: p, List.cons_prefix_cons.mpr ⟨rfl, hp⟩, ?_⟩
        rw [List.flatMap_cons, List.length_append]
      · rintro ⟨p, hp, hlen⟩
        cases p with
        | nil =>
          have hpos := h.length_pos a
          rw [List.flatMap_nil, List.length_nil] at hlen
          omega
        | cons a' p =>
          obtain ⟨rfl, hp'⟩ := List.cons_prefix_cons.mp hp
          refine ⟨p, hp', ?_⟩
          rw [List.flatMap_cons, List.length_append] at hlen
          omega

/-- Of two prefixes the one that takes less room is the shorter one. -/
theorem prefix_of_length_le (h : StartCode isStart enc) {l p q : List α} (hp : p <+: l) (hq : q <+: l)
    (hle : (q.flatMap enc).length ≤ (p.flatMap enc).length) : q <+: p := by
  rcases List.prefix_or_prefix_of_prefix hq hp with hqp | ⟨more, rfl⟩
  · exact hqp
  · cases more with
    | nil => exact ⟨[], by rw [List.append_nil, List.append_nil]⟩
    | cons a more =>
      have hpos := h.length_pos a
      rw [List.flatMap_append, List.flatMap_cons, List.length_append, List.length_append] at hle
      omega

end StartCode
end BasisRust.Lib
