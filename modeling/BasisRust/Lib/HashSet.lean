import Mathlib.Data.List.Nodup

/-!
# Finite sets with an order of iteration

The elements of a hash set in the order it is iterated in.  As for `Dict`, the order is left open: what
holds of every `HashSet` holds whatever order the hasher picks.
-/

namespace BasisRust.Lib

structure HashSet (α : Type) where
  /-- the elements, in iteration order -/
  elems : List α
  nodup : elems.Nodup
  deriving DecidableEq

namespace HashSet

variable {α : Type}

instance : EmptyCollection (HashSet α) := ⟨⟨[], List.nodup_nil⟩⟩

instance : Inhabited (HashSet α) := ⟨∅⟩

instance : Membership α (HashSet α) := ⟨fun s a => a ∈ s.elems⟩

theorem mem_elems {s : HashSet α} {a : α} : a ∈ s.elems ↔ a ∈ s := Iff.rfl

@[simp] lemma notMem_empty (a : α) : a ∉ (∅ : HashSet α) := List.not_mem_nil

variable [DecidableEq α]

instance (s : HashSet α) (a : α) : Decidable (a ∈ s) := inferInstanceAs (Decidable (a ∈ s.elems))

/-- `HashSet::insert`. -/
def insert (s : HashSet α) (a : α) : HashSet α where
  elems := s.elems.insert a
  nodup := s.nodup.insert

/-- `HashSet::remove`. -/
def erase (s : HashSet α) (a : α) : HashSet α where
  elems := s.elems.erase a
  nodup := s.nodup.erase a

@[simp] lemma mem_insert {s : HashSet α} {a b : α} : b ∈ s.insert a ↔ b = a ∨ b ∈ s :=
  List.mem_insert_iff

@[simp] lemma mem_erase {s : HashSet α} {a b : α} : b ∈ s.erase a ↔ b ≠ a ∧ b ∈ s :=
  s.nodup.mem_erase_iff

theorem mem_foldl_insert {l : List α} {s : HashSet α} {a : α} : a ∈ l.foldl insert s ↔ a ∈ l ∨ a ∈ s := by
  induction l generalizing s with
  | nil => simp
  | cons b l ih =>
    rw [List.foldl_cons, ih, mem_insert, List.mem_cons]
    tauto

/-! ### Sets with the same elements -/

/-- The same elements, in any order. -/
def Same (s t : HashSet α) : Prop := ∀ a, a ∈ t ↔ a ∈ s

omit [DecidableEq α] in
@[simp] lemma Same.refl (s : HashSet α) : Same s s := fun _ => Iff.rfl

omit [DecidableEq α] in
lemma Same.symm {s t : HashSet α} (h : Same s t) : Same t s := fun a => (h a).symm

omit [DecidableEq α] in
lemma Same.trans {s t u : HashSet α} (h : Same s t) (h' : Same t u) : Same s u := fun a => (h' a).trans (h a)

/-- A set entered into an empty one, element after element. -/
lemma same_foldl_insert (s : HashSet α) : Same s (s.elems.foldl insert ∅) := by
  intro a
  rw [mem_foldl_insert, or_iff_left (notMem_empty a), mem_elems]

@[simp] lemma same_insert {s : HashSet α} {a : α} : Same s (s.insert a) ↔ a ∈ s := by
  constructor
  · intro h
    exact (h a).mp (mem_insert.mpr (.inl rfl))
  · intro ha b
    rw [mem_insert, or_iff_right_iff_imp]
    rintro rfl
    exact ha

@[simp] lemma same_erase {s : HashSet α} {a : α} : Same s (s.erase a) ↔ a ∉ s := by
  constructor
  · intro h ha
    exact (mem_erase.mp ((h a).mpr ha)).1 rfl
  · intro ha b
    rw [mem_erase, and_iff_right_iff_imp]
    rintro hb rfl
    exact ha hb

lemma same_insert_erase {s : HashSet α} {a : α} : Same s ((s.erase a).insert a) ↔ a ∈ s := by
  constructor
  · intro h
    exact (h a).mp (mem_insert.mpr (.inl rfl))
  · intro ha b
    by_cases hb : b = a <;> simp [hb, ha]

end HashSet
end BasisRust.Lib
