import Mathlib.Data.List.Basic

/-!
# Interleavings

Several lists are gone through side by side, each from its front, in any order.  What only one of them has in it comes
out in the order of that one.
-/

namespace BasisRust.Lib

variable {α : Type}

/-- The elements of the lists one by one, always the first of some list that is left. -/
inductive Interleaves : List (List α) → List α → Prop
  | done {lists : List (List α)} (h : ∀ xs ∈ lists, xs = []) : Interleaves lists []
  | take {before after : List (List α)} {x : α} {xs ys : List α} (h : Interleaves (before ++ xs :: after) ys) :
    Interleaves (before ++ (x :: xs) :: after) (x :: ys)

namespace Interleaves

variable {lists : List (List α)} {ys : List α}

/-- A list that is empty is passed over. -/
lemma skip (h : Interleaves lists ys) : Interleaves ([] :: lists) ys := by
  induction h with
  | done h => exact .done (List.forall_mem_cons.mpr ⟨rfl, h⟩)
  | take _ ih => exact @take _ ([] :: _) _ _ _ _ ih

/-- One list after the other. -/
theorem flatten (lists : List (List α)) : Interleaves lists lists.flatten := by
  induction lists with
  | nil => exact .done fun xs hxs => absurd hxs List.not_mem_nil
  | cons xs lists ih =>
    induction xs with
    | nil => exact ih.skip
    | cons x xs ihxs => exact @take _ [] _ _ _ _ ihxs

theorem perm_flatten (h : Interleaves lists ys) : ys.Perm lists.flatten := by
  induction h with
  | done h => rw [List.flatten_eq_nil_iff.mpr h]
  | @take before after x xs ys _ ih =>
    rw [List.flatten_append, List.flatten_cons, List.cons_append]
    refine (List.Perm.cons x ih).trans ?_
    rw [List.flatten_append, List.flatten_cons]
    exact List.perm_middle.symm

lemma filter (p : α → Bool) (h : Interleaves lists ys) :
    Interleaves (lists.map (List.filter p)) (ys.filter p) := by
  induction h with
  | done h => exact .done (List.forall_mem_map.mpr fun xs hxs => by rw [h xs hxs, List.filter_nil])
  | @take before after x xs ys _ ih =>
    rw [List.map_append, List.map_cons] at ih ⊢
    by_cases hx : p x
    · rw [List.filter_cons_of_pos hx, List.filter_cons_of_pos hx]
      exact take ih
    · rw [List.filter_cons_of_neg hx, List.filter_cons_of_neg hx]
      exact ih

/-- The lists before and behind are empty. -/
lemma eq_of_rest_nil {before after : List (List α)} {xs : List α} (h : Interleaves (before ++ xs :: after) ys)
    (hbefore : ∀ list ∈ before, list = []) (hafter : ∀ list ∈ after, list = []) : ys = xs := by
  generalize hlists : before ++ xs :: after = lists at h
  induction h generalizing xs with
  | done h =>
    subst hlists
    exact (h xs (List.mem_append_right _ List.mem_cons_self)).symm
  | @take before' after' x xs' ys _ ih =>
    -- the list that is taken from is the one that is not empty
    have hsame : before' = before ∧ x :: xs' = xs ∧ after' = after := by
      rcases List.append_eq_append_iff.mp hlists with ⟨between, rfl, hcons⟩ | ⟨between, rfl, hcons⟩
      · cases between with
        | nil =>
          obtain ⟨rfl, rfl⟩ := List.cons.inj hcons
          exact ⟨List.append_nil _, rfl, rfl⟩
        | cons first between =>
          obtain ⟨-, rfl⟩ := List.cons.inj hcons
          exact absurd (hafter _ (List.mem_append_right _ List.mem_cons_self)) (List.cons_ne_nil _ _)
      · cases between with
        | nil =>
          obtain ⟨rfl, rfl⟩ := List.cons.inj hcons
          exact ⟨(List.append_nil _).symm, rfl, rfl⟩
        | cons first between =>
          obtain ⟨rfl, -⟩ := List.cons.inj hcons
          exact absurd (hbefore _ (List.mem_append_right _ List.mem_cons_self)) (List.cons_ne_nil _ _)
    obtain ⟨rfl, rfl, rfl⟩ := hsame
    rw [ih rfl]

lemma filter_eq {before after : List (List α)} {xs : List α} {p : α → Bool}
    (h : Interleaves (before ++ xs :: after) ys) (hbefore : ∀ list ∈ before, list.filter p = [])
    (hafter : ∀ list ∈ after, list.filter p = []) : ys.filter p = xs.filter p := by
  have hfiltered := h.filter p
  rw [List.map_append, List.map_cons] at hfiltered
  exact hfiltered.eq_of_rest_nil (List.forall_mem_map.mpr hbefore) (List.forall_mem_map.mpr hafter)

lemma filter_flatten_eq_nil {p : α → Bool} (hnone : ∀ xs ∈ lists, xs.filter p = []) : lists.flatten.filter p = [] := by
  rw [List.filter_flatten]
  exact List.flatten_eq_nil_iff.mpr (List.forall_mem_map.mpr hnone)

/-- **What no two lists have in common comes out as from the lists in turn.** -/
theorem filter_eq_flatten {p : α → Bool} (h : Interleaves lists ys)
    (hone : lists.Pairwise fun xs ys => xs.filter p = [] ∨ ys.filter p = []) : ys.filter p = lists.flatten.filter p := by
  by_cases hall : ∀ xs ∈ lists, xs.filter p = []
  · have hnone := filter_flatten_eq_nil hall
    rw [hnone, List.filter_eq_nil_iff]
    rw [List.filter_eq_nil_iff] at hnone
    exact fun y hy => hnone y (h.perm_flatten.mem_iff.mp hy)
  · push Not at hall
    obtain ⟨xs, hxs, hsome⟩ := hall
    obtain ⟨before, after, rfl⟩ := List.append_of_mem hxs
    obtain ⟨-, hcons, hapart⟩ := List.pairwise_append.mp hone
    have hbefore : ∀ list ∈ before, list.filter p = [] := fun list hlist =>
      (hapart list hlist xs List.mem_cons_self).resolve_right hsome
    have hafter : ∀ list ∈ after, list.filter p = [] := fun list hlist =>
      (List.rel_of_pairwise_cons hcons hlist).resolve_left hsome
    rw [h.filter_eq hbefore hafter, List.flatten_append, List.flatten_cons, List.filter_append, List.filter_append,
      filter_flatten_eq_nil hbefore, filter_flatten_eq_nil hafter, List.nil_append, List.append_nil]

end Interleaves
end BasisRust.Lib
