import Mathlib.Logic.Relation
import BasisRust.Lib.HashSet

/-!
# Depth-first walks with an accumulator

`dfs` marks a node, walks its successors and then, on the way out, runs the node's action on the
accumulator.  The recursion is on a fuel argument.

* `dfs_eq_some` — what a walk that returns has done: it visited a set of fresh reachable nodes, each
  once, whose successors are all marked now (`Walked`);
* `exists_dfs_eq_some` — a walk returns when the fuel exceeds the number of unmarked nodes that have
  successors, on cyclic graphs too;
* `walk_exact` — from an empty set of marks the nodes visited are exactly the reachable ones.
-/

namespace BasisRust.Lib.DepthFirst

open Relation

variable {α σ : Type} (succ : α → List α) (visit : α → σ → σ)

/-- The walk from `a`; the pair holds the marked nodes and the accumulator. -/
def dfs [DecidableEq α] : ℕ → α → HashSet α × σ → Option (HashSet α × σ)
  | 0, _, _ => none
  | fuel + 1, a, s =>
    if a ∈ s.1 then some s
    else do
      let s ← (succ a).foldlM (fun s b => dfs fuel b s) (s.1.insert a, s.2)
      return (s.1, visit a s.2)

/-- The walks from several roots, one after the other. -/
def walk [DecidableEq α] (fuel : ℕ) (roots : List α) (s : HashSet α × σ) : Option (HashSet α × σ) :=
  roots.foldlM (fun s b => dfs succ visit fuel b s) s

/-- `b` is reached from `a` through successors. -/
def Reach (a b : α) : Prop := ReflTransGen (fun x y => y ∈ succ x) a b

/-! ### What a walk does -/

/-- What a walk from `roots` has done between `s` and `t`; `new` lists the nodes it visited in the order
their actions ran. -/
structure Walked (roots : List α) (s t : HashSet α × σ) (new : List α) : Prop where
  marked : ∀ a, a ∈ t.1 ↔ a ∈ s.1 ∨ a ∈ new
  acc : t.2 = new.foldl (fun acc a => visit a acc) s.2
  reached : ∀ a ∈ new, ∃ r ∈ roots, Reach succ r a
  /-- the successors of a visited node are marked -/
  closed : ∀ a ∈ new, ∀ b ∈ succ a, b ∈ t.1
  roots_marked : ∀ r ∈ roots, r ∈ t.1

variable {succ visit}

namespace Walked

variable {roots : List α} {s t u : HashSet α × σ} {new : List α}

theorem nil (s : HashSet α × σ) : Walked succ visit [] s s [] where
  marked a := by simp
  acc := rfl
  reached a ha := absurd ha List.not_mem_nil
  closed a ha := absurd ha List.not_mem_nil
  roots_marked r hr := absurd hr List.not_mem_nil

theorem mono (h : Walked succ visit roots s t new) {a : α} (ha : a ∈ s.1) : a ∈ t.1 :=
  (h.marked a).mpr (.inl ha)

/-- Walks compose. -/
theorem cons {r : α} {new' : List α} (h : Walked succ visit [r] s t new)
    (h' : Walked succ visit roots t u new') : Walked succ visit (r :: roots) s u (new ++ new') where
  marked a := by rw [h'.marked, h.marked, List.mem_append, or_assoc]
  acc := by rw [h'.acc, h.acc, List.foldl_append]
  reached a ha := by
    rcases List.mem_append.mp ha with ha | ha
    · obtain ⟨r', hr', hreach⟩ := h.reached a ha
      exact ⟨r', List.mem_cons.mpr (.inl (List.mem_singleton.mp hr')), hreach⟩
    · obtain ⟨r', hr', hreach⟩ := h'.reached a ha
      exact ⟨r', List.mem_cons_of_mem _ hr', hreach⟩
  closed a ha b hb := by
    rcases List.mem_append.mp ha with ha | ha
    · exact h'.mono (h.closed a ha b hb)
    · exact h'.closed a ha b hb
  roots_marked r' hr' := by
    rcases List.mem_cons.mp hr' with rfl | hr'
    · exact h'.mono (h.roots_marked r' List.mem_cons_self)
    · exact h'.roots_marked r' hr'

/-- A node that was marked already. -/
theorem skip {a : α} (ha : a ∈ s.1) : Walked succ visit [a] s s [] where
  marked b := by simp
  acc := rfl
  reached b hb := absurd hb List.not_mem_nil
  closed b hb := absurd hb List.not_mem_nil
  roots_marked r hr := by rwa [List.mem_singleton.mp hr]

variable [DecidableEq α]

/-- A fresh node: its successors are walked with the node marked, and its own action comes last. -/
theorem node {a : α} (h : Walked succ visit (succ a) (s.1.insert a, s.2) t new) :
    Walked succ visit [a] s (t.1, visit a t.2) (new ++ [a]) where
  marked b := by
    rw [h.marked, HashSet.mem_insert, List.mem_append, List.mem_singleton]
    tauto
  acc := by rw [List.foldl_append, h.acc]; rfl
  reached b hb := by
    refine ⟨a, List.mem_singleton_self a, ?_⟩
    rcases List.mem_append.mp hb with hb | hb
    · obtain ⟨r, hr, hreach⟩ := h.reached b hb
      exact ReflTransGen.head hr hreach
    · rw [List.mem_singleton.mp hb]
      exact ReflTransGen.refl
  closed b hb c hc := by
    rcases List.mem_append.mp hb with hb | hb
    · exact h.closed b hb c hc
    · rw [List.mem_singleton.mp hb] at hc
      exact h.roots_marked c hc
  roots_marked r hr := by
    rw [List.mem_singleton.mp hr]
    exact h.mono (HashSet.mem_insert.mpr (.inl rfl))

end Walked

variable [DecidableEq α]

lemma walk_cons (fuel : ℕ) (r : α) (roots : List α) (s : HashSet α × σ) :
    walk succ visit fuel (r :: roots) s = (dfs succ visit fuel r s).bind (walk succ visit fuel roots) := by
  rw [walk, List.foldlM_cons]
  rfl

/-- The walk from several roots, given what the walk from each does. -/
theorem walk_eq_some_of {fuel : ℕ}
    (hdfs : ∀ a s t, dfs succ visit fuel a s = some t → ∃ new, Walked succ visit [a] s t new) :
    ∀ (roots : List α) (s t : HashSet α × σ), walk succ visit fuel roots s = some t →
      ∃ new, Walked succ visit roots s t new := by
  intro roots
  induction roots with
  | nil =>
    intro s t h
    rw [walk, List.foldlM_nil] at h
    obtain rfl : s = t := Option.some.inj h
    exact ⟨[], Walked.nil s⟩
  | cons r roots ih =>
    intro s t h
    rw [walk_cons] at h
    obtain ⟨u, hu, h⟩ := Option.bind_eq_some_iff.mp h
    obtain ⟨new, hnew⟩ := hdfs r s u hu
    obtain ⟨new', hnew'⟩ := ih u t h
    exact ⟨new ++ new', hnew.cons hnew'⟩

theorem dfs_eq_some : ∀ {fuel : ℕ} (a : α) (s t : HashSet α × σ),
    dfs succ visit fuel a s = some t → ∃ new, Walked succ visit [a] s t new := by
  intro fuel
  induction fuel with
  | zero =>
    intro a s t h
    cases h
  | succ fuel ih =>
    intro a s t h
    rw [dfs] at h
    split at h
    next ha =>
      obtain rfl : s = t := Option.some.inj h
      exact ⟨[], Walked.skip ha⟩
    next ha =>
      obtain ⟨u, hu, h⟩ := Option.bind_eq_some_iff.mp h
      obtain ⟨new, hnew⟩ := walk_eq_some_of ih (succ a) _ u hu
      obtain rfl : (u.1, visit a u.2) = t := Option.some.inj h
      exact ⟨new ++ [a], hnew.node⟩

theorem walk_eq_some {fuel : ℕ} {roots : List α} {s t : HashSet α × σ}
    (h : walk succ visit fuel roots s = some t) : ∃ new, Walked succ visit roots s t new :=
  walk_eq_some_of dfs_eq_some roots s t h

/-! ### Enough fuel -/

section Fuel

variable (dom : List α)

/-- The nodes of `dom` that are not marked; every recursive call below a fresh node lowers the count. -/
def unmarked (seen : HashSet α) : ℕ := dom.countP (· ∉ seen)

lemma unmarked_mono {seen seen' : HashSet α} (h : ∀ a ∈ seen, a ∈ seen') :
    unmarked dom seen' ≤ unmarked dom seen := by
  apply List.countP_mono_left
  intro a _ ha
  simp only [decide_eq_true_eq] at ha ⊢
  exact fun hs => ha (h a hs)

lemma unmarked_insert_lt {seen : HashSet α} {a : α} (hdom : a ∈ dom) (ha : a ∉ seen) :
    unmarked dom (seen.insert a) < unmarked dom seen := by
  induction dom with
  | nil => cases hdom
  | cons b dom ih =>
    have hle : unmarked dom (seen.insert a) ≤ unmarked dom seen :=
      unmarked_mono dom fun c hc => HashSet.mem_insert.mpr (.inr hc)
    simp only [unmarked, List.countP_cons, HashSet.mem_insert, decide_eq_true_eq] at ih hle ⊢
    rcases List.mem_cons.mp hdom with rfl | hdom
    · rw [if_neg (by simp), if_pos ha]
      omega
    · have hlt := ih hdom
      split_ifs <;> first | omega | tauto

variable {dom}

/-- The walk from several roots returns when the walk from each does. -/
theorem exists_walk_eq_some_of {fuel : ℕ}
    (hdfs : ∀ a s, unmarked dom s.1 < fuel → ∃ t, dfs succ visit fuel a s = some t) :
    ∀ (roots : List α) (s : HashSet α × σ), unmarked dom s.1 < fuel →
      ∃ t, walk succ visit fuel roots s = some t := by
  intro roots
  induction roots with
  | nil => exact fun s _ => ⟨s, rfl⟩
  | cons r roots ih =>
    intro s hs
    obtain ⟨u, hu⟩ := hdfs r s hs
    obtain ⟨new, hnew⟩ := dfs_eq_some r s u hu
    obtain ⟨t, ht⟩ := ih u (Nat.lt_of_le_of_lt (unmarked_mono dom fun a => hnew.mono) hs)
    exact ⟨t, by rw [walk_cons, hu, Option.bind_some, ht]⟩

theorem exists_dfs_eq_some (hsucc : ∀ a, a ∉ dom → succ a = []) : ∀ {fuel : ℕ} (a : α)
    (s : HashSet α × σ), unmarked dom s.1 < fuel → ∃ t, dfs succ visit fuel a s = some t := by
  intro fuel
  induction fuel with
  | zero =>
    intro a s h
    cases h
  | succ fuel ih =>
    intro a s h
    rw [dfs]
    split
    next ha => exact ⟨s, rfl⟩
    next ha =>
      -- a node outside `dom` has no successors, and one inside uses up one of the unmarked nodes
      have hwalk : ∃ t, walk succ visit fuel (succ a) (s.1.insert a, s.2) = some t := by
        by_cases hdom : a ∈ dom
        · apply exists_walk_eq_some_of ih
          have := unmarked_insert_lt dom hdom ha
          change unmarked dom (s.1.insert a) < fuel
          omega
        · rw [hsucc a hdom]
          exact ⟨_, rfl⟩
      obtain ⟨t, ht⟩ := hwalk
      refine ⟨(t.1, visit a t.2), ?_⟩
      rw [walk] at ht
      rw [ht]
      rfl

theorem exists_walk_eq_some (hsucc : ∀ a, a ∉ dom → succ a = []) {fuel : ℕ} (roots : List α)
    (s : HashSet α × σ) (h : dom.length < fuel) : ∃ t, walk succ visit fuel roots s = some t :=
  exists_walk_eq_some_of (exists_dfs_eq_some hsucc) roots s (Nat.lt_of_le_of_lt List.countP_le_length h)

end Fuel

/-! ### From nothing -/

/-- **A walk from an empty set of marks.**  It runs the actions of exactly the nodes reachable from the
roots. -/
theorem walk_exact {fuel : ℕ} {roots : List α} {acc : σ} {t : HashSet α × σ}
    (h : walk succ visit fuel roots (∅, acc) = some t) : ∃ new : List α,
      t.2 = new.foldl (fun acc a => visit a acc) acc ∧ ∀ a, a ∈ new ↔ ∃ r ∈ roots, Reach succ r a := by
  obtain ⟨new, hnew⟩ := walk_eq_some h
  have hmarked (a : α) : a ∈ t.1 ↔ a ∈ new := by
    rw [hnew.marked]
    simp
  refine ⟨new, hnew.acc, fun a => ⟨hnew.reached a, ?_⟩⟩
  rintro ⟨r, hr, hreach⟩
  induction hreach with
  | refl => exact (hmarked r).mp (hnew.roots_marked r hr)
  | tail _ hstep ih => exact (hmarked _).mp (hnew.closed _ ih _ hstep)

end BasisRust.Lib.DepthFirst
