import BasisRust.Lib.Dict
import Mathlib.Data.List.Perm.Basic

/-!
# Loops over keyed items

A loop over items with keys, where each item looks at the entry of a map under its own key only, puts something
out and may write that entry, or fails.  Two items with different keys do not disturb each other, so the order of
the items matters for the order of what is put out and for nothing else.
-/

namespace BasisRust.Lib

variable {κ α β γ : Type} [DecidableEq κ]

/-- The entry that an item leaves; without one the map stays as it is. -/
def Dict.put (d : Dict κ β) (k : κ) : Option β → Dict κ β
  | some v => d.insert k v
  | none => d

lemma Dict.lookup_put (d : Dict κ β) (k k' : κ) (entry : Option β) :
    (d.put k entry).lookup k' = if k' = k then entry.or (d.lookup k) else d.lookup k' := by
  cases entry with
  | none =>
    by_cases hk : k' = k
    · rw [if_pos hk, hk]
      rfl
    · rw [if_neg hk]
      rfl
  | some v => exact Dict.lookup_insert d k k' v

section Visits

-- what an item under its key does with its entry: what it puts out, and the entry it leaves
variable (visit : κ → α → Option β → Option (List γ × Option β))

def visitOne (d : Dict κ β) (x : κ × α) : Option (List γ × Dict κ β) :=
  (visit x.1 x.2 (d.lookup x.1)).map fun r => (r.1, d.put x.1 r.2)

def visitAll : List (κ × α) → Dict κ β → Option (List γ × Dict κ β)
  | [], d => some ([], d)
  | x :: xs, d => (visitOne visit d x).bind fun r => (visitAll xs r.2).map fun r' => (r.1 ++ r'.1, r'.2)

end Visits

variable {visit : κ → α → Option β → Option (List γ × Option β)}

/-- The same is put out in any order, and the maps agree. -/
def VisitsAgree (r r' : List γ × Dict κ β) : Prop := r.1.Perm r'.1 ∧ Dict.Rel (· = ·) r.2 r'.2

lemma Dict.Rel.lookup_eq {d d' : Dict κ β} (h : Dict.Rel (· = ·) d d') (k : κ) : d.lookup k = d'.lookup k := by
  have hk := h k
  generalize d.lookup k = o at hk ⊢
  generalize d'.lookup k = o' at hk ⊢
  cases hk with
  | none => rfl
  | some hab => rw [hab]

lemma Dict.rel_eq_of_lookup {d d' : Dict κ β} (h : ∀ k, d.lookup k = d'.lookup k) : Dict.Rel (· = ·) d d' := by
  intro k
  rw [h]
  cases d'.lookup k with
  | none => exact .none
  | some v => exact .some rfl

lemma Dict.Rel.put {d d' : Dict κ β} (h : Dict.Rel (· = ·) d d') (k : κ) (entry : Option β) :
    Dict.Rel (· = ·) (d.put k entry) (d'.put k entry) := by
  refine Dict.rel_eq_of_lookup fun k' => ?_
  rw [Dict.lookup_put, Dict.lookup_put, h.lookup_eq k, h.lookup_eq k']

lemma Dict.put_comm {d d' : Dict κ β} (h : Dict.Rel (· = ·) d d') {k l : κ} (hne : k ≠ l) (entry entry' : Option β) :
    Dict.Rel (· = ·) ((d.put k entry).put l entry') ((d'.put l entry').put k entry) := by
  refine Dict.rel_eq_of_lookup fun k' => ?_
  simp only [Dict.lookup_put, h.lookup_eq]
  by_cases hk : k' = k
  · subst hk
    simp [hne]
  · by_cases hl : k' = l
    · subst hl
      simp [hne.symm]
    · simp [hk, hl]

lemma VisitsAgree.trans {r r' r'' : List γ × Dict κ β} (h : VisitsAgree r r') (h' : VisitsAgree r' r'') :
    VisitsAgree r r'' :=
  ⟨h.1.trans h'.1, h.2.trans (fun _ _ _ => Eq.trans) h'.2⟩

lemma rel_trans {o o' o'' : Option (List γ × Dict κ β)} (h : Option.Rel VisitsAgree o o')
    (h' : Option.Rel VisitsAgree o' o'') : Option.Rel VisitsAgree o o'' := by
  cases h with
  | none =>
    cases h' with
    | none => exact .none
  | some hr =>
    cases h' with
    | some hr' => exact .some (hr.trans hr')

lemma rel_append (out : List γ) {o o' : Option (List γ × Dict κ β)} (h : Option.Rel VisitsAgree o o') :
    Option.Rel VisitsAgree (o.map fun r => (out ++ r.1, r.2)) (o'.map fun r => (out ++ r.1, r.2)) := by
  cases h with
  | none => exact .none
  | some hr => exact .some ⟨hr.1.append_left out, hr.2⟩

variable (visit) in
/-- The same items in the same order on maps that agree. -/
theorem visitAll_congr (xs : List (κ × α)) {d d' : Dict κ β} (hd : Dict.Rel (· = ·) d d') :
    Option.Rel VisitsAgree (visitAll visit xs d) (visitAll visit xs d') := by
  induction xs generalizing d d' with
  | nil => exact .some ⟨.refl _, hd⟩
  | cons x xs ih =>
    rw [visitAll, visitAll, visitOne, visitOne, hd.lookup_eq x.1]
    cases visit x.1 x.2 (d'.lookup x.1) with
    | none => exact .none
    | some r => exact rel_append r.1 (ih (hd.put x.1 r.2))

/-- Two neighbours change places. -/
lemma visitAll_swap (x y : κ × α) (hxy : x.1 = y.1 → x = y) (xs : List (κ × α)) {d d' : Dict κ β}
    (hd : Dict.Rel (· = ·) d d') :
    Option.Rel VisitsAgree (visitAll visit (x :: y :: xs) d) (visitAll visit (y :: x :: xs) d') := by
  by_cases hkey : x.1 = y.1
  · rw [hxy hkey]
    exact visitAll_congr visit _ hd
  · have hx (entry : Option β) : (d.put x.1 entry).lookup y.1 = d'.lookup y.1 := by
      rw [Dict.lookup_put, if_neg (Ne.symm hkey), hd.lookup_eq]
    have hy (entry : Option β) : (d'.put y.1 entry).lookup x.1 = d'.lookup x.1 := by
      rw [Dict.lookup_put, if_neg hkey]
    simp only [visitAll, visitOne, hd.lookup_eq x.1]
    cases hvx : visit x.1 x.2 (d'.lookup x.1) with
    | none =>
      cases hvy : visit y.1 y.2 (d'.lookup y.1) with
      | none => exact .none
      | some s =>
        simp only [Option.map_none, Option.bind_none, Option.map_some, Option.bind_some, hy, hvx]
        exact .none
    | some r =>
      cases hvy : visit y.1 y.2 (d'.lookup y.1) with
      | none =>
        simp only [Option.map_none, Option.bind_none, Option.map_some, Option.bind_some, hx, hvy]
        exact .none
      | some s =>
        simp only [Option.map_some, Option.bind_some, hx, hy, hvx, hvy, Option.map_map, Function.comp_def, ← List.append_assoc]
        have hrest := visitAll_congr visit xs (Dict.put_comm hd hkey r.2 s.2)
        generalize visitAll visit xs ((d.put x.1 r.2).put y.1 s.2) = o at hrest ⊢
        generalize visitAll visit xs ((d'.put y.1 s.2).put x.1 r.2) = o' at hrest ⊢
        cases hrest with
        | none => exact .none
        | some hr => exact .some ⟨(List.perm_append_comm).append hr.1, hr.2⟩

/-- **The order of the items does not matter**, as long as the items of one key are the same item. -/
theorem visitAll_perm {xs ys : List (κ × α)} (h : xs.Perm ys) (hxs : ∀ x ∈ xs, ∀ y ∈ xs, x.1 = y.1 → x = y)
    {d d' : Dict κ β} (hd : Dict.Rel (· = ·) d d') :
    Option.Rel VisitsAgree (visitAll visit xs d) (visitAll visit ys d') := by
  induction h generalizing d d' with
  | nil => exact .some ⟨.refl _, hd⟩
  | cons x _ ih =>
    rw [visitAll, visitAll, visitOne, visitOne, hd.lookup_eq x.1]
    cases visit x.1 x.2 (d'.lookup x.1) with
    | none => exact .none
    | some r =>
      have htail := fun y hy z hz => hxs y (List.mem_cons_of_mem _ hy) z (List.mem_cons_of_mem _ hz)
      exact rel_append r.1 (ih htail (hd.put x.1 r.2))
  | swap x y l =>
    exact visitAll_swap y x (hxs y List.mem_cons_self x (List.mem_cons_of_mem _ List.mem_cons_self)) l hd
  | @trans xs ys zs hxy _ ih ih' =>
    have hys := fun y hy z hz => hxs y (hxy.mem_iff.mpr hy) z (hxy.mem_iff.mpr hz)
    exact rel_trans (ih hxs hd) (ih' hys (Dict.rel_eq_of_lookup fun _ => rfl))

/-- What every item keeps, with what has been put out before it, the loop keeps. -/
theorem visitAll_invariant {I : List γ → Dict κ β → Prop} {xs : List (κ × α)}
    (hvisit : ∀ x ∈ xs, ∀ log d r, visit x.1 x.2 (d.lookup x.1) = some r → I log d → I (log ++ r.1) (d.put x.1 r.2))
    {d : Dict κ β} {r : List γ × Dict κ β} (h : visitAll visit xs d = some r) (log : List γ) (hI : I log d) :
    I (log ++ r.1) r.2 := by
  induction xs generalizing log d r with
  | nil =>
    obtain rfl := Option.some.inj h
    rwa [List.append_nil]
  | cons x xs ih =>
    rw [List.forall_mem_cons] at hvisit
    obtain ⟨r₁, hr₁, hrest⟩ := Option.bind_eq_some_iff.mp h
    obtain ⟨r₂, hr₂, rfl⟩ := Option.map_eq_some_iff.mp hrest
    obtain ⟨v, hv, rfl⟩ := Option.map_eq_some_iff.mp hr₁
    dsimp only at hr₂ ⊢
    rw [← List.append_assoc]
    exact ih hvisit.2 hr₂ _ (hvisit.1 log d v hv hI)

end BasisRust.Lib
