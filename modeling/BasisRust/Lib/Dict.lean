import Mathlib.Data.List.AList

/-!
# Finite maps with an order of iteration

A hash map is an `AList`: entries with distinct keys in some order.  The order stands for the one the
map is iterated in, which a hash map leaves open, so a result about every `Dict` is one about every
order.
-/

namespace BasisRust.Lib

abbrev Dict (κ α : Type) := AList fun _ : κ => α

namespace Dict

variable {κ α : Type} [DecidableEq κ]

theorem lookup_insert (d : Dict κ α) (k k' : κ) (v : α) :
    (d.insert k v).lookup k' = if k' = k then some v else d.lookup k' := by
  by_cases h : k' = k
  · rw [if_pos h, h, AList.lookup_insert]
  · rw [if_neg h, AList.lookup_insert_ne h]

theorem lookup_erase (d : Dict κ α) (k k' : κ) :
    (d.erase k).lookup k' = if k' = k then none else d.lookup k' := by
  by_cases h : k' = k
  · rw [if_pos h, h, AList.lookup_erase]
  · rw [if_neg h, AList.lookup_erase_ne h]

theorem mem_iff_lookup {d : Dict κ α} {k : κ} : k ∈ d ↔ ∃ v, d.lookup k = some v := by
  rw [← AList.lookup_isSome, Option.isSome_iff_exists]

theorem notMem_iff_lookup {d : Dict κ α} {k : κ} : k ∉ d ↔ d.lookup k = none :=
  AList.lookup_eq_none.symm

theorem erase_of_notMem {d : Dict κ α} {k : κ} (h : k ∉ d) : d.erase k = d :=
  AList.ext (List.kerase_of_notMem_keys h)

theorem length_erase {d : Dict κ α} {k : κ} (h : k ∈ d) : (d.erase k).entries.length + 1 = d.entries.length := by
  have hkeys : (d.erase k).entries.length = (d.keys.erase k).length := by
    rw [← AList.keys_erase, AList.keys, List.keys, List.length_map]
  have hlength : d.keys.length = d.entries.length := List.length_map _
  have hpos : 0 < d.keys.length := List.length_pos_of_mem h
  rw [hkeys, List.length_erase_of_mem h]
  omega

theorem length_insert_le (d : Dict κ α) (k : κ) (v : α) : (d.insert k v).entries.length ≤ d.entries.length + 1 := by
  by_cases h : k ∈ d
  · have hlength := length_erase h
    rw [AList.entries_insert, List.length_cons]
    change (d.erase k).entries.length + 1 ≤ _
    omega
  · rw [AList.entries_insert_of_notMem h, List.length_cons]

theorem countP_erase_le (p : (_ : κ) × α → Bool) (d : Dict κ α) (k : κ) :
    (d.erase k).entries.countP p ≤ d.entries.countP p :=
  (List.kerase_sublist k d.entries).countP_le

/-- An insertion adds its own entry at most. -/
theorem countP_insert_le (p : (_ : κ) × α → Bool) (d : Dict κ α) (k : κ) (v : α) :
    (d.insert k v).entries.countP p ≤ d.entries.countP p + if p ⟨k, v⟩ then 1 else 0 := by
  have herase := countP_erase_le p d k
  rw [AList.entries_insert, List.countP_cons]
  exact Nat.add_le_add_right herase _

/-- `HashMap::retain`. -/
def retain (p : κ → α → Bool) (d : Dict κ α) : Dict κ α where
  entries := d.entries.filter fun e => p e.1 e.2
  nodupKeys := d.nodupKeys.sublist List.filter_sublist

theorem lookup_retain (p : κ → α → Bool) (d : Dict κ α) (k : κ) :
    (retain p d).lookup k = (d.lookup k).filter (p k) := by
  apply Option.ext
  intro v
  rw [Option.filter_eq_some_iff, ← Option.mem_def, ← Option.mem_def, AList.mem_lookup_iff,
    AList.mem_lookup_iff]
  simp only [retain, List.mem_filter]

theorem mem_retain {p : κ → α → Bool} {d : Dict κ α} {k : κ} :
    k ∈ retain p d ↔ ∃ v, d.lookup k = some v ∧ p k v := by
  rw [mem_iff_lookup, lookup_retain]
  simp only [Option.filter_eq_some_iff]

/-- The update of an entry in place, where there is one. -/
def modify (k : κ) (f : α → α) (d : Dict κ α) : Dict κ α :=
  match d.lookup k with
  | some v => d.insert k (f v)
  | none => d

theorem lookup_modify (k k' : κ) (f : α → α) (d : Dict κ α) :
    (modify k f d).lookup k' = if k' = k then (d.lookup k).map f else d.lookup k' := by
  unfold modify
  split
  next v hv =>
    rw [lookup_insert, hv]
    rfl
  next hv =>
    by_cases h : k' = k
    · rw [if_pos h, h, hv]
      rfl
    · rw [if_neg h]

theorem modify_of_notMem {d : Dict κ α} {k : κ} (f : α → α) (h : k ∉ d) : modify k f d = d := by
  unfold modify
  rw [notMem_iff_lookup.mp h]

@[simp] lemma mem_modify {k k' : κ} {f : α → α} {d : Dict κ α} : k' ∈ modify k f d ↔ k' ∈ d := by
  simp only [mem_iff_lookup, lookup_modify]
  split
  · rename_i h
    subst h
    simp
  · rfl

theorem modify_insert (k : κ) (v : α) (f : α → α) (d : Dict κ α) : modify k f (d.insert k v) = d.insert k (f v) := by
  unfold modify
  rw [AList.lookup_insert]
  exact AList.insert_insert d

/-- A map entered into another one entry after entry. -/
theorem lookup_foldl_insert (f : α → α) {entries : List ((_ : κ) × α)} (hnodup : entries.NodupKeys) (d : Dict κ α)
    (k : κ) : (entries.foldl (fun d e => d.insert e.1 (f e.2)) d).lookup k =
      ((List.dlookup k entries).map f).or (d.lookup k) := by
  induction entries generalizing d with
  | nil => rfl
  | cons e entries ih =>
    obtain ⟨a, v⟩ := e
    rw [List.nodupKeys_cons] at hnodup
    rw [List.foldl_cons, ih hnodup.2, lookup_insert]
    by_cases hk : k = a
    · subst hk
      rw [List.dlookup_eq_none.mpr hnodup.1, if_pos rfl, List.dlookup_cons_eq]
      rfl
    · rw [if_neg hk, List.dlookup_cons_ne entries (⟨a, v⟩ : (_ : κ) × α) hk]

/-- Of what is marked with the keys of the entries, what is marked with one of them is what its entry gives. -/
theorem filterMap_flatMap_keyed {β : Type} {entries : List ((_ : κ) × α)} (hnodup : entries.NodupKeys) (g : κ → α → List β)
    (k : κ) : (entries.flatMap fun e => (g e.1 e.2).map (Prod.mk e.1)).filterMap
      (fun p => if p.1 = k then some p.2 else none) = ((List.dlookup k entries).map (g k)).getD [] := by
  induction entries with
  | nil => rfl
  | cons e entries ih =>
    obtain ⟨a, v⟩ := e
    rw [List.nodupKeys_cons] at hnodup
    rw [List.flatMap_cons, List.filterMap_append, ih hnodup.2, List.filterMap_map]
    by_cases hk : k = a
    · subst hk
      have hall : ∀ b ∈ g k v, ((fun p : κ × β => if p.1 = k then some p.2 else none) ∘ Prod.mk k) b = some b :=
        fun b _ => if_pos rfl
      rw [List.filterMap_congr hall, List.filterMap_some, List.dlookup_cons_eq, List.dlookup_eq_none.mpr hnodup.1]
      exact List.append_nil _
    · have hnone : ∀ b ∈ g a v, ((fun p : κ × β => if p.1 = k then some p.2 else none) ∘ Prod.mk a) b = none :=
        fun b _ => if_neg fun heq => hk heq.symm
      rw [List.filterMap_congr hnone, List.dlookup_cons_ne entries (⟨a, v⟩ : (_ : κ) × α) hk]
      simp

/-- `values_mut`: every value updated in place. -/
def mapValues (f : α → α) (d : Dict κ α) : Dict κ α where
  entries := d.entries.map fun e => ⟨e.1, f e.2⟩
  nodupKeys := by
    have h : (d.entries.map fun e => (⟨e.1, f e.2⟩ : (_ : κ) × α)).keys = d.entries.keys := by
      rw [List.keys, List.map_map]
      rfl
    have hnodup := d.nodupKeys
    rwa [List.NodupKeys, ← h] at hnodup

theorem lookup_mapValues (f : α → α) (d : Dict κ α) (k : κ) : (mapValues f d).lookup k = (d.lookup k).map f := by
  apply Option.ext
  intro v
  rw [Option.map_eq_some_iff, ← Option.mem_def, AList.mem_lookup_iff]
  simp only [← Option.mem_def, AList.mem_lookup_iff]
  constructor
  · intro h
    obtain ⟨e, he, heq⟩ := List.mem_map.mp h
    cases heq
    exact ⟨e.2, he, rfl⟩
  · rintro ⟨a, ha, rfl⟩
    exact List.mem_map.mpr ⟨⟨k, a⟩, ha, rfl⟩

/-- `iter_mut`: every value updated in place by its key. -/
def mapEntries (f : κ → α → α) (d : Dict κ α) : Dict κ α where
  entries := d.entries.map fun e => ⟨e.1, f e.1 e.2⟩
  nodupKeys := by
    have h : (d.entries.map fun e => (⟨e.1, f e.1 e.2⟩ : (_ : κ) × α)).keys = d.entries.keys := by
      rw [List.keys, List.map_map]
      rfl
    have hnodup := d.nodupKeys
    rwa [List.NodupKeys, ← h] at hnodup

theorem lookup_mapEntries (f : κ → α → α) (d : Dict κ α) (k : κ) :
    (mapEntries f d).lookup k = (d.lookup k).map (f k) := by
  apply Option.ext
  intro v
  rw [Option.map_eq_some_iff, ← Option.mem_def, AList.mem_lookup_iff]
  simp only [← Option.mem_def, AList.mem_lookup_iff]
  constructor
  · intro h
    obtain ⟨e, he, heq⟩ := List.mem_map.mp h
    cases heq
    exact ⟨e.2, he, rfl⟩
  · rintro ⟨a, ha, rfl⟩
    exact List.mem_map.mpr ⟨⟨k, a⟩, ha, rfl⟩

/-! ### Maps whose entries all have a property -/

/-- Every entry has the property. -/
def All (P : κ → α → Prop) (d : Dict κ α) : Prop := ∀ k v, d.lookup k = some v → P k v

theorem all_iff_entries {P : κ → α → Prop} {d : Dict κ α} : All P d ↔ ∀ e ∈ d.entries, P e.1 e.2 :=
  ⟨fun h e he => h e.1 e.2 (AList.mem_lookup_iff.mpr he), fun h k v hv => h ⟨k, v⟩ (AList.mem_lookup_iff.mp hv)⟩

instance {P : κ → α → Prop} [∀ k v, Decidable (P k v)] (d : Dict κ α) : Decidable (All P d) :=
  decidable_of_iff _ all_iff_entries.symm

namespace All

variable {P : κ → α → Prop} {d : Dict κ α} {k : κ} {v : α} {f : α → α}

theorem empty : All P (∅ : Dict κ α) := by
  intro k v h
  cases h

theorem insert (h : All P d) (hv : P k v) : All P (d.insert k v) := by
  intro k' v' hlookup
  rw [lookup_insert] at hlookup
  split at hlookup
  next hk =>
    cases hlookup
    exact hk ▸ hv
  next => exact h k' v' hlookup

theorem erase (h : All P d) : All P (d.erase k) := by
  intro k' v' hlookup
  rw [lookup_erase] at hlookup
  split at hlookup
  · cases hlookup
  · exact h k' v' hlookup

theorem mono {Q : κ → α → Prop} (h : All P d) (hle : ∀ k v, P k v → Q k v) : All Q d :=
  fun k v hv => hle k v (h k v hv)

theorem retain (h : All P d) (p : κ → α → Bool) : All P (retain p d) := by
  intro k v hv
  rw [lookup_retain, Option.filter_eq_some_iff] at hv
  exact h k v hv.1

theorem modify (h : All P d) (hf : ∀ v, P k v → P k (f v)) : All P (modify k f d) := by
  intro k' v' hlookup
  rw [lookup_modify] at hlookup
  split at hlookup
  next hk =>
    obtain ⟨v, hv, rfl⟩ := Option.map_eq_some_iff.mp hlookup
    exact hk ▸ hf v (h k v hv)
  next => exact h k' v' hlookup

theorem mapValues (h : All P d) (hf : ∀ k v, P k v → P k (f v)) : All P (mapValues f d) := by
  intro k' v' hlookup
  rw [lookup_mapValues] at hlookup
  obtain ⟨v, hv, rfl⟩ := Option.map_eq_some_iff.mp hlookup
  exact hf k' v (h k' v hv)

end All

/-! ### Maps with related values -/

/-- The same keys, with related values, in any order. -/
def Rel (r : α → α → Prop) (d d' : Dict κ α) : Prop :=
  ∀ k, Option.Rel r (d.lookup k) (d'.lookup k)

namespace Rel

variable {r : α → α → Prop} {d d' d'' : Dict κ α}

theorem refl (hr : ∀ a, r a a) (d : Dict κ α) : Rel r d d := by
  intro k
  cases d.lookup k with
  | none => exact .none
  | some a => exact .some (hr a)

/-- The two maps change places. -/
theorem swap (h : Rel r d d') : Rel (fun b a => r a b) d' d := by
  intro k
  have hk := h k
  revert hk
  generalize d.lookup k = o
  generalize d'.lookup k = o'
  intro hk
  cases hk with
  | none => exact .none
  | some hab => exact .some hab

theorem symm (hr : ∀ a b, r a b → r b a) (h : Rel r d d') : Rel r d' d := by
  intro k
  have hk := h k
  revert hk
  generalize d.lookup k = o
  generalize d'.lookup k = o'
  intro hk
  cases hk with
  | none => exact .none
  | some hab => exact .some (hr _ _ hab)

theorem lookup_eq_some (h : Rel r d d') {k : κ} {a : α} (ha : d.lookup k = some a) :
    ∃ b, d'.lookup k = some b ∧ r a b := by
  have hk := h k
  rw [ha] at hk
  cases hb : d'.lookup k with
  | none =>
    rw [hb] at hk
    cases hk
  | some b =>
    rw [hb] at hk
    cases hk with
    | some hab => exact ⟨b, rfl, hab⟩

theorem lookup_eq_some' (h : Rel r d d') {k : κ} {b : α} (hb : d'.lookup k = some b) :
    ∃ a, d.lookup k = some a ∧ r a b := by
  have hk := h k
  rw [hb] at hk
  cases ha : d.lookup k with
  | none =>
    rw [ha] at hk
    cases hk
  | some a =>
    rw [ha] at hk
    cases hk with
    | some hab => exact ⟨a, rfl, hab⟩

theorem all {P : κ → α → Prop} (h : Rel r d d') (hP : ∀ k a b, r a b → P k a → P k b) (hd : All P d) :
    All P d' := by
  intro k b hb
  obtain ⟨a, ha, hab⟩ := h.lookup_eq_some' hb
  exact hP k a b hab (hd k a ha)

theorem trans (hr : ∀ a b c, r a b → r b c → r a c) (h : Rel r d d') (h' : Rel r d' d'') :
    Rel r d d'' := by
  intro k
  cases ha : d.lookup k with
  | none =>
    cases hc : d''.lookup k with
    | none => exact .none
    | some c =>
      obtain ⟨b, hb, -⟩ := h'.lookup_eq_some' hc
      obtain ⟨a, ha', -⟩ := h.lookup_eq_some' hb
      rw [ha] at ha'
      cases ha'
  | some a =>
    obtain ⟨b, hb, hab⟩ := h.lookup_eq_some ha
    obtain ⟨c, hc, hbc⟩ := h'.lookup_eq_some hb
    rw [hc]
    exact .some (hr a b c hab hbc)

/-- A map entered into an empty one, entry after entry. -/
theorem foldl_insert {f : α → α} (hf : ∀ a, r a (f a)) (d : Dict κ α) :
    Rel r d (d.entries.foldl (fun acc e => acc.insert e.1 (f e.2)) ∅) := by
  intro k
  rw [lookup_foldl_insert f d.nodupKeys ∅ k, AList.lookup_empty, Option.or_none]
  change Option.Rel r (d.lookup k) ((d.lookup k).map f)
  cases d.lookup k with
  | none => exact .none
  | some a => exact .some (hf a)

theorem mem_iff (h : Rel r d d') (k : κ) : k ∈ d' ↔ k ∈ d := by
  rw [mem_iff_lookup, mem_iff_lookup]
  constructor
  · rintro ⟨b, hb⟩
    obtain ⟨a, ha, -⟩ := h.lookup_eq_some' hb
    exact ⟨a, ha⟩
  · rintro ⟨a, ha⟩
    obtain ⟨b, hb, -⟩ := h.lookup_eq_some ha
    exact ⟨b, hb⟩

theorem modify (hr : ∀ a, r a a) {f : α → α} (hf : ∀ a, r a (f a)) (d : Dict κ α) (k : κ) :
    Rel r d (d.modify k f) := by
  intro k'
  rw [lookup_modify]
  split
  next h =>
    rw [h]
    cases d.lookup k with
    | none => exact .none
    | some a => exact .some (hf a)
  next => exact refl hr d k'

/-! ### Updates that change nothing -/

section Unchanged

variable (hr : ∀ a, r a a) {k : κ}

include hr

theorem insert_iff {v : α} : Rel r d (d.insert k v) ↔ ∃ a, d.lookup k = some a ∧ r a v := by
  constructor
  · intro h
    exact h.lookup_eq_some' (AList.lookup_insert _)
  · rintro ⟨a, ha, hv⟩ k'
    rw [lookup_insert]
    split
    next hk =>
      rw [hk, ha]
      exact .some hv
    next => exact refl hr d k'

theorem erase_iff : Rel r d (d.erase k) ↔ k ∉ d := by
  constructor
  · intro h hk
    exact AList.mem_erase.mp ((h.mem_iff k).mpr hk) |>.1 rfl
  · intro hk k'
    rw [lookup_erase]
    split
    next heq =>
      rw [heq, notMem_iff_lookup.mp hk]
      exact .none
    next => exact refl hr d k'

theorem modify_iff {f : α → α} : Rel r d (d.modify k f) ↔ ∀ a, d.lookup k = some a → r a (f a) := by
  constructor
  · intro h a ha
    obtain ⟨b, hb, hab⟩ := h.lookup_eq_some ha
    rw [lookup_modify, if_pos rfl, ha] at hb
    cases hb
    exact hab
  · intro h k'
    rw [lookup_modify]
    split
    next hk =>
      rw [hk]
      cases ha : d.lookup k with
      | none => exact .none
      | some a => exact .some (h a ha)
    next => exact refl hr d k'

omit hr in
theorem mapValues_iff {f : α → α} : Rel r d (d.mapValues f) ↔ ∀ k a, d.lookup k = some a → r a (f a) := by
  constructor
  · intro h k a ha
    obtain ⟨b, hb, hab⟩ := h.lookup_eq_some ha
    rw [lookup_mapValues, ha] at hb
    cases hb
    exact hab
  · intro h k
    rw [lookup_mapValues]
    cases ha : d.lookup k with
    | none => exact .none
    | some a => exact .some (h k a ha)

end Unchanged

theorem empty_iff : Rel r d ∅ ↔ d = ∅ := by
  constructor
  · intro h
    refine AList.ext (List.eq_nil_iff_forall_not_mem.mpr fun e he => ?_)
    exact AList.notMem_empty e.1 ((h.mem_iff e.1).mpr (AList.mem_keys.mpr (List.mem_map_of_mem he)))
  · rintro rfl k
    exact .none

end Rel

end Dict
end BasisRust.Lib
