import BasisRust.Lib.Dict
import Mathlib.Logic.Function.Basic

/-!
# Reading a log of keyed records

A `Reading` builds a value from a log and only looks at records of some kinds.  `replay` reads a log, part after
part; what is not of a kind it looks at can be left out.  `afterLast` is the end of a log behind the last record of
a kind, where that record starts the log afresh.  A reader that builds up a map knows it as a function on its keys.
-/

namespace BasisRust.Lib

/-- A reader of records of the kinds `uses`. -/
structure Reading (κ β V : Type) where
  uses : List κ
  blank : V
  learn : κ → β → V → V
  learn_of_notMem : ∀ k b v, k ∉ uses → learn k b v = v

namespace Reading

variable {κ β V : Type} (R : Reading κ β V)

def replay (log : List (κ × β)) (v : V) : V := log.foldl (fun v r => R.learn r.1 r.2 v) v

@[simp] lemma replay_nil (v : V) : R.replay [] v = v := rfl

@[simp] lemma replay_cons (r : κ × β) (log : List (κ × β)) (v : V) :
    R.replay (r :: log) v = R.replay log (R.learn r.1 r.2 v) := rfl

theorem replay_append (log news : List (κ × β)) (v : V) :
    R.replay (log ++ news) v = R.replay news (R.replay log v) := List.foldl_append

/-- Records of other kinds tell nothing. -/
theorem replay_of_unused {log : List (κ × β)} (h : ∀ r ∈ log, r.1 ∉ R.uses) (v : V) : R.replay log v = v := by
  induction log with
  | nil => rfl
  | cons r log ih =>
    rw [List.forall_mem_cons] at h
    rw [replay_cons, R.learn_of_notMem r.1 r.2 v h.1, ih h.2]

lemma replay_of_kind {kind : κ} {log : List (κ × β)} (h : ∀ r ∈ log, r.1 = kind) (hkind : kind ∉ R.uses) (v : V) :
    R.replay log v = v := R.replay_of_unused (fun r hr => h r hr ▸ hkind) v

/-- A log made of one record an item, each of which does to the value what `f` does. -/
theorem replay_map {α : Type} {as : List α} {record : α → κ × β} {f : V → α → V}
    (h : ∀ a ∈ as, ∀ v, R.learn (record a).1 (record a).2 v = f v a) (v : V) :
    R.replay (as.map record) v = as.foldl f v := by
  induction as generalizing v with
  | nil => rfl
  | cons a as ih =>
    rw [List.forall_mem_cons] at h
    rw [List.map_cons, replay_cons, h.1, ih h.2, List.foldl_cons]

/-- The reader that does what the table says for the kinds in it. -/
def ofTable [DecidableEq κ] (blank : V) (table : List (κ × (β → V → V))) : Reading κ β V where
  uses := table.map Prod.fst
  blank := blank
  learn k b v :=
    match table.find? fun e => e.1 = k with
    | some e => e.2 b v
    | none => v
  learn_of_notMem k b v hk := by
    have hnone : (table.find? fun e => e.1 = k) = none := by
      rw [List.find?_eq_none]
      intro e he heq
      exact hk (of_decide_eq_true heq ▸ List.mem_map_of_mem he)
    rw [hnone]

end Reading

/-! ### The end of a log -/

section AfterLast

variable {κ β : Type} [DecidableEq κ]

/-- What comes after the last record of the kind, or everything. -/
def afterLast (kind : κ) (log : List (κ × β)) : List (κ × β) :=
  log.foldl (fun log r => if r.1 = kind then [] else log ++ [r]) []

lemma foldl_afterLast {kind : κ} {news : List (κ × β)} (h : ∀ r ∈ news, r.1 ≠ kind) (log : List (κ × β)) :
    news.foldl (fun log r => if r.1 = kind then [] else log ++ [r]) log = log ++ news := by
  induction news generalizing log with
  | nil => exact (List.append_nil log).symm
  | cons r news ih =>
    rw [List.forall_mem_cons] at h
    rw [List.foldl_cons, if_neg h.1, ih h.2, List.append_assoc]
    rfl

/-- The log goes on. -/
theorem afterLast_append {kind : κ} {news : List (κ × β)} (h : ∀ r ∈ news, r.1 ≠ kind) (log : List (κ × β)) :
    afterLast kind (log ++ news) = afterLast kind log ++ news := by
  unfold afterLast
  rw [List.foldl_append, foldl_afterLast h]

/-- The log starts afresh. -/
theorem afterLast_restart {kind : κ} {news : List (κ × β)} (h : ∀ r ∈ news, r.1 ≠ kind) (log : List (κ × β)) (b : β) :
    afterLast kind (log ++ (kind, b) :: news) = news := by
  unfold afterLast
  rw [List.foldl_append, List.foldl_cons, if_pos rfl, foldl_afterLast h, List.nil_append]

end AfterLast

/-! ### Maps as functions -/

namespace Dict

variable {κ α : Type} [DecidableEq κ]

/-- What the map says of each key, up to `f`. -/
def known {γ : Type} (f : α → γ) (d : Dict κ α) : κ → Option γ := fun k => (d.lookup k).map f

section Known

variable {γ : Type} (f : α → γ) (d : Dict κ α) (k : κ)

lemma update_known_insert (v : α) : Function.update (known f d) k (some (f v)) = known f (d.insert k v) := by
  funext k'
  unfold known
  rw [lookup_insert, Function.update_apply, apply_ite (Option.map f)]
  rfl

lemma update_known_erase : Function.update (known f d) k none = known f (d.erase k) := by
  funext k'
  unfold known
  rw [lookup_erase, Function.update_apply, apply_ite (Option.map f)]
  rfl

lemma update_known_self {v : α} (h : d.lookup k = some v) : Function.update (known f d) k (some (f v)) = known f d := by
  have hk : known f d k = some (f v) := by
    unfold known
    rw [h]
    rfl
  rw [← hk, Function.update_eq_self]

end Known

/-- Entries told one after the other. -/
theorem foldl_update_entries {γ : Type} (f : α → γ) {entries : List ((_ : κ) × α)} (hnodup : entries.NodupKeys)
    (known : κ → Option γ) (k : κ) :
    entries.foldl (fun (known : κ → Option γ) e => Function.update known e.1 (some (f e.2))) known k =
      ((List.dlookup k entries).map f).or (known k) := by
  induction entries generalizing known with
  | nil => rfl
  | cons e entries ih =>
    obtain ⟨a, v⟩ := e
    rw [List.nodupKeys_cons] at hnodup
    rw [List.foldl_cons, ih hnodup.2, Function.update_apply]
    by_cases hk : k = a
    · subst hk
      rw [List.dlookup_eq_none.mpr hnodup.1, if_pos rfl, List.dlookup_cons_eq]
      rfl
    · rw [if_neg hk, List.dlookup_cons_ne entries (⟨a, v⟩ : (_ : κ) × α) hk]

/-- A map told entry after entry. -/
theorem foldl_update {γ : Type} (f : α → γ) (d : Dict κ α) :
    d.entries.foldl (fun (known : κ → Option γ) e => Function.update known e.1 (some (f e.2))) (fun _ => none) =
      known f d := by
  funext k
  rw [foldl_update_entries f d.nodupKeys]
  exact Option.or_none

/-- Keys taken out one after the other. -/
theorem foldl_update_none {β : Type} (key : β → κ) (as : List β) (known : κ → Option α) (k : κ) :
    as.foldl (fun (known : κ → Option α) a => Function.update known (key a) none) known k =
      if k ∈ as.map key then none else known k := by
  induction as generalizing known with
  | nil => rfl
  | cons a as ih =>
    rw [List.foldl_cons, ih, List.map_cons, Function.update_apply]
    by_cases hk : k = key a
    · rw [if_pos hk, ite_self, if_pos (hk ▸ List.mem_cons_self)]
    · have hiff : k ∈ key a :: as.map key ↔ k ∈ as.map key := by rw [List.mem_cons, or_iff_right hk]
      rw [if_neg hk]
      simp only [hiff]

/-- **What is gone is taken out, entry after entry.** -/
theorem foldl_update_retain {γ : Type} (f : α → γ) (gone : κ → α → Bool) {keep : κ → α → Bool}
    (h : ∀ k v, keep k v = !gone k v)
    (d : Dict κ α) :
    (d.entries.filter fun e => gone e.1 e.2).foldl
      (fun (known : κ → Option γ) e => Function.update known e.1 none) (known f d) = known f (retain keep d) := by
  funext k
  refine (foldl_update_none (fun e : (_ : κ) × α => e.1) _ _ k).trans ?_
  have hmem : k ∈ (d.entries.filter fun e => gone e.1 e.2).map (fun e => e.1) ↔
      ∃ v, d.lookup k = some v ∧ gone k v = true := by
    constructor
    · intro hk
      obtain ⟨e, he, rfl⟩ := List.mem_map.mp hk
      obtain ⟨he, hgone⟩ := List.mem_filter.mp he
      exact ⟨e.2, AList.mem_lookup_iff.mpr he, hgone⟩
    · rintro ⟨v, hlookup, hgone⟩
      exact List.mem_map.mpr ⟨⟨k, v⟩, List.mem_filter.mpr ⟨AList.mem_lookup_iff.mp hlookup, hgone⟩, rfl⟩
  unfold known
  rw [lookup_retain]
  cases hlookup : d.lookup k with
  | none => exact ite_self none
  | some v =>
    simp only [hmem, hlookup, Option.some.injEq, exists_eq_left', Option.filter_some, h]
    cases gone k v <;> rfl

end Dict
end BasisRust.Lib
