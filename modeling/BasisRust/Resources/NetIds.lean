import BasisRust.Lib.Run
import BasisRust.Resources.State

/-!
# Net ids among concurrent calls

`add_or_find` looks for the name under a read lock and, when it is not there, again under the write lock under
which it enters it; `reset` clears the names under one lock and zeroes the counter under another.  Each locked
section is one step here, and the calls in progress are part of the state, so a run is any interleaving of calls.
-/

namespace BasisRust.Resources

open Lib

/-! ### Steps -/

/-- The net ids and the calls in progress: names that are about to be entered, and resets that have yet to zero
the counter. -/
structure NetIdCalls where
  ids : NetIdState := {}
  entering : List String := []
  resetting : ℕ := 0

inductive NetIdSection where
  /-- `add_or_find` looks for the name -/
  | find (name : String)
  /-- `add_or_find` looks again and enters the name -/
  | enter (name : String)
  /-- `reset` clears the names -/
  | clear
  /-- `reset` zeroes the counter -/
  | zero
  deriving DecidableEq, Repr

namespace NetIdCalls

def Enabled (s : NetIdCalls) : NetIdSection → Prop
  | .enter name => name ∈ s.entering
  | .zero => 0 < s.resetting
  | _ => True

instance (s : NetIdCalls) (l : NetIdSection) : Decidable (s.Enabled l) := by
  cases l <;> unfold Enabled <;> infer_instance

/-- The write section of `add_or_find` is `addOrFind`, look and all. -/
def after (s : NetIdCalls) : NetIdSection → NetIdCalls
  | .find name => if name ∈ s.ids.byName then s else { s with entering := s.entering ++ [name] }
  | .enter name => { s with ids := (s.ids.addOrFind name).2, entering := s.entering.erase name }
  | .clear => { s with ids := { s.ids with byName := ∅ }, resetting := s.resetting + 1 }
  | .zero => { s with ids := { s.ids with nextId := 0 }, resetting := s.resetting - 1 }

def Steps (s : NetIdCalls) (l : NetIdSection) (s' : NetIdCalls) : Prop := s.Enabled l ∧ s' = s.after l

end NetIdCalls

/-! ### Names and ids -/

namespace NetIdState

/-- Two names never have one id. -/
def Unique (ids : NetIdState) : Prop :=
  ∀ name name' id, ids.byName.lookup name = some id → ids.byName.lookup name' = some id → name = name'

/-- No name has the id the counter stands at. -/
def NextFree (ids : NetIdState) : Prop := ∀ name, ids.byName.lookup name ≠ some ids.nextId

lemma addOrFind_of_mem {ids : NetIdState} {name : String} (h : name ∈ ids.byName) : (ids.addOrFind name).2 = ids := by
  obtain ⟨id, hid⟩ := Dict.mem_iff_lookup.mp h
  rw [addOrFind, hid]

lemma addOrFind_of_notMem {ids : NetIdState} {name : String} (h : name ∉ ids.byName) :
    (ids.addOrFind name).2 = { byName := ids.byName.insert name ids.nextId, nextId := ids.nextId + 1 } := by
  rw [addOrFind, Dict.notMem_iff_lookup.mp h]

/-- A name entered anew keeps ids unique exactly if the counter's id was free. -/
lemma unique_addOrFind_iff {ids : NetIdState} {name : String} (h : ids.Unique) (hname : name ∉ ids.byName) :
    (ids.addOrFind name).2.Unique ↔ ids.NextFree := by
  have hnone := Dict.notMem_iff_lookup.mp hname
  rw [addOrFind_of_notMem hname]
  constructor
  · intro hunique other hother
    have hne : other ≠ name := by
      rintro rfl
      rw [hnone] at hother
      cases hother
    refine hne (hunique other name ids.nextId ?_ (AList.lookup_insert _))
    rw [Dict.lookup_insert, if_neg hne]
    exact hother
  · intro hfree a b id ha hb
    dsimp only at ha hb
    rw [Dict.lookup_insert] at ha hb
    split at ha
    next hname' =>
      split at hb
      next hname'' => rw [hname', hname'']
      next => exact absurd (hb.trans ha.symm) (hfree b)
    next =>
      split at hb
      next => exact absurd (ha.trans hb.symm) (hfree a)
      next => exact h a b id ha hb

end NetIdState

namespace NetIdCalls

/-- The section enters a new name while another one has the id the counter stands at. -/
def EntersTaken (s : NetIdCalls) (l : NetIdSection) : Prop :=
  ∃ name, l = .enter name ∧ name ∉ s.ids.byName ∧ ¬ s.ids.NextFree

/-- Every section but such an `enter` keeps the ids unique. -/
lemma unique_after_iff {s : NetIdCalls} {l : NetIdSection} (h : s.ids.Unique) :
    (s.after l).ids.Unique ↔ ¬ EntersTaken s l := by
  cases l with
  | find name =>
    refine iff_of_true ?_ fun ⟨_, heq, _⟩ => by cases heq
    rw [after]
    split <;> exact h
  | clear =>
    refine iff_of_true ?_ fun ⟨_, heq, _⟩ => by cases heq
    intro name name' id hname
    cases hname
  | zero => exact iff_of_true h fun ⟨_, heq, _⟩ => by cases heq
  | enter name =>
    change (s.ids.addOrFind name).2.Unique ↔ _
    by_cases hname : name ∈ s.ids.byName
    · rw [NetIdState.addOrFind_of_mem hname]
      refine iff_of_true h ?_
      rintro ⟨_, heq, hnot, -⟩
      cases heq
      exact hnot hname
    · rw [NetIdState.unique_addOrFind_iff h hname]
      constructor
      · rintro hfree ⟨_, -, -, htaken⟩
        exact htaken hfree
      · intro hnot
        by_contra htaken
        exact hnot ⟨name, rfl, hname, htaken⟩

/-- A name keeps its id until the names are cleared. -/
lemma lookup_after {s : NetIdCalls} {l : NetIdSection} (hl : l ≠ .clear) {name : String} {id : UInt16}
    (h : s.ids.byName.lookup name = some id) : (s.after l).ids.byName.lookup name = some id := by
  cases l with
  | find other =>
    rw [after]
    split <;> exact h
  | clear => exact absurd rfl hl
  | zero => exact h
  | enter other =>
    change (s.ids.addOrFind other).2.byName.lookup name = some id
    by_cases hother : other ∈ s.ids.byName
    · rw [NetIdState.addOrFind_of_mem hother]
      exact h
    · rw [NetIdState.addOrFind_of_notMem hother]
      dsimp only
      rw [Dict.lookup_insert, if_neg, h]
      rintro rfl
      exact hother (Dict.mem_iff_lookup.mpr ⟨id, h⟩)

/-- As long as the names are not cleared, a name keeps the id it was first given. -/
def KeepsIds (ts : List (Transition NetIdCalls NetIdSection)) (s : NetIdCalls) : Prop :=
  ∀ before after earlier, ts = before ++ after → Run Steps {} before earlier →
    (∀ tr ∈ after, tr.label ≠ .clear) →
    ∀ name id, earlier.ids.byName.lookup name = some id → s.ids.byName.lookup name = some id

lemma keepsIds_of_run {ts : List (Transition NetIdCalls NetIdSection)} {s : NetIdCalls} (hrun : Run Steps {} ts s) :
    KeepsIds ts s := by
  rintro before after earlier rfl hbefore hclear name id hname
  refine hbefore.invariant_from (I := fun s => s.ids.byName.lookup name = some id) hrun hname ?_
  rintro tr htr ⟨-, hdst⟩ h
  rw [hdst]
  exact lookup_after (hclear tr htr) h

/-- **When net ids are unique.**  In every run of concurrent calls from the empty state, names keep their ids
between resets and all states have unique ids, if and only if no new name is entered while another has the id
the counter stands at. -/
theorem net_ids_unique_iff {ts : List (Transition NetIdCalls NetIdSection)} {s : NetIdCalls}
    (hrun : Run Steps {} ts s) :
    ((∀ tr ∈ ts, tr.dst.ids.Unique) ∧ KeepsIds ts s) ↔ ∀ tr ∈ ts, ¬ EntersTaken tr.src tr.label := by
  rw [and_iff_left (keepsIds_of_run hrun)]
  have hempty : (NetIdCalls.ids {}).Unique := fun _ _ _ h => by cases h
  refine hrun.forall_iff (I := fun s => s.ids.Unique) (J := fun _ => True) (C := fun s l => ¬ EntersTaken s l) trivial
    (fun _ _ _ _ h => h) hempty ?_
  rintro s l t ⟨-, rfl⟩ - h
  exact unique_after_iff h

/-! ### Quiet resets and a counter that does not wrap -/

/-- New names are entered only between resets, and while fewer than 65536 are there. -/
def Quiet (s : NetIdCalls) (l : NetIdSection) : Prop :=
  ∀ name, l = .enter name → name ∉ s.ids.byName → s.resetting = 0 ∧ s.ids.byName.entries.length < 65536

/-- Between resets the counter counts the names; during one there are none. -/
structure Counted (s : NetIdCalls) : Prop where
  next : s.resetting = 0 → s.ids.nextId = UInt16.ofNat s.ids.byName.entries.length
  lt : ∀ name id, s.ids.byName.lookup name = some id → id.toNat < s.ids.byName.entries.length
  empty : 0 < s.resetting → s.ids.byName = ∅

lemma Counted.nextFree {s : NetIdCalls} (h : Counted s) (hresetting : s.resetting = 0)
    (hlength : s.ids.byName.entries.length < 65536) : s.ids.NextFree := by
  intro name hname
  have hlt := h.lt name _ hname
  rw [h.next hresetting, UInt16.toNat_ofNat_of_lt' hlength] at hlt
  exact lt_irrefl _ hlt

lemma Counted.after {s : NetIdCalls} {l : NetIdSection} (h : Counted s) (henabled : s.Enabled l) (hquiet : Quiet s l) :
    Counted (s.after l) := by
  cases l with
  | find name =>
    rw [NetIdCalls.after]
    split
    · exact h
    · exact ⟨h.next, h.lt, h.empty⟩
  | clear =>
    refine ⟨fun h => absurd h (Nat.succ_ne_zero _), fun name id hname => ?_, fun _ => rfl⟩
    cases hname
  | zero =>
    have hempty := h.empty henabled
    exact ⟨fun _ => by rw [NetIdCalls.after, hempty]; rfl, h.lt, fun _ => hempty⟩
  | enter name =>
    by_cases hname : name ∈ s.ids.byName
    · have hids : (s.after (.enter name)).ids = s.ids := NetIdState.addOrFind_of_mem hname
      exact ⟨fun hresetting => hids ▸ h.next hresetting, hids ▸ h.lt, fun hresetting => hids ▸ h.empty hresetting⟩
    · obtain ⟨hresetting, hlength⟩ := hquiet name rfl hname
      have hids : (s.after (.enter name)).ids = _ := NetIdState.addOrFind_of_notMem hname
      have hsucc : (s.ids.byName.insert name s.ids.nextId).entries.length = s.ids.byName.entries.length + 1 := by
        rw [AList.entries_insert_of_notMem hname, List.length_cons]
      refine ⟨fun _ => ?_, fun other id hother => ?_, fun hpos => absurd hresetting (Nat.ne_of_gt hpos)⟩
      · rw [hids]
        dsimp only
        rw [hsucc, h.next hresetting, UInt16.ofNat_add]
        rfl
      · rw [hids] at hother ⊢
        dsimp only at hother ⊢
        rw [Dict.lookup_insert] at hother
        rw [hsucc]
        split at hother
        next =>
          cases hother
          rw [h.next hresetting, UInt16.toNat_ofNat_of_lt' hlength]
          exact Nat.lt_succ_self _
        next => exact Nat.lt_succ_of_lt (h.lt other id hother)

/-- In quiet runs no name is entered under an id that is taken. -/
theorem not_entersTaken_of_quiet {ts : List (Transition NetIdCalls NetIdSection)} {s : NetIdCalls}
    (hrun : Run Steps {} ts s) (hquiet : ∀ tr ∈ ts, Quiet tr.src tr.label) :
    ∀ tr ∈ ts, ¬ EntersTaken tr.src tr.label := by
  have hcounted : Counted {} := by
    refine ⟨fun _ => rfl, fun name id h => ?_, fun h => absurd h (Nat.not_lt_zero _)⟩
    cases h
  have hstep (s : NetIdCalls) (l : NetIdSection) (s' : NetIdCalls) (h : s.Steps l s') (hquiet : Quiet s l)
      (hs : Counted s) : Counted s' := by
    rw [h.2]
    exact hs.after h.1 hquiet
  have hall := (hrun.invariant_of hcounted hstep hquiet).1
  rintro tr htr ⟨name, hlabel, hname, htaken⟩
  obtain ⟨hresetting, hlength⟩ := hquiet tr htr name hlabel hname
  exact htaken ((hall tr htr).1.nextFree hresetting hlength)

/-! ### Two names of one id -/

/-- A name is entered between the two writes of a reset. -/
def enteredWhileResetting : List NetIdSection := [.clear, .find "a", .enter "a", .zero, .find "b", .enter "b"]

lemma enteredWhileResetting_run :
    Run Steps {} (trace after {} enteredWhileResetting) (enteredWhileResetting.foldl after {}) := by
  refine Run.of_trace _ _ fun tr htr => ⟨?_, dst_of_mem_trace htr⟩
  have hall : ∀ tr ∈ trace after {} enteredWhileResetting, tr.src.Enabled tr.label := by decide +kernel
  exact hall tr htr

lemma enteredWhileResetting_not_unique : ¬ (enteredWhileResetting.foldl after {}).ids.Unique := by
  intro h
  have hsame : "a" = "b" := h "a" "b" 0 (by decide +kernel) (by decide +kernel)
  exact absurd hsame (by decide)

/-- A name of two characters for each number. -/
def numberName (i : ℕ) : String := String.ofList [Char.ofNat (i / 256), Char.ofNat (i % 256)]

/-- Up to 65536 the numbers are told apart by their names. -/
lemma numberName_inj {i j : ℕ} (hi : i ≤ 65536) (hj : j ≤ 65536) (h : numberName i = numberName j) : i = j := by
  have hchar (n : ℕ) (hn : n < 0xd800) : (Char.ofNat n).toNat = n := by
    rw [Char.ofNat, dif_pos (Or.inl hn)]
    rfl
  obtain ⟨hdiv, hmod⟩ := List.cons.inj (String.ofList_injective h)
  have hdiv := congrArg Char.toNat hdiv
  have hmod := congrArg Char.toNat (List.cons.inj hmod).1
  rw [hchar _ (by omega), hchar _ (by omega)] at hdiv hmod
  omega

/-- The first `n` names, each looked for and entered. -/
def numberedNames (n : ℕ) : List NetIdSection :=
  (List.range n).flatMap fun i => [.find (numberName i), .enter (numberName i)]

/-- The names have their numbers as ids, as far as these go. -/
structure Numbered (n : ℕ) (s : NetIdCalls) : Prop where
  next : s.ids.nextId = UInt16.ofNat n
  names : ∀ i < n, s.ids.byName.lookup (numberName i) = some (UInt16.ofNat i)
  only : ∀ name ∈ s.ids.byName, ∃ i < n, name = numberName i

lemma Numbered.succ {n : ℕ} (hn : n ≤ 65536) {s : NetIdCalls} (h : Numbered n s) :
    ∃ s₁ s₂, s.Steps (.find (numberName n)) s₁ ∧ s₁.Steps (.enter (numberName n)) s₂ ∧ Numbered (n + 1) s₂ := by
  have hname : numberName n ∉ s.ids.byName := by
    intro hmem
    obtain ⟨i, hi, heq⟩ := h.only _ hmem
    exact absurd (numberName_inj hn (hi.le.trans hn) heq) (Nat.ne_of_gt hi)
  have hfind : s.after (.find (numberName n)) = { s with entering := s.entering ++ [numberName n] } := if_neg hname
  refine ⟨_, _, ⟨trivial, rfl⟩, ⟨?_, rfl⟩, ?_⟩
  · rw [hfind]
    exact List.mem_append_right _ (List.mem_singleton_self _)
  · rw [hfind]
    have hids : (({ s with entering := s.entering ++ [numberName n] } : NetIdCalls).after (.enter (numberName n))).ids =
        { byName := s.ids.byName.insert (numberName n) s.ids.nextId, nextId := s.ids.nextId + 1 } :=
      NetIdState.addOrFind_of_notMem hname
    refine ⟨?_, fun i hi => ?_, fun name hmem => ?_⟩
    · rw [hids]
      dsimp only
      rw [h.next, UInt16.ofNat_add]
      rfl
    · rw [hids]
      dsimp only
      rw [Dict.lookup_insert]
      rcases Nat.lt_succ_iff_lt_or_eq.mp hi with hi | rfl
      · rw [if_neg fun heq => Nat.ne_of_lt hi (numberName_inj (hi.le.trans hn) hn heq)]
        exact h.names i hi
      · rw [if_pos rfl, h.next]
    · rw [hids] at hmem
      rcases (AList.mem_insert _).mp hmem with rfl | hmem
      · exact ⟨n, Nat.lt_succ_self n, rfl⟩
      · obtain ⟨i, hi, heq⟩ := h.only name hmem
        exact ⟨i, Nat.lt_succ_of_lt hi, heq⟩

lemma numberedNames_run {n : ℕ} (hn : n ≤ 65537) :
    ∃ ts s, Run Steps {} ts s ∧ ts.map (·.label) = numberedNames n ∧ Numbered n s := by
  induction n with
  | zero =>
    refine ⟨[], {}, .nil, rfl, rfl, fun _ h => absurd h (Nat.not_lt_zero _), fun name h => ?_⟩
    exact absurd h (AList.notMem_empty name)
  | succ n ih =>
    obtain ⟨ts, s, hrun, hlabels, hnumbered⟩ := ih (Nat.le_of_succ_le hn)
    obtain ⟨s₁, s₂, hfind, henter, hnumbered⟩ := hnumbered.succ (Nat.le_of_succ_le_succ hn)
    refine ⟨_, s₂, (hrun.snoc hfind).snoc henter, ?_, hnumbered⟩
    rw [List.map_append, List.map_append, hlabels, numberedNames, numberedNames, List.range_succ, List.flatMap_append,
      List.append_assoc]
    rfl

/-- Two names of one id: after a name was entered while the names were reset, and once 65537 names were entered. -/
theorem net_ids_not_unique :
    (∃ ts s, Run Steps {} ts s ∧ ts.map (·.label) = enteredWhileResetting ∧ ¬ s.ids.Unique) ∧
    ∃ ts s, Run Steps {} ts s ∧ ts.map (·.label) = numberedNames 65537 ∧ ¬ s.ids.Unique := by
  refine ⟨⟨_, _, enteredWhileResetting_run, by decide +kernel, enteredWhileResetting_not_unique⟩, ?_⟩
  obtain ⟨ts, s, hrun, hlabels, hnumbered⟩ := numberedNames_run (le_refl 65537)
  refine ⟨ts, s, hrun, hlabels, fun h => ?_⟩
  have hfirst : s.ids.byName.lookup (numberName 0) = some 0 := hnumbered.names 0 (by omega)
  have hlast : s.ids.byName.lookup (numberName 65536) = some 0 := hnumbered.names 65536 (by omega)
  have hsame := numberName_inj (by omega) (le_refl 65536) (h _ _ _ hfirst hlast)
  omega

/-- The run the equivalence is about: one of its steps enters a name under an id that is taken. -/
theorem net_ids_unique_iff_enteredWhileResetting :
    ∃ tr ∈ trace after {} enteredWhileResetting, EntersTaken tr.src tr.label := by
  by_contra hnone
  have hall := (net_ids_unique_iff enteredWhileResetting_run).mpr fun tr htr h => hnone ⟨tr, htr, h⟩
  exact enteredWhileResetting_not_unique (hall.1 _ (List.mem_of_getLast? rfl))

end NetIdCalls

end BasisRust.Resources
