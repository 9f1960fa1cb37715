import Mathlib.Data.List.Basic

/-!
# Runs of a transition system

A run records its transitions, so that a statement can speak about every state reached and every step
taken.  `Run.invariant` carries an invariant from one step to the run, `Run.invariant_of` one that only
some steps keep to a run of such steps; `Run.forall_iff` is for an invariant
that some steps break: it holds all along a run exactly when no such step was taken.  `Run.since` looks back to the
step with which a thing came.
-/

namespace BasisRust.Lib

/-- One step taken: `label` led from `src` to `dst`. -/
structure Transition (σ ℓ : Type) where
  src : σ
  label : ℓ
  dst : σ

variable {σ ℓ : Type}

/-- The run from `s₀` to its last state, with the transitions taken. -/
inductive Run (step : σ → ℓ → σ → Prop) (s₀ : σ) : List (Transition σ ℓ) → σ → Prop
  | nil : Run step s₀ [] s₀
  | snoc {ts s l t} : Run step s₀ ts s → step s l t → Run step s₀ (ts ++ [⟨s, l, t⟩]) t

/-- The transitions of a deterministic system along a list of labels. -/
def trace (f : σ → ℓ → σ) : σ → List ℓ → List (Transition σ ℓ)
  | _, [] => []
  | s, l :: ls => ⟨s, l, f s l⟩ :: trace f (f s l) ls

lemma dst_of_mem_trace {f : σ → ℓ → σ} {ls : List ℓ} {s : σ} {tr : Transition σ ℓ}
    (h : tr ∈ trace f s ls) : tr.dst = f tr.src tr.label := by
  induction ls generalizing s with
  | nil => cases h
  | cons l ls ih =>
    rcases List.mem_cons.mp h with rfl | h
    · rfl
    · exact ih h

namespace Run

variable {step : σ → ℓ → σ → Prop} {s₀ t : σ} {ts : List (Transition σ ℓ)}

/-- What holds at first and is kept by every step that meets `C` holds all along a run of such steps. -/
theorem invariant_of {I : σ → Prop} {C : σ → ℓ → Prop} (hinit : I s₀)
    (hstep : ∀ s l t, step s l t → C s l → I s → I t) (h : Run step s₀ ts t)
    (hC : ∀ tr ∈ ts, C tr.src tr.label) : (∀ tr ∈ ts, I tr.src ∧ I tr.dst) ∧ I t := by
  induction h with
  | nil => exact ⟨fun tr htr => absurd htr List.not_mem_nil, hinit⟩
  | snoc hrun hst ih =>
    rw [List.forall_mem_append, List.forall_mem_singleton] at hC
    obtain ⟨hts, hs⟩ := ih hC.1
    have ht := hstep _ _ _ hst hC.2 hs
    rw [List.forall_mem_append, List.forall_mem_singleton]
    exact ⟨⟨hts, hs, ht⟩, ht⟩

/-- What holds at first and is kept by every step holds in every state of a run. -/
theorem invariant {I : σ → Prop} (hinit : I s₀) (hstep : ∀ s l t, step s l t → I s → I t)
    (h : Run step s₀ ts t) : (∀ tr ∈ ts, I tr.src ∧ I tr.dst) ∧ I t :=
  invariant_of (C := fun _ _ => True) hinit (fun s l t hst _ => hstep s l t hst) h fun _ _ => trivial

/-- Every transition of a run is a step of the system. -/
theorem step_of_mem (h : Run step s₀ ts t) : ∀ tr ∈ ts, step tr.src tr.label tr.dst := by
  induction h with
  | nil => exact fun tr htr => absurd htr List.not_mem_nil
  | snoc hrun hst ih =>
    intro tr htr
    rcases List.mem_append.mp htr with htr | htr
    · exact ih tr htr
    · rw [List.mem_singleton.mp htr]
      exact hst

/-- The last state is the first one or the target of a transition. -/
theorem last_eq (h : Run step s₀ ts t) : t = s₀ ∨ ∃ tr ∈ ts, t = tr.dst := by
  cases h with
  | nil => exact .inl rfl
  | snoc hrun hst => exact .inr ⟨_, List.mem_append_right _ (List.mem_singleton_self _), rfl⟩

/-- The transitions tell the last state. -/
theorem last_unique {s : σ} (h : Run step s₀ ts t) (h' : Run step s₀ ts s) : t = s := by
  cases h with
  | nil =>
    generalize hts : ([] : List (Transition σ ℓ)) = ts at h'
    cases h' with
    | nil => rfl
    | snoc => exact absurd hts.symm (List.append_ne_nil_of_right_ne_nil _ (List.cons_ne_nil _ _))
  | @snoc ts₁ s₁ l₁ _ hrun hst =>
    generalize hts : ts₁ ++ [⟨s₁, l₁, t⟩] = ts at h'
    cases h' with
    | nil => exact absurd hts (List.append_ne_nil_of_right_ne_nil _ (List.cons_ne_nil _ _))
    | snoc =>
      obtain ⟨-, htr⟩ := List.append_inj' hts rfl
      exact congrArg Transition.dst (List.singleton_inj.mp htr)

/-- What holds at some point of a run and is kept by every step after it holds at the end. -/
theorem invariant_from {I : σ → Prop} {before after : List (Transition σ ℓ)} {s : σ} (hbefore : Run step s₀ before s)
    (h : Run step s₀ (before ++ after) t) (hs : I s)
    (hstep : ∀ tr ∈ after, step tr.src tr.label tr.dst → I tr.src → I tr.dst) : I t := by
  generalize hts : before ++ after = ts at h
  induction h generalizing after with
  | nil =>
    obtain ⟨rfl, -⟩ := List.append_eq_nil_iff.mp hts
    rwa [Run.nil.last_unique hbefore]
  | @snoc ts s' l t hrun hst ih =>
    rcases List.eq_nil_or_concat after with rfl | ⟨after', last, rfl⟩
    · rw [List.append_nil] at hts
      subst hts
      rwa [(hrun.snoc hst).last_unique hbefore]
    · rw [List.concat_eq_append, List.forall_mem_append, List.forall_mem_singleton] at hstep
      rw [List.concat_eq_append, ← List.append_assoc] at hts
      obtain ⟨hrest, hlast⟩ := List.append_inj' hts rfl
      obtain rfl := List.singleton_inj.mp hlast
      exact hstep.2 hst (ih hstep.1 hrest)

/-- **An invariant some steps break.**  `J` holds throughout; `I` is kept by exactly the steps that meet
`C`. -/
theorem forall_iff {I J : σ → Prop} {C : σ → ℓ → Prop} (hJ₀ : J s₀)
    (hJ : ∀ s l t, step s l t → J s → J t) (hI₀ : I s₀)
    (hI : ∀ s l t, step s l t → J s → I s → (I t ↔ C s l)) (h : Run step s₀ ts t) :
    (∀ tr ∈ ts, I tr.dst) ↔ ∀ tr ∈ ts, C tr.src tr.label := by
  induction h with
  | nil => exact ⟨fun _ tr htr => absurd htr List.not_mem_nil, fun _ tr htr => absurd htr List.not_mem_nil⟩
  | @snoc ts s l t hrun hst ih =>
    have hJs := (invariant hJ₀ hJ hrun).2
    have hIs (hts : ∀ tr ∈ ts, I tr.dst) : I s := by
      rcases hrun.last_eq with rfl | ⟨tr, htr, rfl⟩
      · exact hI₀
      · exact hts tr htr
    simp only [List.forall_mem_append, List.forall_mem_singleton]
    constructor
    · rintro ⟨hts, ht⟩
      exact ⟨ih.mp hts, (hI s l t hst hJs (hIs hts)).mp ht⟩
    · rintro ⟨hts, hl⟩
      have hts := ih.mpr hts
      exact ⟨hts, (hI s l t hst hJs (hIs hts)).mpr hl⟩

/-- A run all of whose steps meet `C` is a run of the steps that meet `C`. -/
theorem restrict {C : σ → ℓ → Prop} (h : Run step s₀ ts t) (hC : ∀ tr ∈ ts, C tr.src tr.label) :
    Run (fun s l s' => step s l s' ∧ C s l) s₀ ts t := by
  induction h with
  | nil => exact .nil
  | snoc hrun hst ih =>
    rw [List.forall_mem_append, List.forall_mem_singleton] at hC
    exact (ih hC.1).snoc ⟨hst, hC.2⟩

/-- One run after another. -/
theorem append {s : σ} {ts' : List (Transition σ ℓ)} (h : Run step s₀ ts s) (h' : Run step s ts' t) :
    Run step s₀ (ts ++ ts') t := by
  induction h' with
  | nil =>
    rw [List.append_nil]
    exact h
  | snoc hrun hst ih =>
    rw [← List.append_assoc]
    exact ih.snoc hst

/-- **What goes in first comes out first.**  Where every step puts what comes in behind what the state holds and
takes what goes out from the front, so does the run. -/
theorem conserved {α : Type} {holds : σ → List α} {input output : ℓ → List α}
    (hstep : ∀ s l t, step s l t → holds s ++ input l = output l ++ holds t) (h : Run step s₀ ts t) :
    holds s₀ ++ ts.flatMap (fun tr => input tr.label) = ts.flatMap (fun tr => output tr.label) ++ holds t := by
  induction h with
  | nil => exact List.append_nil _
  | @snoc ts s l t hrun hst ih =>
    simp only [List.flatMap_append, List.flatMap_singleton]
    rw [← List.append_assoc, ih, List.append_assoc, hstep s l t hst, List.append_assoc]

/-- What a run has done so far and the state it is in: the invariant may speak about both. -/
theorem history {P : List (Transition σ ℓ) → σ → Prop} {C : σ → ℓ → Prop} (hinit : P [] s₀)
    (hstep : ∀ ts s l t, step s l t → C s l → P ts s → P (ts ++ [⟨s, l, t⟩]) t) (h : Run step s₀ ts t)
    (hC : ∀ tr ∈ ts, C tr.src tr.label) : P ts t := by
  induction h with
  | nil => exact hinit
  | snoc hrun hst ih =>
    rw [List.forall_mem_append, List.forall_mem_singleton] at hC
    exact hstep _ _ _ _ hst hC.2 (ih hC.1)

/-- **What is there came with some step and has stayed since.** -/
theorem since {P : σ → Prop} {Q R : Transition σ ℓ → Prop} (hinit : ¬ P s₀)
    (hstep : ∀ s l t, step s l t → P t → Q ⟨s, l, t⟩ ∨ P s ∧ R ⟨s, l, t⟩) (h : Run step s₀ ts t) (ht : P t) :
    ∃ before tr after, ts = before ++ tr :: after ∧ Q tr ∧ ∀ tr' ∈ after, R tr' := by
  induction h with
  | nil => exact absurd ht hinit
  | @snoc ts s l t hrun hst ih =>
    rcases hstep s l t hst ht with hcame | ⟨hs, hstays⟩
    · exact ⟨ts, ⟨s, l, t⟩, [], rfl, hcame, fun tr htr => absurd htr List.not_mem_nil⟩
    · obtain ⟨before, tr, after, rfl, hcame, hafter⟩ := ih hs
      refine ⟨before, tr, after ++ [⟨s, l, t⟩], by rw [List.append_assoc, List.cons_append], hcame, ?_⟩
      exact List.forall_mem_append.mpr ⟨hafter, List.forall_mem_singleton.mpr hstays⟩

/-- A run up to one of its transitions. -/
theorem split {before after : List (Transition σ ℓ)} {tr : Transition σ ℓ}
    (h : Run step s₀ (before ++ tr :: after) t) : Run step s₀ before tr.src := by
  generalize hts : before ++ tr :: after = ts at h
  induction h generalizing after with
  | nil => exact absurd hts (List.append_ne_nil_of_right_ne_nil _ (List.cons_ne_nil _ _))
  | snoc hrun hst ih =>
    rcases List.eq_nil_or_concat after with rfl | ⟨after', last, rfl⟩
    · obtain ⟨rfl, htr⟩ := List.append_inj' hts rfl
      obtain rfl := List.singleton_inj.mp htr
      exact hrun
    · rw [List.concat_eq_append, ← List.cons_append, ← List.append_assoc] at hts
      exact ih (List.append_inj' hts rfl).1

/-- A deterministic system run along a list of labels, each of them possible where it is taken. -/
theorem append_trace (f : σ → ℓ → σ) (ls : List ℓ) : ∀ {ts s}, Run step s₀ ts s →
    (∀ tr ∈ trace f s ls, step tr.src tr.label tr.dst) → Run step s₀ (ts ++ trace f s ls) (ls.foldl f s) := by
  induction ls with
  | nil =>
    intro ts s h _
    rw [trace, List.append_nil]
    exact h
  | cons l ls ih =>
    intro ts s h hsteps
    have hstep : step s l (f s l) := hsteps _ List.mem_cons_self
    have h := ih (h.snoc hstep) fun tr htr => hsteps tr (List.mem_cons_of_mem _ htr)
    rwa [List.append_assoc] at h

theorem of_trace (f : σ → ℓ → σ) (ls : List ℓ)
    (hsteps : ∀ tr ∈ trace f s₀ ls, step tr.src tr.label tr.dst) :
    Run step s₀ (trace f s₀ ls) (ls.foldl f s₀) :=
  append_trace f ls .nil hsteps

end Run
end BasisRust.Lib
