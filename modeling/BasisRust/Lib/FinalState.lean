import Mathlib.Algebra.GroupWithZero.Nat
import Mathlib.Data.List.Basic

/-!
# The state a computation ends in

For computations over a state that may stop with an error half way: what they have done to the state by
then stays done.  `Relates R x` says that `R` holds between the state `x` starts in and the one it ends in,
by returning or by an error; for a preorder `R` it is proved one step of the computation at a time.
`Grows I μ n x` is the quantitative form: from a state that meets `I` the measure `μ` grows by at most `n`,
and what the steps of a computation add is added up.
-/

namespace BasisRust.Lib

variable {ε σ α β : Type}

def final (x : EStateM ε σ α) (s : σ) : σ :=
  match x s with
  | .ok _ s' => s'
  | .error _ s' => s'

def Relates (R : σ → σ → Prop) (x : EStateM ε σ α) : Prop := ∀ s, R s (final x s)

@[simp] lemma final_pure (a : α) (s : σ) : final (pure a : EStateM ε σ α) s = s := rfl

@[simp] lemma final_get_bind (f : σ → EStateM ε σ α) (s : σ) : final (get >>= f) s = final (f s) s := rfl

lemma get_bind_apply (f : σ → EStateM ε σ α) (s : σ) : (get >>= f) s = f s s := rfl

lemma final_of_ok {x : EStateM ε σ α} {s s' : σ} {a : α} (h : x s = .ok a s') : final x s = s' := by
  rw [final, h]

lemma final_of_error {x : EStateM ε σ α} {s s' : σ} {e : ε} (h : x s = .error e s') : final x s = s' := by
  rw [final, h]

lemma final_bind_ok {x : EStateM ε σ α} {f : α → EStateM ε σ β} {s s' : σ} {a : α} (h : x s = .ok a s') :
    final (x >>= f) s = final (f a) s' := by
  change final (EStateM.bind x f) s = _
  rw [final, final, EStateM.bind, h]

lemma final_bind_error {x : EStateM ε σ α} {f : α → EStateM ε σ β} {s s' : σ} {e : ε}
    (h : x s = .error e s') : final (x >>= f) s = s' := by
  change final (EStateM.bind x f) s = _
  rw [final, EStateM.bind, h]

lemma ok_of_bind_ok {x : EStateM ε σ α} {f : α → EStateM ε σ β} {s s'' : σ} {b : β}
    (h : (x >>= f) s = .ok b s'') : ∃ a s', x s = .ok a s' ∧ f a s' = .ok b s'' := by
  change EStateM.bind x f s = _ at h
  rw [EStateM.bind] at h
  cases hx : x s with
  | ok a s' =>
    rw [hx] at h
    exact ⟨a, s', rfl, h⟩
  | error e s' =>
    rw [hx] at h
    cases h

lemma final_bind_pure (x : EStateM ε σ α) (b : β) (s : σ) : final (x >>= fun _ => pure b) s = final x s := by
  cases h : x s with
  | ok a s' => rw [final_bind_ok h, final_of_ok h, final_pure]
  | error e s' => rw [final_bind_error h, final_of_error h]

/-- An error that is ignored. -/
lemma final_tryCatch_pure (x : EStateM ε σ α) (a : α) (s : σ) :
    final (tryCatch x fun _ => pure a) s = final x s := by
  change final (EStateM.tryCatch x fun _ => pure a) s = _
  rw [final, final, EStateM.tryCatch]
  cases x s with
  | ok a s' => rfl
  | error e s' => rfl

/-- Whatever becomes of the first, the second starts where it ended. -/
lemma final_tryCatch_pure_bind (x : EStateM ε σ Unit) (y : EStateM ε σ β) (s : σ) :
    final (tryCatch x (fun _ => pure ()) >>= fun _ => y) s = final y (final x s) := by
  cases h : x s with
  | ok a s' =>
    have hcaught : (tryCatch x fun _ => pure ()) s = .ok a s' := by
      change EStateM.tryCatch x _ s = _
      rw [EStateM.tryCatch, h]
    rw [final_bind_ok hcaught, final_of_ok h]
  | error e s' =>
    have hcaught : (tryCatch x fun _ => pure ()) s = .ok () s' := by
      change EStateM.tryCatch x _ s = _
      rw [EStateM.tryCatch, h]
      rfl
    rw [final_bind_ok hcaught, final_of_error h]

namespace Relates

variable {R : σ → σ → Prop}

theorem pure (hrefl : ∀ s, R s s) (a : α) : Relates R (Pure.pure a : EStateM ε σ α) := hrefl

theorem get (hrefl : ∀ s, R s s) : Relates R (MonadState.get : EStateM ε σ σ) := hrefl

theorem bind (htrans : ∀ s t u, R s t → R t u → R s u) {x : EStateM ε σ α} {f : α → EStateM ε σ β}
    (hx : Relates R x) (hf : ∀ a, Relates R (f a)) : Relates R (x >>= f) := by
  intro s
  have hs := hx s
  cases h : x s with
  | ok a s' =>
    rw [final, h] at hs
    rw [final_bind_ok h]
    exact htrans s s' _ hs (hf a s')
  | error e s' =>
    rw [final, h] at hs
    rwa [final_bind_error h]

theorem forM (hrefl : ∀ s, R s s) (htrans : ∀ s t u, R s t → R t u → R s u) {f : α → EStateM ε σ PUnit}
    {l : List α} (h : ∀ a ∈ l, Relates R (f a)) : Relates R (l.forM f) := by
  induction l with
  | nil => exact pure hrefl _
  | cons a l ih =>
    exact bind htrans (h a List.mem_cons_self) fun _ => ih fun b hb => h b (List.mem_cons_of_mem _ hb)

end Relates

/-- What no round of a loop changes, the loop does not change. -/
theorem view_forM {τ : Type} (view : σ → τ) {f : α → EStateM ε σ PUnit} (h : ∀ a s, view (final (f a) s) = view s)
    (l : List α) (s : σ) : view (final (l.forM f) s) = view s :=
  Relates.forM (R := fun s s' => view s' = view s) (fun _ => rfl) (fun _ _ _ h h' => h'.trans h) (fun a _ => h a) s

/-! ### Growth -/

/-- From a state that meets `I` the computation ends in one that does, and `μ` is at most `n` larger. -/
def Grows (I : σ → Prop) (μ : σ → ℕ) (n : ℕ) (x : EStateM ε σ α) : Prop :=
  ∀ s, I s → I (final x s) ∧ μ (final x s) ≤ μ s + n

namespace Grows

variable {I : σ → Prop} {μ : σ → ℕ} {m n : ℕ}

theorem pure (a : α) : Grows I μ 0 (Pure.pure a : EStateM ε σ α) := fun _ hs => ⟨hs, Nat.le_refl _⟩

theorem mono {x : EStateM ε σ α} (h : Grows I μ m x) (hle : m ≤ n) : Grows I μ n x := by
  intro s hs
  obtain ⟨hI, hμ⟩ := h s hs
  exact ⟨hI, by omega⟩

/-- What is read may be used with all that is known of it. -/
theorem get_bind {f : σ → EStateM ε σ α} (h : ∀ s, I s → I (final (f s) s) ∧ μ (final (f s) s) ≤ μ s + n) :
    Grows I μ n (get >>= f) := h

theorem modify {f : σ → σ} (hI : ∀ s, I s → I (f s)) (hμ : ∀ s, μ (f s) ≤ μ s + n) :
    Grows I μ n (modify f : EStateM ε σ Unit) := fun s hs => ⟨hI s hs, hμ s⟩

theorem bind {x : EStateM ε σ α} {f : α → EStateM ε σ β} (hx : Grows I μ m x) (hf : ∀ a, Grows I μ n (f a)) :
    Grows I μ (m + n) (x >>= f) := by
  intro s hs
  obtain ⟨hI, hμ⟩ := hx s hs
  cases h : x s with
  | ok a s' =>
    rw [final_of_ok h] at hI hμ
    rw [final_bind_ok h]
    obtain ⟨hI', hμ'⟩ := hf a s' hI
    exact ⟨hI', by omega⟩
  | error e s' =>
    rw [final_of_error h] at hI hμ
    rw [final_bind_error h]
    exact ⟨hI, by omega⟩

/-- Over a list, what the entries add up to. -/
theorem forM {f : α → EStateM ε σ PUnit} {cost : α → ℕ} {l : List α} (h : ∀ a ∈ l, Grows I μ (cost a) (f a)) :
    Grows I μ (l.map cost).sum (l.forM f) := by
  induction l with
  | nil => exact pure _
  | cons a l ih =>
    rw [List.map_cons, List.sum_cons]
    exact bind (h a List.mem_cons_self) fun _ => ih fun b hb => h b (List.mem_cons_of_mem _ hb)

end Grows
end BasisRust.Lib
