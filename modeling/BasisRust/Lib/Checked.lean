import BasisRust.Lib.FinalState
import Mathlib.Data.Nat.Notation
import Mathlib.Tactic.Lemma

/-!
# Checked computations

Access to a sequence as a program does it, where an index out of range or a subtraction below zero is a
fault, and computations over a state that may meet such a fault, run out of fuel, and count the calls of a
function.  `Meets b c x` says that the checked computation `c` does exactly what the plain computation `x`
does, meets no fault, has fuel enough, and adds a number of calls whose triple is at most `b`; the rules
below follow the structure of `c`.
-/

namespace BasisRust.Lib

/-! ### Access -/

inductive Fault where
  | outOfRange
  | underflow
  | badLength
  deriving DecidableEq, Repr

abbrev Checked (α : Type) := Except Fault α

namespace Checked

variable {α β : Type}

/-- `xs[i]`. -/
def index (xs : List α) (i : ℕ) : Checked α :=
  match xs[i]? with
  | some x => .ok x
  | none => .error .outOfRange

/-- `[xs[i], xs[i + 1], .., xs[i + n - 1]]`. -/
def indices (xs : List α) (i : ℕ) : ℕ → Checked (List α)
  | 0 => .ok []
  | n + 1 => do
    let x ← index xs i
    let rest ← indices xs (i + 1) n
    return x :: rest

/-- `&xs[i..j]`. -/
def range (xs : List α) (i j : ℕ) : Checked (List α) :=
  if i ≤ j ∧ j ≤ xs.length then .ok ((xs.drop i).take (j - i)) else .error .outOfRange

/-- `&xs[i..]`. -/
def rangeFrom (xs : List α) (i : ℕ) : Checked (List α) :=
  if i ≤ xs.length then .ok (xs.drop i) else .error .outOfRange

/-- `a - b`. -/
def sub (a b : ℕ) : Checked ℕ := if b ≤ a then .ok (a - b) else .error .underflow

/-- `xs.try_into().expect(..)` into an array of length `n`. -/
def expectLength (n : ℕ) (xs : List α) : Checked (List α) :=
  if xs.length = n then .ok xs else .error .badLength

lemma index_eq {xs : List α} {i : ℕ} (h : i < xs.length) (d : α) : index xs i = .ok (xs.getD i d) := by
  rw [index, List.getD_eq_getElem?_getD, List.getElem?_eq_getElem h, Option.getD_some]

lemma indices_eq {xs : List α} {i n : ℕ} (h : i + n ≤ xs.length) :
    indices xs i n = .ok ((xs.drop i).take n) := by
  induction n generalizing i with
  | zero => rfl
  | succ n ih =>
    have hi : i < xs.length := by omega
    have hrest : indices xs (i + 1) n = .ok ((xs.drop (i + 1)).take n) := ih (by omega)
    rw [indices, index, List.getElem?_eq_getElem hi, hrest, List.drop_eq_getElem_cons hi, List.take_succ_cons]
    rfl

lemma range_eq {xs : List α} {i j : ℕ} (hij : i ≤ j) (hj : j ≤ xs.length) :
    range xs i j = .ok ((xs.drop i).take (j - i)) := if_pos ⟨hij, hj⟩

lemma rangeFrom_eq {xs : List α} {i : ℕ} (h : i ≤ xs.length) : rangeFrom xs i = .ok (xs.drop i) := if_pos h

lemma sub_eq {a b : ℕ} (h : b ≤ a) : sub a b = .ok (a - b) := if_pos h

lemma expectLength_eq {n : ℕ} {xs : List α} (h : xs.length = n) : expectLength n xs = .ok xs := if_pos h

@[simp] lemma ok_bind (a : α) (f : α → Checked β) : (Except.ok a >>= f : Checked β) = f a := rfl

end Checked

/-! ### Counting -/

/-- Why a checked computation stops before its end. -/
inductive Stop (ε : Type) where
  | error (e : ε)
  | fault (fault : Fault)
  | outOfFuel

structure Metered (σ : Type) where
  state : σ
  calls : ℕ

abbrev MeteredM (ε σ α : Type) := EStateM (Stop ε) (Metered σ) α

namespace MeteredM

variable {ε σ α β : Type}

/-- What `x` does, with `k` calls added. -/
def add (k : ℕ) (x : EStateM ε σ α) : MeteredM ε σ α := fun s =>
  match x s.state with
  | .ok a t => .ok a ⟨t, s.calls + k⟩
  | .error e t => .error (.error e) ⟨t, s.calls + k⟩

/-- A computation that accesses nothing and calls nothing. -/
def run (x : EStateM ε σ α) : MeteredM ε σ α := add 0 x

def checked (x : Checked α) : MeteredM ε σ α := fun s =>
  match x with
  | .ok a => .ok a s
  | .error f => .error (.fault f) s

def outOfFuel : MeteredM ε σ α := fun s => .error .outOfFuel s

/-- One call. -/
def tick : MeteredM ε σ Unit := fun s => .ok () { s with calls := s.calls + 1 }

@[simp] lemma checked_ok_bind (a : α) (f : α → MeteredM ε σ β) : (checked (.ok a) >>= f) = f a := rfl

lemma run_get_bind_apply (f : σ → MeteredM ε σ β) (s : Metered σ) : (run get >>= f) s = f s.state s := rfl

end MeteredM

open MeteredM in
/-- `c` does what `x` does, with at most `b / 3` calls. -/
def Meets {ε σ α : Type} (b : ℕ) (c : MeteredM ε σ α) (x : EStateM ε σ α) : Prop :=
  ∀ s, ∃ k, 3 * k ≤ b ∧ c s = add k x s

namespace Meets

variable {ε σ α β : Type} {b b' : ℕ} {c : MeteredM ε σ α} {x : EStateM ε σ α}

theorem run (x : EStateM ε σ α) : Meets 0 (MeteredM.run x) x := fun _ => ⟨0, Nat.le_refl 0, rfl⟩

theorem pure (a : α) : Meets 0 (Pure.pure a : MeteredM ε σ α) (Pure.pure a) := fun _ => ⟨0, Nat.le_refl 0, rfl⟩

theorem mono (h : Meets b c x) (hle : b ≤ b') : Meets b' c x := by
  intro s
  obtain ⟨k, hk, heq⟩ := h s
  exact ⟨k, Nat.le_trans hk hle, heq⟩

theorem bind {f : α → MeteredM ε σ β} {g : α → EStateM ε σ β} (h : Meets b c x)
    (hf : ∀ a, Meets b' (f a) (g a)) : Meets (b + b') (c >>= f) (x >>= g) := by
  intro s
  obtain ⟨k, hk, heq⟩ := h s
  cases hx : x s.state with
  | ok a t =>
    obtain ⟨k', hk', heq'⟩ := hf a ⟨t, s.calls + k⟩
    refine ⟨k + k', by omega, ?_⟩
    rw [MeteredM.add, hx] at heq
    change EStateM.bind c f s = MeteredM.add (k + k') (EStateM.bind x g) s
    rw [EStateM.bind, heq]
    change f a ⟨t, s.calls + k⟩ = _
    rw [heq', MeteredM.add, MeteredM.add, EStateM.bind, hx]
    dsimp only
    rw [Nat.add_assoc]
  | error e t =>
    refine ⟨k, by omega, ?_⟩
    rw [MeteredM.add, hx] at heq
    change EStateM.bind c f s = MeteredM.add k (EStateM.bind x g) s
    rw [EStateM.bind, heq, MeteredM.add, EStateM.bind, hx]

/-- A plain step in front. -/
theorem run_bind {f : α → MeteredM ε σ β} {g : α → EStateM ε σ β} (x : EStateM ε σ α)
    (hf : ∀ a, Meets b (f a) (g a)) : Meets b (MeteredM.run x >>= f) (x >>= g) := by
  have h : Meets (0 + b) (MeteredM.run x >>= f) (x >>= g) := (run x).bind hf
  rwa [Nat.zero_add] at h

/-- One call in front. -/
theorem tick_bind {f : Unit → MeteredM ε σ α} (h : Meets b (f ()) x) :
    Meets (3 + b) (MeteredM.tick >>= f) x := by
  intro s
  obtain ⟨k, hk, heq⟩ := h { s with calls := s.calls + 1 }
  refine ⟨1 + k, by omega, ?_⟩
  change f () { s with calls := s.calls + 1 } = _
  rw [heq, MeteredM.add, MeteredM.add]
  dsimp only
  rw [Nat.add_assoc]

end Meets
end BasisRust.Lib
