import Mathlib.Data.Nat.Notation
import Mathlib.Tactic.Lemma

/-!
# Readers and what they decode

A reader of a stream of `β` is a state computation over the unread part that may fail, keeping the
unread part when it does (`EStateM`).  `Decodes p bs a` says that `p`, started on `bs` followed by
anything, returns `a` and leaves exactly what followed.  The rules below follow the structure of a
reader: a return decodes nothing, a sequence decodes the concatenation, and a counted loop decodes
the concatenation of what its items are decoded from.
-/

namespace BasisRust.Lib

variable {ε β : Type} {α γ : Type}

/-- `p` reads `a` from `bs` and touches nothing behind it. -/
def Decodes (p : EStateM ε (List β) α) (bs : List β) (a : α) : Prop :=
  ∀ rest, p (bs ++ rest) = .ok a rest

/-- Run `p` a given number of times and collect the results. -/
def readN (p : EStateM ε (List β) α) : ℕ → EStateM ε (List β) (List α)
  | 0 => pure []
  | n + 1 => do
    let a ← p
    let as ← readN p n
    return a :: as

namespace Decodes

theorem pure (a : α) : Decodes (Pure.pure a : EStateM ε (List β) α) [] a := fun _ => rfl

/-- **Sequencing.**  What the two readers decode is decoded by the one after the other. -/
theorem bind {p : EStateM ε (List β) α} {f : α → EStateM ε (List β) γ} {xs ys : List β} {a : α}
    {c : γ} (hp : Decodes p xs a) (hf : Decodes (f a) ys c) : Decodes (p >>= f) (xs ++ ys) c := by
  intro rest
  have h : p (xs ++ (ys ++ rest)) = .ok a (ys ++ rest) := hp (ys ++ rest)
  show EStateM.bind p f ((xs ++ ys) ++ rest) = _
  rw [List.append_assoc, EStateM.bind, h]
  exact hf rest

/-- The last reader of a sequence, whose result is only repackaged. -/
theorem map {p : EStateM ε (List β) α} {xs : List β} {a : α} (f : α → γ) (hp : Decodes p xs a) :
    Decodes (do let b ← p; Pure.pure (f b)) xs (f a) := by
  have := hp.bind (f := fun b => Pure.pure (f b)) (Decodes.pure (f a))
  rwa [List.append_nil] at this

/-- **A counted loop.**  If each item is decoded from its own encoding, up to `f`, the list of the
items is decoded from the encodings in a row. -/
theorem readN {p : EStateM ε (List β) γ} {enc : α → List β} {f : α → γ} :
    ∀ {items : List α}, (∀ a ∈ items, Decodes p (enc a) (f a)) →
      Decodes (Lib.readN p items.length) (items.flatMap enc) (items.map f)
  | [], _ => Decodes.pure []
  | a :: as, h => by
    have ha : Decodes p (enc a) (f a) := h a (by simp)
    have has : Decodes (Lib.readN p as.length) (as.flatMap enc) (as.map f) :=
      readN fun b hb => h b (List.mem_cons_of_mem a hb)
    exact ha.bind (has.map fun bs => f a :: bs)

end Decodes
end BasisRust.Lib
