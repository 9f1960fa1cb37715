import BasisRust.Lib.Codec
import BasisRust.Lib.FinalState

/-!
# What a reader can return

`Yields p P` says that whatever `p` returns, from whatever it is started on, satisfies `P`.  As with `Decodes`
the rules follow the structure of a reader; where a later part depends on what an earlier one has returned, the
earlier condition is at hand.
-/

namespace BasisRust.Lib

variable {ε σ β : Type} {α γ : Type}

def Yields (p : EStateM ε σ α) (P : α → Prop) : Prop := ∀ s a s', p s = .ok a s' → P a

namespace Yields

theorem any (p : EStateM ε σ α) : Yields p fun _ => True := fun _ _ _ _ => trivial

theorem pure {P : α → Prop} {a : α} (h : P a) : Yields (Pure.pure a : EStateM ε σ α) P := by
  intro s a' s' heq
  cases heq
  exact h

theorem mono {p : EStateM ε σ α} {P Q : α → Prop} (h : Yields p P) (hle : ∀ a, P a → Q a) : Yields p Q :=
  fun s a s' heq => hle a (h s a s' heq)

/-- **Sequencing.**  The second part is only started on what the first can return. -/
theorem bind {p : EStateM ε σ α} {f : α → EStateM ε σ γ} {P : α → Prop} {Q : γ → Prop} (hp : Yields p P)
    (hf : ∀ a, P a → Yields (f a) Q) : Yields (p >>= f) Q := by
  intro s c s'' heq
  obtain ⟨a, s', ha, hc⟩ := ok_of_bind_ok heq
  exact hf a (hp s a s' ha) s' c s'' hc

/-- A part nothing is asked of. -/
theorem skip {p : EStateM ε σ α} {f : α → EStateM ε σ γ} {Q : γ → Prop} (hf : ∀ a, Yields (f a) Q) :
    Yields (p >>= f) Q := (any p).bind fun a _ => hf a

/-- **A counted loop** returns as many items as are counted, each of them as one round returns it. -/
theorem readN {p : EStateM ε (List β) α} {P : α → Prop} (hp : Yields p P) :
    ∀ n, Yields (Lib.readN p n) fun items => items.length = n ∧ ∀ a ∈ items, P a
  | 0 => pure ⟨rfl, fun _ h => absurd h List.not_mem_nil⟩
  | n + 1 => by
    refine hp.bind fun a ha => (readN hp n).bind fun items hitems => pure ⟨?_, ?_⟩
    · rw [List.length_cons, hitems.1]
    · exact List.forall_mem_cons.mpr ⟨ha, hitems.2⟩

end Yields
end BasisRust.Lib
