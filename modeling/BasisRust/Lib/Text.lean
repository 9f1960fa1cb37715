import Mathlib.Data.List.Basic

/-!
# Texts as lists: replacing, lines, finding

`replaceAll` replaces the occurrences of a pattern from left to right.  On a text that is put together
from tokens it replaces the tokens that are the pattern and leaves the others, as long as no other token
lets the pattern begin in it (`Inert`).  `lines` cuts a text at its line feeds as `str::lines` does.
-/

namespace BasisRust.Lib

/-! ### Replacing -/

section Replace

variable {α : Type} [DecidableEq α]

/-- Every occurrence of one element replaced. -/
def replaceOne (a : α) (rep l : List α) : List α := l.flatMap fun b => if b = a then rep else [b]

/-- The occurrences of `p :: ps` replaced. -/
def replaceAll (p : α) (ps rep : List α) : List α → List α
  | [] => []
  | b :: bs =>
    if (p :: ps).isPrefixOf (b :: bs) then rep ++ replaceAll p ps rep (bs.drop ps.length)
    else b :: replaceAll p ps rep bs
termination_by l => l.length
decreasing_by
  · rw [List.length_drop, List.length_cons]
    omega
  · exact Nat.lt_succ_self _

variable {p : α} {ps rep : List α}

@[simp] lemma replaceAll_nil : replaceAll p ps rep [] = [] := by rw [replaceAll]

lemma replaceAll_of_not_prefix {b : α} {bs : List α} (h : ¬ (p :: ps) <+: (b :: bs)) :
    replaceAll p ps rep (b :: bs) = b :: replaceAll p ps rep bs := by
  rw [replaceAll, if_neg (fun hpre => h (List.isPrefixOf_iff_prefix.mp hpre))]

lemma replaceAll_of_ne {b : α} (h : b ≠ p) (bs : List α) :
    replaceAll p ps rep (b :: bs) = b :: replaceAll p ps rep bs :=
  replaceAll_of_not_prefix fun hpre => h (List.cons_prefix_cons.mp hpre).1.symm

lemma replaceAll_pattern_append (rest : List α) :
    replaceAll p ps rep (p :: ps ++ rest) = rep ++ replaceAll p ps rep rest := by
  rw [List.cons_append, replaceAll,
    if_pos (List.isPrefixOf_iff_prefix.mpr (List.cons_prefix_cons.mpr ⟨rfl, List.prefix_append ps rest⟩)),
    List.drop_left]

/-- Nothing is replaced from the start of the text to its end, whatever follows. -/
def Inert (p : α) (ps t : List α) : Prop :=
  ∀ rep rest, replaceAll p ps rep (t ++ rest) = t ++ replaceAll p ps rep rest

lemma inert_of_notMem {t : List α} (h : p ∉ t) : Inert p ps t := by
  intro rep rest
  induction t with
  | nil => rfl
  | cons b t ih =>
    rw [List.mem_cons, not_or] at h
    rw [List.cons_append, replaceAll_of_ne (Ne.symm h.1), ih h.2, List.cons_append]

lemma inert_cons {b : α} {t : List α} (h : ∀ rest, ¬ (p :: ps) <+: (b :: (t ++ rest))) (ht : p ∉ t) :
    Inert p ps (b :: t) := by
  intro rep rest
  rw [List.cons_append, replaceAll_of_not_prefix (h rest), inert_of_notMem ht, List.cons_append]

/-- **Token by token.**  A token that is the pattern is replaced, an inert one stays. -/
theorem replaceAll_flatMap {β : Type} {tok tok' : β → List α} {l : List β}
    (h : ∀ b ∈ l, tok b = p :: ps ∧ tok' b = rep ∨ Inert p ps (tok b) ∧ tok' b = tok b) :
    replaceAll p ps rep (l.flatMap tok) = l.flatMap tok' := by
  induction l with
  | nil => exact replaceAll_nil
  | cons b l ih =>
    rw [List.forall_mem_cons] at h
    rw [List.flatMap_cons, List.flatMap_cons]
    rcases h.1 with ⟨htok, htok'⟩ | ⟨hinert, htok'⟩
    · rw [htok, replaceAll_pattern_append, htok', ih h.2]
    · rw [hinert, htok', ih h.2]

lemma mem_replaceAll {c : α} {l : List α} (h : c ∈ replaceAll p ps rep l) : c ∈ l ∨ c ∈ rep := by
  fun_induction replaceAll p ps rep l with
  | case1 => exact .inl h
  | case2 b bs hpre ih =>
    rcases List.mem_append.mp h with h | h
    · exact .inr h
    · exact (ih h).imp_left fun hmem => List.mem_cons_of_mem _ (List.mem_of_mem_drop hmem)
  | case3 b bs hpre ih =>
    rcases List.mem_cons.mp h with rfl | h
    · exact .inl List.mem_cons_self
    · exact (ih h).imp_left (List.mem_cons_of_mem _)

/-- What is behind the first occurrence of the needle. -/
def afterFirst (needle : List α) : List α → Option (List α)
  | [] => if needle = [] then some [] else none
  | b :: bs =>
    if needle.isPrefixOf (b :: bs) then some ((b :: bs).drop needle.length) else afterFirst needle bs

lemma mem_of_afterFirst {needle l rest : List α} (h : afterFirst needle l = some rest) {c : α} (hc : c ∈ rest) :
    c ∈ l := by
  induction l with
  | nil =>
    rw [afterFirst] at h
    split at h
    · cases h
      exact hc
    · cases h
  | cons b bs ih =>
    rw [afterFirst] at h
    split at h
    · cases h
      exact List.mem_of_mem_drop hc
    · exact List.mem_cons_of_mem _ (ih h)

lemma afterFirst_of_prefix {needle l : List α} (h : needle <+: l) : afterFirst needle l = some (l.drop needle.length) := by
  cases l with
  | nil =>
    obtain rfl := List.prefix_nil.mp h
    rfl
  | cons b bs => rw [afterFirst, if_pos (List.isPrefixOf_iff_prefix.mpr h)]

/-- A needle whose last element comes only there is found where that element first is. -/
theorem afterFirst_of_end {needle before : List α} {last : α} (hneedle : last ∉ needle) (hbefore : last ∉ before)
    (rest : List α) : afterFirst (needle ++ [last]) (before ++ (needle ++ last :: rest)) = some rest := by
  induction before with
  | nil =>
    have hsplit : needle ++ last :: rest = needle ++ [last] ++ rest := by rw [List.append_assoc, List.singleton_append]
    rw [List.nil_append, hsplit, afterFirst_of_prefix (List.prefix_append _ _), List.drop_left]
  | cons b before ih =>
    have hearlier : ¬ needle ++ [last] <+: (b :: before) ++ (needle ++ last :: rest) := by
      intro hpre
      rw [← List.append_assoc] at hpre
      have hlen : (needle ++ [last]).length ≤ ((b :: before) ++ needle).length := by
        simp only [List.length_append, List.length_cons, List.length_nil]
        omega
      have hwithin := List.prefix_of_prefix_length_le hpre (List.prefix_append _ _) hlen
      rcases List.mem_append.mp (hwithin.subset (List.mem_append_right needle List.mem_cons_self)) with hmem | hmem
      · exact hbefore hmem
      · exact hneedle hmem
    rw [List.mem_cons, not_or] at hbefore
    rw [List.cons_append] at hearlier ⊢
    rw [afterFirst, if_neg fun hpre => hearlier (List.isPrefixOf_iff_prefix.mp hpre), ih hbefore.2]

end Replace

/-! ### Lines -/

section Lines

/-- `str::strip_suffix`, for one character that need not be there. -/
def stripSuffix (c : Char) (l : List Char) : List Char := if l.getLast? = some c then l.dropLast else l

/-- The lines, where `current` has been read of the first one. -/
def linesFrom (current : List Char) : List Char → List (List Char)
  | [] => if current = [] then [] else [current]
  | c :: cs => if c = '\n' then stripSuffix '\r' current :: linesFrom [] cs else linesFrom (current ++ [c]) cs

/-- `str::lines` -/
def lines (text : List Char) : List (List Char) := linesFrom [] text

lemma linesFrom_append {l : List Char} (h : '\n' ∉ l) (current rest : List Char) :
    linesFrom current (l ++ rest) = linesFrom (current ++ l) rest := by
  induction l generalizing current with
  | nil => rw [List.nil_append, List.append_nil]
  | cons c l ih =>
    rw [List.mem_cons, not_or] at h
    rw [List.cons_append, linesFrom, if_neg (Ne.symm h.1), ih h.2, List.append_assoc, List.singleton_append]

/-- Lines that end with a line feed each are cut apart again. -/
theorem lines_flatMap {ls : List (List Char)} (h : ∀ l ∈ ls, '\n' ∉ l ∧ l.getLast? ≠ some '\r') :
    lines (ls.flatMap (· ++ ['\n'])) = ls := by
  induction ls with
  | nil => rfl
  | cons l ls ih =>
    rw [List.forall_mem_cons] at h
    rw [List.flatMap_cons, List.append_assoc, lines, linesFrom_append h.1.1, List.nil_append, List.singleton_append,
      linesFrom, if_pos rfl, stripSuffix, if_neg h.1.2]
    exact congrArg (l :: ·) (ih h.2)

/-- The lines behind a line feed do not depend on what is in front of it. -/
lemma linesFrom_suffix (l current rest : List Char) : linesFrom [] rest <:+ linesFrom current (l ++ '\n' :: rest) := by
  induction l generalizing current with
  | nil =>
    rw [List.nil_append, linesFrom, if_pos rfl]
    exact List.suffix_cons _ _
  | cons c l ih =>
    rw [List.cons_append, linesFrom]
    split
    · exact (ih []).trans (List.suffix_cons _ _)
    · exact ih _

/-- **One line among others.**  It is cut out again, whatever the others hold. -/
theorem mem_lines_flatMap {ls : List (List Char)} {l : List Char} (hmem : l ∈ ls) (hfeed : '\n' ∉ l)
    (hreturn : l.getLast? ≠ some '\r') : l ∈ lines (ls.flatMap (· ++ ['\n'])) := by
  induction ls with
  | nil => cases hmem
  | cons l' ls ih =>
    rw [List.flatMap_cons, List.append_assoc, List.singleton_append]
    rcases List.mem_cons.mp hmem with rfl | hmem
    · rw [lines, linesFrom_append hfeed, List.nil_append, linesFrom, if_pos rfl, stripSuffix, if_neg hreturn]
      exact List.mem_cons_self
    · exact (linesFrom_suffix _ _ _).subset (ih hmem)

lemma notMem_of_mem_linesFrom {current text l : List Char} (hcurrent : '\n' ∉ current)
    (h : l ∈ linesFrom current text) : '\n' ∉ l := by
  induction text generalizing current with
  | nil =>
    rw [linesFrom] at h
    split at h
    · cases h
    · rw [List.mem_singleton.mp h]
      exact hcurrent
  | cons c text ih =>
    rw [linesFrom] at h
    split at h
    · rcases List.mem_cons.mp h with rfl | h
      · rw [stripSuffix]
        split
        · exact fun hmem => hcurrent ((List.dropLast_sublist current).subset hmem)
        · exact hcurrent
      · exact ih List.not_mem_nil h
    next hc =>
      refine ih (fun hmem => ?_) h
      rcases List.mem_append.mp hmem with hmem | hmem
      · exact hcurrent hmem
      · exact hc (List.mem_singleton.mp hmem).symm

/-- A line has no line feed in it. -/
theorem notMem_of_mem_lines {text l : List Char} (h : l ∈ lines text) : '\n' ∉ l :=
  notMem_of_mem_linesFrom List.not_mem_nil h

end Lines
end BasisRust.Lib
