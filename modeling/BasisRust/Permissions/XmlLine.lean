import BasisRust.Permissions.Xml

/-!
# Permissions: a line of the file

A value is escaped so that it has neither quotes nor angle brackets of its own, and `attr` finds it in its
line again whatever else it holds.
-/

namespace BasisRust.Permissions

open BasisRust.Lib PermissionManager

/-! ### Escaping -/

/-- What a character is written as. -/
def entity (c : Char) : Text :=
  if c = '&' then "&amp;".toList
  else if c = '"' then "&quot;".toList
  else if c = '<' then "&lt;".toList
  else if c = '>' then "&gt;".toList
  else [c]

/-- The characters in `done` are read back already. -/
def entityBut (done : List Char) (c : Char) : Text := if c ∈ done then [c] else entity c

lemma escape_eq (value : String) : escape value = value.toList.flatMap entity := by
  simp only [escape, replaceOne, List.flatMap_assoc]
  refine List.flatMap_congr fun c _ => ?_
  by_cases hamp : c = '&'
  · subst hamp
    decide
  by_cases hquot : c = '"'
  · subst hquot
    decide
  by_cases hlt : c = '<'
  · subst hlt
    decide
  by_cases hgt : c = '>'
  · subst hgt
    decide
  simp only [entity, hamp, hquot, hlt, hgt, if_false, List.flatMap_singleton]

lemma entity_of_ne {c : Char} (hamp : c ≠ '&') (hquot : c ≠ '"') (hlt : c ≠ '<') (hgt : c ≠ '>') :
    entity c = [c] := by
  simp [entity, hamp, hquot, hlt, hgt]

lemma entity_amp : entity '&' = ['&', 'a', 'm', 'p', ';'] := rfl
lemma entity_quot : entity '"' = ['&', 'q', 'u', 'o', 't', ';'] := rfl
lemma entity_lt : entity '<' = ['&', 'l', 't', ';'] := rfl
lemma entity_gt : entity '>' = ['&', 'g', 't', ';'] := rfl

/-- The entity of one character does not begin as the one of another. -/
lemma inert_entity {name : Text} {x c : Char} (hx : x ∈ ['&', '"', '<', '>']) (hname : entity x = '&' :: name)
    (hne : c ≠ x) : Inert '&' name (entity c) := by
  simp only [List.mem_cons, List.not_mem_nil, or_false] at hx
  by_cases hspecial : c = '&' ∨ c = '"' ∨ c = '<' ∨ c = '>'
  · rcases hx with rfl | rfl | rfl | rfl <;> rcases hspecial with rfl | rfl | rfl | rfl
    all_goals
      first
      | exact absurd rfl hne
      | simp only [entity_amp, entity_quot, entity_lt, entity_gt, List.cons.injEq, true_and] at hname ⊢
        subst hname
        exact inert_cons (fun rest hpre => by simp at hpre) (by decide)
  · simp only [not_or] at hspecial
    rw [entity_of_ne hspecial.1 hspecial.2.1 hspecial.2.2.1 hspecial.2.2.2]
    exact inert_of_notMem fun hmem => hspecial.1 (List.mem_singleton.mp hmem).symm

/-- One more character is read back. -/
lemma replaceAll_entityBut {done name : Text} {x : Char} (hx : x ∈ ['&', '"', '<', '>']) (hname : entity x = '&' :: name)
    (hnew : x ∉ done) (hamp : '&' ∉ done) (l : Text) :
    replaceAll '&' name [x] (l.flatMap (entityBut done)) = l.flatMap (entityBut (x :: done)) := by
  refine replaceAll_flatMap fun c _ => ?_
  by_cases hc : c = x
  · subst hc
    refine .inl ⟨?_, ?_⟩
    · rw [entityBut, if_neg hnew, hname]
    · rw [entityBut, if_pos List.mem_cons_self]
  · by_cases hdone : c ∈ done
    · refine .inr ⟨?_, ?_⟩
      · rw [entityBut, if_pos hdone]
        refine inert_of_notMem fun hmem => hamp ?_
        rwa [List.mem_singleton.mp hmem]
      · rw [entityBut, entityBut, if_pos hdone, if_pos (List.mem_cons_of_mem x hdone)]
    · refine .inr ⟨?_, ?_⟩
      · rw [entityBut, if_neg hdone]
        exact inert_entity hx hname hc
      · rw [entityBut, entityBut, if_neg hdone, if_neg fun hmem => (List.mem_cons.mp hmem).elim hc hdone]

/-- **Reading undoes writing.** -/
theorem unescape_escape (value : String) : unescape (escape value) = value := by
  have hstart : value.toList.flatMap entity = value.toList.flatMap (entityBut []) :=
    List.flatMap_congr fun c _ => by rw [entityBut, if_neg List.not_mem_nil]
  have hend : value.toList.flatMap (entityBut ['&', '>', '<', '"']) = value.toList := by
    have hsingle (c : Char) : entityBut ['&', '>', '<', '"'] c = [c] := by
      by_cases hc : c ∈ ['&', '>', '<', '"']
      · rw [entityBut, if_pos hc]
      · simp only [List.mem_cons, List.not_mem_nil, or_false, not_or] at hc
        rw [entityBut, entity_of_ne hc.1 hc.2.2.2 hc.2.2.1 hc.2.1, ite_self]
    rw [List.flatMap_congr fun c _ => hsingle c]
    exact List.flatMap_singleton' _
  have hquot : entity '"' = '&' :: "quot;".toList := rfl
  have hlt : entity '<' = '&' :: "lt;".toList := rfl
  have hgt : entity '>' = '&' :: "gt;".toList := rfl
  have hamp : entity '&' = '&' :: "amp;".toList := rfl
  rw [unescape, escape_eq, hstart, replaceAll_entityBut (by decide) hquot (by decide) (by decide),
    replaceAll_entityBut (by decide) hlt (by decide) (by decide),
    replaceAll_entityBut (by decide) hgt (by decide) (by decide),
    replaceAll_entityBut (by decide) hamp (by decide) (by decide), hend, String.ofList_toList]

lemma mem_entity {b c : Char} (h : c ∈ entity b) :
    c = b ∧ c ∉ ['"', '<', '>'] ∨ c ∈ ['&', 'a', 'm', 'p', ';', 'q', 'u', 'o', 't', 'l', 'g'] := by
  by_cases hspecial : b = '&' ∨ b = '"' ∨ b = '<' ∨ b = '>'
  · right
    rcases hspecial with rfl | rfl | rfl | rfl
    all_goals
      simp only [entity_amp, entity_quot, entity_lt, entity_gt, List.mem_cons, List.not_mem_nil, or_false] at h ⊢
      tauto
  · simp only [not_or] at hspecial
    rw [entity_of_ne hspecial.1 hspecial.2.1 hspecial.2.2.1 hspecial.2.2.2] at h
    obtain rfl := List.mem_singleton.mp h
    refine .inl ⟨rfl, ?_⟩
    simp only [List.mem_cons, List.not_mem_nil, or_false, not_or]
    exact hspecial.2

/-- No quote and no angle bracket is left. -/
lemma notMem_escape {special : Char} (h : special ∈ ['"', '<', '>']) (value : String) : special ∉ escape value := by
  rw [escape_eq, List.mem_flatMap]
  rintro ⟨b, -, hmem⟩
  rcases mem_entity hmem with ⟨-, hnot⟩ | hmem
  · exact hnot h
  · simp only [List.mem_cons, List.not_mem_nil, or_false] at h
    rcases h with rfl | rfl | rfl <;> exact absurd hmem (by decide)

lemma newline_notMem_escape {value : String} (h : '\n' ∉ value.toList) : '\n' ∉ escape value := by
  rw [escape_eq, List.mem_flatMap]
  rintro ⟨b, hb, hmem⟩
  rcases mem_entity hmem with ⟨heq, -⟩ | hmem
  · exact h (heq ▸ hb)
  · exact absurd hmem (by decide)

lemma mem_unescape {value : Text} {c : Char} (h : c ∈ (unescape value).toList) :
    c ∈ value ∨ c ∈ ['&', '>', '<', '"'] := by
  rw [unescape, String.toList_ofList] at h
  simp only [List.mem_cons, List.not_mem_nil, or_false]
  have hsingle {x : Char} (hc : c ∈ [x]) : c = x := List.mem_singleton.mp hc
  rcases mem_replaceAll h with h | h
  · rcases mem_replaceAll h with h | h
    · rcases mem_replaceAll h with h | h
      · rcases mem_replaceAll h with h | h
        · exact .inl h
        · exact .inr (.inr (.inr (.inr (hsingle h))))
      · exact .inr (.inr (.inr (.inl (hsingle h))))
    · exact .inr (.inr (.inl (hsingle h)))
  · exact .inr (.inl (hsingle h))

/-! ### Attributes -/

/-- The value of a line is read back. -/
lemma attr_of_afterFirst {line after : Text} {name value : String}
    (h : afterFirst (name ++ "=\"").toList line = some (escape value ++ '"' :: after)) :
    attr line name = some value := by
  have hlen : (escape value ++ '"' :: after).findIdx? (fun c => c = '"') = some (escape value).length := by
    have hnone : (escape value).findIdx? (fun c => decide (c = '"')) = none := by
      rw [List.findIdx?_eq_none_iff]
      intro c hc
      exact decide_eq_false fun heq => notMem_escape (by decide) value (heq ▸ hc)
    rw [List.findIdx?_append, hnone, Option.none_or, List.findIdx?_cons]
    simp
  rw [attr, h]
  dsimp only [Option.bind_eq_bind, Option.bind_some]
  rw [hlen, Option.bind_some, List.take_left, unescape_escape]
  rfl

/-- A value is never longer than its line. -/
lemma newline_notMem_attr {line : Text} {name value : String} (hline : '\n' ∉ line)
    (h : attr line name = some value) : '\n' ∉ value.toList := by
  rw [attr] at h
  obtain ⟨rest, hrest, h⟩ := Option.bind_eq_some_iff.mp h
  obtain ⟨len, -, h⟩ := Option.bind_eq_some_iff.mp h
  cases h
  intro hmem
  rcases mem_unescape hmem with hmem | hmem
  · exact hline (mem_of_afterFirst hrest (List.mem_of_mem_take hmem))
  · exact absurd hmem (by decide)

/-! ### One line -/

/-- A line without its line feed. -/
def valueText (before value after : String) : Text := before.toList ++ (escape value ++ after.toList)

lemma toList_trim_indented (n : ℕ) {first last : Char} (middle : Text) (hfirst : isWhitespace first = false)
    (hlast : isWhitespace last = false) :
    (trim (String.ofList (List.replicate n ' ' ++ (first :: (middle ++ [last]))))).toList =
      first :: (middle ++ [last]) := by
  have hspaces : ∀ c ∈ List.replicate n ' ', isWhitespace c = true := fun c hc => by
    rw [List.eq_of_mem_replicate hc]
    decide
  have hfirst' : ¬ isWhitespace first = true := by rw [hfirst]; decide
  have hlast' : ¬ isWhitespace last = true := by rw [hlast]; decide
  rw [trim, String.toList_ofList, String.toList_ofList, List.dropWhile_append_of_pos hspaces,
    List.dropWhile_cons_of_neg hfirst', ← List.cons_append, List.rdropWhile_concat_neg isWhitespace _ last hlast']

/-- A line with a value is read without its indentation. -/
lemma trim_valueText (n : ℕ) {before after close : String} {tag : Text} (value : String)
    (hbefore : before.toList = List.replicate n ' ' ++ '<' :: tag)
    (hafter : after.toList = '"' :: (close.toList ++ ['>'])) :
    (trim (String.ofList (valueText before value after))).toList =
      '<' :: (tag ++ (escape value ++ '"' :: (close.toList ++ ['>']))) := by
  have hline : valueText before value after =
      List.replicate n ' ' ++ ('<' :: (tag ++ (escape value ++ '"' :: close.toList) ++ ['>'])) := by
    rw [valueText, hbefore, hafter]
    simp only [List.append_assoc, List.cons_append]
  rw [hline, toList_trim_indented n _ (by decide) (by decide)]
  simp only [List.append_assoc, List.cons_append]

namespace LoadState

variable {s : LoadState}

/-- **A line with a value** is none of the lines without one; its tag says what its value is read as. -/
lemma readLine_valueText (n : ℕ) {before tag name value after close : String} {read : String → LoadState}
    (hbefore : before.toList = List.replicate n ' ' ++ '<' :: tag.toList)
    (hafter : after.toList = '"' :: (close.toList ++ ['>']))
    (hnone : ∀ rest, s.readTag ('<' :: (tag.toList ++ rest)) = none)
    (hread : ∀ rest, s.readValue ('<' :: (tag.toList ++ rest)) =
      ((attr ('<' :: (tag.toList ++ rest)) name).map read).getD s)
    (hattr : ∀ rest, afterFirst (name ++ "=\"").toList ('<' :: (tag.toList ++ rest)) = some rest) :
    s.readLine (valueText before value after) = read value := by
  rw [readLine, trim_valueText n value hbefore hafter, hnone, Option.getD_none, hread,
    attr_of_afterFirst (hattr _), Option.map_some, Option.getD_some]

lemma readLine_group (value : String) :
    s.readLine (valueText "    <Group name=\"" value "\">") = s.readGroup value :=
  @readLine_valueText s 4 _ "Group name=\"" "name" _ _ "" s.readGroup rfl rfl (fun _ => rfl) (fun _ => rfl) fun _ => rfl

lemma readLine_member (value : String) :
    s.readLine (valueText "      <Group name=\"" value "\" />") = s.readGroup value :=
  @readLine_valueText s 6 _ "Group name=\"" "name" _ _ " /" s.readGroup rfl rfl (fun _ => rfl) (fun _ => rfl) fun _ => rfl

lemma readLine_user (value : String) :
    s.readLine (valueText "    <User uuid=\"" value "\">") = s.readUser value :=
  @readLine_valueText s 4 _ "User uuid=\"" "uuid" _ _ "" s.readUser rfl rfl (fun _ => rfl) (fun _ => rfl) fun _ => rfl

lemma readLine_parent (value : String) :
    s.readLine (valueText "      <Parent name=\"" value "\" />") = s.readParent value :=
  @readLine_valueText s 6 _ "Parent name=\"" "name" _ _ " /" s.readParent rfl rfl (fun _ => rfl) (fun _ => rfl) fun _ => rfl

lemma readLine_node (value : String) :
    s.readLine (valueText "      <Node value=\"" value "\" />") = s.readNode value :=
  @readLine_valueText s 6 _ "Node value=\"" "value" _ _ " /" s.readNode rfl rfl (fun _ => rfl) (fun _ => rfl) fun _ => rfl

end LoadState
end BasisRust.Permissions
