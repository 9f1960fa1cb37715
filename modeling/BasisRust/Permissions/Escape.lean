import BasisRust.Permissions.Restart

/-!
# Permissions: values are safe in their line

Escaping is undone by unescaping, and what is escaped ends no attribute and opens no tag.  So each value comes
back from its line of the file by the name of its attribute, whatever it looks like and whatever the other
lines hold.
-/

namespace BasisRust.Permissions

open BasisRust.Lib

/-- The lines of the file that carry a value: the name of the attribute, the value and the line. -/
inductive Writes (store : PermissionStore) : String → String → Text → Prop
  | group {key : String} {group : PermissionGroup} (hgroup : ⟨key, group⟩ ∈ store.groups.entries) :
      Writes store "name" group.name (valueText "    <Group name=\"" group.name "\">")
  | parent {key parent : String} {group : PermissionGroup} (hgroup : ⟨key, group⟩ ∈ store.groups.entries)
      (hparent : parent ∈ group.parents) :
      Writes store "name" parent (valueText "      <Parent name=\"" parent "\" />")
  | groupNode {key node : String} {group : PermissionGroup} (hgroup : ⟨key, group⟩ ∈ store.groups.entries)
      (hnode : node ∈ group.nodes) :
      Writes store "value" node (valueText "      <Node value=\"" node "\" />")
  | user {key : String} {user : PermissionUser} (huser : ⟨key, user⟩ ∈ store.users.entries) :
      Writes store "uuid" user.uuid (valueText "    <User uuid=\"" user.uuid "\">")
  | member {key group : String} {user : PermissionUser} (huser : ⟨key, user⟩ ∈ store.users.entries)
      (hgroup : group ∈ user.groups) :
      Writes store "name" group (valueText "      <Group name=\"" group "\" />")
  | userNode {key node : String} {user : PermissionUser} (huser : ⟨key, user⟩ ∈ store.users.entries)
      (hnode : node ∈ user.nodes) :
      Writes store "value" node (valueText "      <Node value=\"" node "\" />")

/-! ### An attribute in its line -/

lemma toList_needle (name : String) : (name ++ "=\"").toList = (name.toList ++ ['=']) ++ ['"'] := by
  rw [String.toList_append, List.append_assoc]
  rfl

/-- The attribute is found if no quote comes earlier in the line. -/
lemma attr_of_unquoted {before : Text} {name : String} (hbefore : '"' ∉ before) (hname : '"' ∉ name.toList)
    (value : String) (after : Text) :
    attr (before ++ ((name ++ "=\"").toList ++ (escape value ++ '"' :: after))) name = some value := by
  have hunquoted : '"' ∉ name.toList ++ ['='] := by
    rw [List.mem_append, not_or]
    exact ⟨hname, by decide⟩
  have hfound : afterFirst (name ++ "=\"").toList
      (before ++ ((name ++ "=\"").toList ++ (escape value ++ '"' :: after))) = some (escape value ++ '"' :: after) := by
    rw [toList_needle, List.append_assoc (name.toList ++ ['=']), List.singleton_append]
    exact afterFirst_of_end hunquoted hbefore _
  exact attr_of_afterFirst hfound

/-- The same of a line as it is written, and read without its indentation. -/
lemma attr_valueText {before tag name after close : String} (n : ℕ) (value : String)
    (hbefore : before.toList = List.replicate n ' ' ++ '<' :: (tag.toList ++ (name.toList ++ ['='] ++ ['"'])))
    (hafter : after.toList = '"' :: (close.toList ++ ['>'])) (htag : '"' ∉ tag.toList) (hname : '"' ∉ name.toList) :
    attr (trim (String.ofList (valueText before value after))).toList name = some value := by
  have htrimmed : '<' :: (tag.toList ++ (name.toList ++ ['='] ++ ['"']) ++
        (escape value ++ '"' :: (close.toList ++ ['>']))) =
      ('<' :: tag.toList) ++ ((name ++ "=\"").toList ++ (escape value ++ '"' :: (close.toList ++ ['>']))) := by
    rw [toList_needle]
    simp only [List.append_assoc, List.cons_append]
  have hunquoted : '"' ∉ '<' :: tag.toList := by
    rw [List.mem_cons, not_or]
    exact ⟨by decide, htag⟩
  rw [trim_valueText n value hbefore hafter, htrimmed, attr_of_unquoted hunquoted hname]

namespace Writes

variable {store : PermissionStore} {name value : String} {line : Text}

/-- The line has no line feed if its value has none. -/
lemma whole (h : Writes store name value line) (hvalue : '\n' ∉ value.toList) : Whole line := by
  cases h with
  | group | parent | groupNode | user | member | userNode =>
    exact whole_valueText hvalue (by decide) (by decide) rfl

lemma mem_storeLines (h : Writes store name value line) : line ∈ storeLines store := by
  have hofGroup {key : String} {group : PermissionGroup} (hgroup : ⟨key, group⟩ ∈ store.groups.entries)
      (hline : line ∈ groupLines group) : line ∈ storeLines store := by
    rw [storeLines, List.mem_append, List.mem_append, List.mem_flatMap]
    exact .inr (.inl ⟨_, hgroup, hline⟩)
  have hofUser {key : String} {user : PermissionUser} (huser : ⟨key, user⟩ ∈ store.users.entries)
      (hline : line ∈ userLines user) : line ∈ storeLines store := by
    rw [storeLines, List.mem_append, List.mem_append, List.mem_append, List.mem_append]
    exact .inr (.inr (.inr (.inl (List.mem_flatMap.mpr ⟨_, huser, hline⟩))))
  cases h with
  | group hgroup => exact hofGroup hgroup List.mem_cons_self
  | parent hgroup hparent =>
    exact hofGroup hgroup (List.mem_cons_of_mem _ (List.mem_append_left _ (List.mem_map_of_mem hparent)))
  | groupNode hgroup hnode =>
    exact hofGroup hgroup (List.mem_cons_of_mem _ (List.mem_append_right _
      (List.mem_append_left _ (List.mem_map_of_mem hnode))))
  | user huser => exact hofUser huser List.mem_cons_self
  | member huser hgroup =>
    exact hofUser huser (List.mem_cons_of_mem _ (List.mem_append_left _ (List.mem_map_of_mem hgroup)))
  | userNode huser hnode =>
    exact hofUser huser (List.mem_cons_of_mem _ (List.mem_append_right _
      (List.mem_append_left _ (List.mem_map_of_mem hnode))))

lemma attr_eq (h : Writes store name value line) : attr (trim (String.ofList line)).toList name = some value := by
  cases h with
  | group => exact @attr_valueText _ "Group " _ _ "" 4 _ rfl rfl (by decide) (by decide)
  | parent => exact @attr_valueText _ "Parent " _ _ " /" 6 _ rfl rfl (by decide) (by decide)
  | groupNode | userNode => exact @attr_valueText _ "Node " _ _ " /" 6 _ rfl rfl (by decide) (by decide)
  | user => exact @attr_valueText _ "User " _ _ "" 4 _ rfl rfl (by decide) (by decide)
  | member => exact @attr_valueText _ "Group " _ _ " /" 6 _ rfl rfl (by decide) (by decide)

end Writes

/-- **Escaping is lossless and safe.**  A value without line feeds is in a line of its own, and the attribute of
that line is the value. -/
theorem escape_lossless_safe :
    (∀ value, unescape (escape value) = value) ∧
    (∀ value, '"' ∉ escape value ∧ '<' ∉ escape value ∧ '>' ∉ escape value) ∧
    (∀ before name value after, '"' ∉ before → '"' ∉ name.toList →
      attr (before ++ ((name ++ "=\"").toList ++ (escape value ++ '"' :: after))) name = some value) ∧
    ∀ store name value line, Writes store name value line → '\n' ∉ value.toList →
      line ∈ lines (savePermissions store) ∧ attr (trim (String.ofList line)).toList name = some value := by
  refine ⟨unescape_escape, fun value => ⟨?_, ?_, ?_⟩, ?_, ?_⟩
  · exact notMem_escape (by decide) value
  · exact notMem_escape (by decide) value
  · exact notMem_escape (by decide) value
  · exact fun before name value after hbefore hname => attr_of_unquoted hbefore hname value after
  · intro store name value line hwrites hvalue
    have hwhole := hwrites.whole hvalue
    refine ⟨?_, hwrites.attr_eq⟩
    rw [savePermissions_eq]
    exact mem_lines_flatMap hwrites.mem_storeLines hwhole.1 hwhole.2

/-- A user whose name is entity text and looks like an attribute. -/
theorem escape_lossless_safe_hostile :
    attr "<a b=\"&amp;lt;\">".toList "b" = some "&lt;" ∧
    attr (trim (String.ofList (valueText "    <User uuid=\"" "&quot; uuid=\"x\" />" "\">"))).toList "uuid" =
      some "&quot; uuid=\"x\" />" := by
  have huser : (⟨"k", { uuid := "&quot; uuid=\"x\" />" }⟩ : (_ : String) × PermissionUser) ∈
      ((∅ : Dict String PermissionUser).insert "k" { uuid := "&quot; uuid=\"x\" />" }).entries := by
    decide
  refine ⟨?_, (escape_lossless_safe.2.2.2 { users := _ } _ _ _ (.user huser) (by decide)).2⟩
  exact escape_lossless_safe.2.2.1 "<a ".toList "b" "&lt;" ['>'] (by decide) (by decide)

end BasisRust.Permissions
