import BasisRust.Permissions.Unchanged
import BasisRust.Permissions.XmlLine

/-!
# Permissions survive a restart

What `load_permissions` makes of the text of `save_permissions`.  Every value comes back from its line; only a
line feed ends the line in the middle of a value.  So a store comes back exactly when it has no line feed in it.
-/

namespace BasisRust.Permissions

open BasisRust.Lib PermissionManager

/-! ### The lines of a store -/

def groupLines (group : PermissionGroup) : List Text :=
  valueText "    <Group name=\"" group.name "\">" ::
    ((group.parents.elems.map fun parent => valueText "      <Parent name=\"" parent "\" />") ++
      ((group.nodes.elems.map fun node => valueText "      <Node value=\"" node "\" />") ++ ["    </Group>".toList]))

def userLines (user : PermissionUser) : List Text :=
  valueText "    <User uuid=\"" user.uuid "\">" ::
    ((user.groups.elems.map fun group => valueText "      <Group name=\"" group "\" />") ++
      ((user.nodes.elems.map fun node => valueText "      <Node value=\"" node "\" />") ++ ["    </User>".toList]))

def storeLines (store : PermissionStore) : List Text :=
  ["<?xml version=\"1.0\"?>".toList, "<Permissions>".toList, "  <Groups>".toList] ++
    ((store.groups.entries.flatMap fun entry => groupLines entry.2) ++
      (["  </Groups>".toList, "  <Users>".toList] ++
        ((store.users.entries.flatMap fun entry => userLines entry.2) ++
          ["  </Users>".toList, "</Permissions>".toList])))

lemma valueLine_eq (before value after : String) :
    valueLine before value after = valueText before value after ++ ['\n'] := rfl

lemma groupText_eq (group : PermissionGroup) : groupText group = (groupLines group).flatMap (· ++ ['\n']) := by
  have hclose : "    </Group>\n".toList = "    </Group>".toList ++ ['\n'] := rfl
  simp only [groupText, groupLines, valueLine_eq, hclose, List.flatMap_cons, List.flatMap_append, List.flatMap_map,
    List.flatMap_nil, List.append_nil, List.append_assoc]

lemma userText_eq (user : PermissionUser) : userText user = (userLines user).flatMap (· ++ ['\n']) := by
  have hclose : "    </User>\n".toList = "    </User>".toList ++ ['\n'] := rfl
  simp only [userText, userLines, valueLine_eq, hclose, List.flatMap_cons, List.flatMap_append, List.flatMap_map,
    List.flatMap_nil, List.append_nil, List.append_assoc]

theorem savePermissions_eq (store : PermissionStore) :
    savePermissions store = (storeLines store).flatMap (· ++ ['\n']) := by
  have hopen : "<?xml version=\"1.0\"?>\n<Permissions>\n  <Groups>\n".toList =
      ["<?xml version=\"1.0\"?>".toList, "<Permissions>".toList, "  <Groups>".toList].flatMap (· ++ ['\n']) := by
    simp
  have hbetween : "  </Groups>\n  <Users>\n".toList =
      ["  </Groups>".toList, "  <Users>".toList].flatMap (· ++ ['\n']) := by simp
  have hclose : "  </Users>\n</Permissions>\n".toList =
      ["  </Users>".toList, "</Permissions>".toList].flatMap (· ++ ['\n']) := by simp
  unfold savePermissions storeLines
  simp only [List.flatMap_append, List.append_assoc]
  refine congrArg₂ (· ++ ·) hopen (congrArg₂ (· ++ ·) ?_ (congrArg₂ (· ++ ·) hbetween (congrArg₂ (· ++ ·) ?_ hclose)))
  · simp only [List.flatMap_assoc, groupText_eq]
  · simp only [List.flatMap_assoc, userText_eq]

/-! ### Stores without a line feed -/

structure PermissionUser.OneLine (user : PermissionUser) : Prop where
  uuid : '\n' ∉ user.uuid.toList
  nodes : ∀ node ∈ user.nodes, '\n' ∉ node.toList
  groups : ∀ group ∈ user.groups, '\n' ∉ group.toList

structure PermissionGroup.OneLine (group : PermissionGroup) : Prop where
  name : '\n' ∉ group.name.toList
  nodes : ∀ node ∈ group.nodes, '\n' ∉ node.toList
  parents : ∀ parent ∈ group.parents, '\n' ∉ parent.toList

/-- No text of the store has a line feed in it. -/
structure PermissionStore.OneLine (store : PermissionStore) : Prop where
  users : Dict.All (fun _ user => user.OneLine) store.users
  groups : Dict.All (fun _ group => group.OneLine) store.groups

instance (user : PermissionUser) : Decidable user.OneLine :=
  decidable_of_iff ('\n' ∉ user.uuid.toList ∧ (∀ node ∈ user.nodes.elems, '\n' ∉ node.toList) ∧
      ∀ group ∈ user.groups.elems, '\n' ∉ group.toList)
    ⟨fun h => ⟨h.1, h.2.1, h.2.2⟩, fun h => ⟨h.uuid, h.nodes, h.groups⟩⟩

instance (group : PermissionGroup) : Decidable group.OneLine :=
  decidable_of_iff ('\n' ∉ group.name.toList ∧ (∀ node ∈ group.nodes.elems, '\n' ∉ node.toList) ∧
      ∀ parent ∈ group.parents.elems, '\n' ∉ parent.toList)
    ⟨fun h => ⟨h.1, h.2.1, h.2.2⟩, fun h => ⟨h.name, h.nodes, h.parents⟩⟩

instance (store : PermissionStore) : Decidable store.OneLine :=
  decidable_of_iff (Dict.All (fun _ user => user.OneLine) store.users ∧
      Dict.All (fun _ group => group.OneLine) store.groups)
    ⟨fun h => ⟨h.1, h.2⟩, fun h => ⟨h.users, h.groups⟩⟩

lemma PermissionUser.Same.oneLine {user user' : PermissionUser} (h : user.Same user') (hone : user.OneLine) :
    user'.OneLine where
  uuid := h.uuid ▸ hone.uuid
  nodes := fun node hnode => hone.nodes node ((h.nodes node).mp hnode)
  groups := fun group hgroup => hone.groups group ((h.groups group).mp hgroup)

lemma PermissionGroup.Same.oneLine {group group' : PermissionGroup} (h : group.Same group') (hone : group.OneLine) :
    group'.OneLine where
  name := h.name ▸ hone.name
  nodes := fun node hnode => hone.nodes node ((h.nodes node).mp hnode)
  parents := fun parent hparent => hone.parents parent ((h.parents parent).mp hparent)

lemma PermissionStore.Same.oneLine {store store' : PermissionStore} (h : store.Same store') (hone : store.OneLine) :
    store'.OneLine where
  users := h.users.all (fun _ _ _ => PermissionUser.Same.oneLine) hone.users
  groups := h.groups.all (fun _ _ _ => PermissionGroup.Same.oneLine) hone.groups

lemma PermissionUser.Same.symm {user user' : PermissionUser} (h : user.Same user') : user'.Same user :=
  ⟨h.uuid.symm, h.nodes.symm, h.groups.symm⟩

lemma PermissionGroup.Same.symm {group group' : PermissionGroup} (h : group.Same group') : group'.Same group :=
  ⟨h.name.symm, h.nodes.symm, h.parents.symm⟩

lemma PermissionStore.Same.symm {store store' : PermissionStore} (h : store.Same store') : store'.Same store :=
  ⟨h.users.symm fun _ _ => PermissionUser.Same.symm, h.groups.symm fun _ _ => PermissionGroup.Same.symm⟩

lemma PermissionStore.Same.trans {store store' store'' : PermissionStore} (h : store.Same store')
    (h' : store'.Same store'') : store.Same store'' where
  users := h.users.trans (fun _ _ _ hab hbc =>
    ⟨hbc.uuid.trans hab.uuid, hab.nodes.trans hbc.nodes, hab.groups.trans hbc.groups⟩) h'.users
  groups := h.groups.trans (fun _ _ _ hab hbc =>
    ⟨hbc.name.trans hab.name, hab.nodes.trans hbc.nodes, hab.parents.trans hbc.parents⟩) h'.groups

/-! ### Reading back -/

/-- The user with the sets in the order they are read in. -/
def PermissionUser.reread (user : PermissionUser) : PermissionUser :=
  { user with nodes := setOf user.nodes.elems, groups := setOf user.groups.elems }

def PermissionGroup.reread (group : PermissionGroup) : PermissionGroup :=
  { group with nodes := setOf group.nodes.elems, parents := setOf group.parents.elems }

lemma PermissionUser.same_reread (user : PermissionUser) : user.Same user.reread :=
  ⟨rfl, HashSet.same_foldl_insert _, HashSet.same_foldl_insert _⟩

lemma PermissionGroup.same_reread (group : PermissionGroup) : group.Same group.reread :=
  ⟨rfl, HashSet.same_foldl_insert _, HashSet.same_foldl_insert _⟩

namespace LoadState

/-- In the section of the groups. -/
def inGroupsOf (groups : Dict String PermissionGroup) (currentGroup : Option String) : LoadState :=
  { store := { groups }, currentGroup, inGroups := true }

/-- In the section of the users. -/
def inUsersOf (groups : Dict String PermissionGroup) (users : Dict String PermissionUser)
    (currentUser : Option String) : LoadState :=
  { store := { groups, users }, currentUser, inUsers := true }

/-- Lines that enter their values into a set, one after the other. -/
lemma foldl_values {line : String → Text} {state : HashSet String → LoadState}
    (hread : ∀ set value, (state set).readLine (line value) = state (set.insert value)) (values : List String)
    (set : HashSet String) : (values.map line).foldl readLine (state set) = state (values.foldl HashSet.insert set) := by
  induction values generalizing set with
  | nil => rfl
  | cons value values ih => rw [List.map_cons, List.foldl_cons, hread, ih, List.foldl_cons]

/-- Entries that are read into a map, each under a key of its own. -/
lemma foldl_entries {α : Type} {text : α → List Text} {state : Dict String α → LoadState} {reread : α → α}
    {entries : List ((_ : String) × α)} (hnodup : entries.NodupKeys)
    (hread : ∀ e ∈ entries, ∀ d : Dict String α, e.1 ∉ d →
      (text e.2).foldl readLine (state d) = state (d.insert e.1 (reread e.2))) {d : Dict String α}
    (hnew : ∀ e ∈ entries, e.1 ∉ d) :
    (entries.flatMap fun e => text e.2).foldl readLine (state d) =
      state (entries.foldl (fun acc e => acc.insert e.1 (reread e.2)) d) := by
  induction entries generalizing d with
  | nil => rfl
  | cons e entries ih =>
    rw [List.nodupKeys_cons] at hnodup
    rw [List.forall_mem_cons] at hread hnew
    have hother : ∀ e' ∈ entries, e'.1 ∉ d.insert e.1 (reread e.2) := by
      intro e' he' hmem
      rcases (AList.mem_insert _).mp hmem with heq | hmem
      · exact hnodup.1 (heq ▸ List.mem_map_of_mem he')
      · exact hnew.2 e' he' hmem
    rw [List.flatMap_cons, List.foldl_append, hread.1 d hnew.1, ih hnodup.2 hread.2 hother, List.foldl_cons]

variable {groups : Dict String PermissionGroup} {users : Dict String PermissionUser} {name uuid : String}

lemma foldl_parents (parents : List String) (group : PermissionGroup) :
    (parents.map fun parent => valueText "      <Parent name=\"" parent "\" />").foldl readLine
        (inGroupsOf (groups.insert name group) (some name)) =
      inGroupsOf (groups.insert name { group with parents := parents.foldl HashSet.insert group.parents })
        (some name) := by
  refine @foldl_values _ (fun set => inGroupsOf (groups.insert name { group with parents := set }) (some name)) ?_
    parents group.parents
  intro set parent
  rw [readLine_parent]
  simp only [readParent, inGroupsOf, modifyGroup, Dict.modify_insert]

lemma foldl_groupNodes (nodes : List String) (group : PermissionGroup) :
    (nodes.map fun node => valueText "      <Node value=\"" node "\" />").foldl readLine
        (inGroupsOf (groups.insert name group) (some name)) =
      inGroupsOf (groups.insert name { group with nodes := nodes.foldl HashSet.insert group.nodes }) (some name) := by
  refine @foldl_values _ (fun set => inGroupsOf (groups.insert name { group with nodes := set }) (some name)) ?_
    nodes group.nodes
  intro set node
  have hmem : name ∈ groups.insert name { group with nodes := set } := (AList.mem_insert _).mpr (.inl rfl)
  rw [readLine_node]
  simp only [readNode, inGroupsOf, Option.filter_some, hmem, decide_true, if_true, modifyGroup, Dict.modify_insert]

lemma foldl_memberships (members : List String) (user : PermissionUser) :
    (members.map fun group => valueText "      <Group name=\"" group "\" />").foldl readLine
        (inUsersOf groups (users.insert uuid user) (some uuid)) =
      inUsersOf groups (users.insert uuid { user with groups := members.foldl HashSet.insert user.groups })
        (some uuid) := by
  refine @foldl_values _ (fun set => inUsersOf groups (users.insert uuid { user with groups := set }) (some uuid)) ?_
    members user.groups
  intro set group
  rw [readLine_member]
  simp only [readGroup, inUsersOf, modifyUser, Dict.modify_insert, if_true, Bool.false_eq_true, if_false]

lemma foldl_userNodes (nodes : List String) (user : PermissionUser) :
    (nodes.map fun node => valueText "      <Node value=\"" node "\" />").foldl readLine
        (inUsersOf groups (users.insert uuid user) (some uuid)) =
      inUsersOf groups (users.insert uuid { user with nodes := nodes.foldl HashSet.insert user.nodes })
        (some uuid) := by
  refine @foldl_values _ (fun set => inUsersOf groups (users.insert uuid { user with nodes := set }) (some uuid)) ?_
    nodes user.nodes
  intro set node
  rw [readLine_node]
  simp only [readNode, inUsersOf, Option.filter_none, modifyUser, Dict.modify_insert]

/-- A group that is new is read back whole. -/
lemma foldl_groupLines {group : PermissionGroup} (hnew : group.name ∉ groups) :
    (groupLines group).foldl readLine (inGroupsOf groups none) =
      inGroupsOf (groups.insert group.name group.reread) none := by
  have hread : (inGroupsOf groups none).readGroup group.name =
      inGroupsOf (groups.insert group.name { name := group.name }) (some group.name) := by
    simp only [readGroup, inGroupsOf, orInsertGroup, hnew, if_true, if_false]
  have hclose (s : LoadState) : s.readLine "    </Group>".toList =
      if s.inGroups then { s with currentGroup := none } else s := rfl
  rw [groupLines, List.foldl_cons, List.foldl_append, List.foldl_append, readLine_group, hread, foldl_parents,
    foldl_groupNodes, List.foldl_cons, List.foldl_nil, hclose]
  rfl

/-- A user who is new is read back whole. -/
lemma foldl_userLines {user : PermissionUser} (hnew : user.uuid ∉ users) :
    (userLines user).foldl readLine (inUsersOf groups users none) =
      inUsersOf groups (users.insert user.uuid user.reread) none := by
  have hread : (inUsersOf groups users none).readUser user.uuid =
      inUsersOf groups (users.insert user.uuid { uuid := user.uuid }) (some user.uuid) := by
    simp only [readUser, inUsersOf, hnew, if_false]
  have hclose (s : LoadState) : s.readLine "    </User>".toList = { s with currentUser := none } := rfl
  rw [userLines, List.foldl_cons, List.foldl_append, List.foldl_append, readLine_user, hread, foldl_memberships,
    foldl_userNodes, List.foldl_cons, List.foldl_nil, hclose]
  rfl

end LoadState

/-! ### The whole text -/

/-- Every entry is filed under its own name. -/
structure PermissionStore.Named (store : PermissionStore) : Prop where
  users : Dict.All (fun uuid user => user.uuid = uuid) store.users
  groups : Dict.All (fun name group => group.name = name) store.groups

lemma PermissionStore.Same.named {store store' : PermissionStore} (h : store.Same store') (hnamed : store.Named) :
    store'.Named where
  users := h.users.all (fun _ _ _ hsame heq => hsame.uuid.trans heq) hnamed.users
  groups := h.groups.all (fun _ _ _ hsame heq => hsame.name.trans heq) hnamed.groups

/-- A line that is not cut further or shortened. -/
def Whole (line : Text) : Prop := '\n' ∉ line ∧ line.getLast? ≠ some '\r'

lemma whole_valueText {before value after : String} (hvalue : '\n' ∉ value.toList) (hbefore : '\n' ∉ before.toList)
    (hafter : '\n' ∉ after.toList) (hlast : after.toList.getLast? = some '>') :
    Whole (valueText before value after) := by
  have hend : (valueText before value after).getLast? = some '>' := by
    rw [valueText, List.getLast?_append, List.getLast?_append, hlast]
    rfl
  refine ⟨?_, ?_⟩
  · simp only [valueText, List.mem_append, not_or]
    exact ⟨hbefore, newline_notMem_escape hvalue, hafter⟩
  · rw [hend]
    decide

lemma whole_groupLines {group : PermissionGroup} (h : group.OneLine) : ∀ line ∈ groupLines group, Whole line := by
  intro line hline
  simp only [groupLines, List.mem_cons, List.mem_append, List.mem_map, List.not_mem_nil, or_false] at hline
  rcases hline with rfl | ⟨parent, hparent, rfl⟩ | ⟨node, hnode, rfl⟩ | rfl
  · exact whole_valueText h.name (by decide) (by decide) rfl
  · exact whole_valueText (h.parents parent hparent) (by decide) (by decide) rfl
  · exact whole_valueText (h.nodes node hnode) (by decide) (by decide) rfl
  · exact ⟨by decide, by decide⟩

lemma whole_userLines {user : PermissionUser} (h : user.OneLine) : ∀ line ∈ userLines user, Whole line := by
  intro line hline
  simp only [userLines, List.mem_cons, List.mem_append, List.mem_map, List.not_mem_nil, or_false] at hline
  rcases hline with rfl | ⟨group, hgroup, rfl⟩ | ⟨node, hnode, rfl⟩ | rfl
  · exact whole_valueText h.uuid (by decide) (by decide) rfl
  · exact whole_valueText (h.groups group hgroup) (by decide) (by decide) rfl
  · exact whole_valueText (h.nodes node hnode) (by decide) (by decide) rfl
  · exact ⟨by decide, by decide⟩

lemma whole_storeLines {store : PermissionStore} (h : store.OneLine) : ∀ line ∈ storeLines store, Whole line := by
  have hopen : ∀ line ∈ ["<?xml version=\"1.0\"?>".toList, "<Permissions>".toList, "  <Groups>".toList],
      Whole line := by
    simp only [List.forall_mem_cons]
    exact ⟨⟨by decide, by decide⟩, ⟨by decide, by decide⟩, ⟨by decide, by decide⟩, fun _ hnil => nomatch hnil⟩
  have hbetween : ∀ line ∈ ["  </Groups>".toList, "  <Users>".toList], Whole line := by
    simp only [List.forall_mem_cons]
    exact ⟨⟨by decide, by decide⟩, ⟨by decide, by decide⟩, fun _ hnil => nomatch hnil⟩
  have hclose : ∀ line ∈ ["  </Users>".toList, "</Permissions>".toList], Whole line := by
    simp only [List.forall_mem_cons]
    exact ⟨⟨by decide, by decide⟩, ⟨by decide, by decide⟩, fun _ hnil => nomatch hnil⟩
  have hgroups : ∀ line ∈ store.groups.entries.flatMap fun entry => groupLines entry.2, Whole line := by
    intro line hline
    obtain ⟨entry, hentry, hline⟩ := List.mem_flatMap.mp hline
    exact whole_groupLines (h.groups entry.1 entry.2 (AList.mem_lookup_iff.mpr hentry)) line hline
  have husers : ∀ line ∈ store.users.entries.flatMap fun entry => userLines entry.2, Whole line := by
    intro line hline
    obtain ⟨entry, hentry, hline⟩ := List.mem_flatMap.mp hline
    exact whole_userLines (h.users entry.1 entry.2 (AList.mem_lookup_iff.mpr hentry)) line hline
  simp only [storeLines, List.forall_mem_append]
  exact ⟨hopen, hgroups, hbetween, husers, hclose⟩

/-- What a store without a line feed comes back as. -/
lemma loadPermissions_savePermissions {store : PermissionStore} (hnamed : store.Named) (hone : store.OneLine) :
    loadPermissions (some (savePermissions store)) =
      { users := store.users.entries.foldl (fun acc e => acc.insert e.1 e.2.reread) ∅
        groups := store.groups.entries.foldl (fun acc e => acc.insert e.1 e.2.reread) ∅ } := by
  have hgroups : ∀ e ∈ store.groups.entries, e.2.name = e.1 := fun e he =>
    hnamed.groups e.1 e.2 (AList.mem_lookup_iff.mpr he)
  have husers : ∀ e ∈ store.users.entries, e.2.uuid = e.1 := fun e he =>
    hnamed.users e.1 e.2 (AList.mem_lookup_iff.mpr he)
  have hreadGroup : ∀ e ∈ store.groups.entries, ∀ d : Dict String PermissionGroup, e.1 ∉ d →
      (groupLines e.2).foldl LoadState.readLine (LoadState.inGroupsOf d none) =
        LoadState.inGroupsOf (d.insert e.1 e.2.reread) none := by
    intro e he d hnew
    rw [← hgroups e he] at hnew ⊢
    exact LoadState.foldl_groupLines hnew
  have hreadUser (groups : Dict String PermissionGroup) : ∀ e ∈ store.users.entries, ∀ d : Dict String PermissionUser,
      e.1 ∉ d → (userLines e.2).foldl LoadState.readLine (LoadState.inUsersOf groups d none) =
        LoadState.inUsersOf groups (d.insert e.1 e.2.reread) none := by
    intro e he d hnew
    rw [← husers e he] at hnew ⊢
    exact LoadState.foldl_userLines hnew
  have hlines : lines (savePermissions store) = storeLines store := by
    rw [savePermissions_eq]
    exact lines_flatMap (whole_storeLines hone)
  have hopen : ["<?xml version=\"1.0\"?>".toList, "<Permissions>".toList, "  <Groups>".toList].foldl
      LoadState.readLine {} = LoadState.inGroupsOf ∅ none := rfl
  have hbetween (groups : Dict String PermissionGroup) :
      ["  </Groups>".toList, "  <Users>".toList].foldl LoadState.readLine (LoadState.inGroupsOf groups none) =
        LoadState.inUsersOf groups ∅ none := rfl
  have hclose (groups : Dict String PermissionGroup) (users : Dict String PermissionUser) :
      (["  </Users>".toList, "</Permissions>".toList].foldl LoadState.readLine
        (LoadState.inUsersOf groups users none)).store = { users, groups } := rfl
  unfold loadPermissions
  dsimp only
  rw [hlines, storeLines, List.foldl_append, List.foldl_append, List.foldl_append, List.foldl_append, hopen,
    @LoadState.foldl_entries _ groupLines (LoadState.inGroupsOf · none) _ _ store.groups.nodupKeys hreadGroup ∅
      fun e _ => AList.notMem_empty e.1, hbetween,
    @LoadState.foldl_entries _ userLines (LoadState.inUsersOf _ · none) _ _ store.users.nodupKeys (hreadUser _) ∅
      fun e _ => AList.notMem_empty e.1, hclose]

/-- **A store without a line feed comes back.** -/
theorem same_loadPermissions {store : PermissionStore} (hnamed : store.Named) (hone : store.OneLine) :
    store.Same (loadPermissions (some (savePermissions store))) := by
  rw [loadPermissions_savePermissions hnamed hone]
  exact ⟨.foldl_insert PermissionUser.same_reread store.users, .foldl_insert PermissionGroup.same_reread store.groups⟩

/-! ### Nothing that is read has a line feed -/

namespace LoadState

variable {s : LoadState} {value : String}

lemma oneLine_modifyGroup {name : String} {f : PermissionGroup → PermissionGroup} (h : s.store.OneLine)
    (hf : ∀ group : PermissionGroup, group.OneLine → (f group).OneLine) : (s.modifyGroup name f).store.OneLine :=
  ⟨h.users, h.groups.modify hf⟩

lemma oneLine_modifyUser {uuid : String} {f : PermissionUser → PermissionUser} (h : s.store.OneLine)
    (hf : ∀ user : PermissionUser, user.OneLine → (f user).OneLine) : (s.modifyUser uuid f).store.OneLine :=
  ⟨h.users.modify hf, h.groups⟩

lemma forall_mem_insert {set : HashSet String} (hset : ∀ text ∈ set, '\n' ∉ text.toList) (hvalue : '\n' ∉ value.toList) :
    ∀ text ∈ set.insert value, '\n' ∉ text.toList := by
  intro text htext
  rcases HashSet.mem_insert.mp htext with rfl | htext
  · exact hvalue
  · exact hset text htext

lemma oneLine_readGroup (h : s.store.OneLine) (hvalue : '\n' ∉ value.toList) : (s.readGroup value).store.OneLine := by
  have hempty : ∀ text ∈ (∅ : HashSet String), '\n' ∉ text.toList := fun text htext =>
    absurd htext (HashSet.notMem_empty text)
  rw [readGroup.eq_def]
  split
  · unfold orInsertGroup
    dsimp only
    split
    · exact h
    · exact ⟨h.users, h.groups.insert ⟨hvalue, hempty, hempty⟩⟩
  · split
    · split
      · exact oneLine_modifyUser h fun user huser => ⟨huser.uuid, huser.nodes, forall_mem_insert huser.groups hvalue⟩
      · exact h
    · exact h

lemma oneLine_readUser (h : s.store.OneLine) (hvalue : '\n' ∉ value.toList) : (s.readUser value).store.OneLine := by
  have hempty : ∀ text ∈ (∅ : HashSet String), '\n' ∉ text.toList := fun text htext =>
    absurd htext (HashSet.notMem_empty text)
  unfold readUser
  dsimp only
  split
  · exact h
  · exact ⟨h.users.insert ⟨hvalue, hempty, hempty⟩, h.groups⟩

lemma oneLine_readParent (h : s.store.OneLine) (hvalue : '\n' ∉ value.toList) : (s.readParent value).store.OneLine := by
  unfold readParent
  split
  · exact oneLine_modifyGroup h fun group hgroup => ⟨hgroup.name, hgroup.nodes, forall_mem_insert hgroup.parents hvalue⟩
  · exact h

lemma oneLine_readNode (h : s.store.OneLine) (hvalue : '\n' ∉ value.toList) : (s.readNode value).store.OneLine := by
  unfold readNode
  split
  · exact oneLine_modifyGroup h fun group hgroup => ⟨hgroup.name, forall_mem_insert hgroup.nodes hvalue, hgroup.parents⟩
  · split
    · exact oneLine_modifyUser h fun user huser => ⟨huser.uuid, forall_mem_insert huser.nodes hvalue, huser.groups⟩
    · exact h

lemma store_readTag {trimmed : Text} {s' : LoadState} (h : s.readTag trimmed = some s') : s'.store = s.store := by
  unfold readTag at h
  split_ifs at h <;> cases h <;> rfl

lemma oneLine_readValue {trimmed : Text} (h : s.store.OneLine) (hline : '\n' ∉ trimmed) :
    (s.readValue trimmed).store.OneLine := by
  have hattr {name : String} {read : String → LoadState}
      (hread : ∀ value : String, '\n' ∉ value.toList → (read value).store.OneLine) :
      (((attr trimmed name).map read).getD s).store.OneLine := by
    cases hvalue : attr trimmed name with
    | none => exact h
    | some value => exact hread value (newline_notMem_attr hline hvalue)
  unfold readValue
  split
  · exact hattr fun value => oneLine_readGroup h
  · split
    · exact hattr fun value => oneLine_readUser h
    · split
      · exact hattr fun value => oneLine_readParent h
      · split
        · exact hattr fun value => oneLine_readNode h
        · exact h

lemma newline_notMem_trim {line : Text} (h : '\n' ∉ line) : '\n' ∉ (trim (String.ofList line)).toList := by
  rw [trim, String.toList_ofList, String.toList_ofList]
  intro hmem
  have hdrop := (List.rdropWhile_prefix isWhitespace _).subset hmem
  exact h ((List.dropWhile_sublist isWhitespace).subset hdrop)

lemma oneLine_readTrimmed {trimmed : Text} (h : s.store.OneLine) (hline : '\n' ∉ trimmed) :
    ((s.readTag trimmed).getD (s.readValue trimmed)).store.OneLine := by
  rcases Option.eq_none_or_eq_some (s.readTag trimmed) with htag | ⟨s', htag⟩
  · rw [htag, Option.getD_none]
    exact oneLine_readValue h hline
  · rw [htag, Option.getD_some, store_readTag htag]
    exact h

lemma oneLine_readLine {line : Text} (h : s.store.OneLine) (hline : '\n' ∉ line) : (s.readLine line).store.OneLine := by
  have hread := oneLine_readTrimmed h (newline_notMem_trim hline)
  unfold readLine
  exact hread

lemma oneLine_foldl {ls : List Text} (h : s.store.OneLine) (hls : ∀ line ∈ ls, '\n' ∉ line) :
    (ls.foldl readLine s).store.OneLine := by
  induction ls generalizing s with
  | nil => exact h
  | cons line ls ih =>
    rw [List.forall_mem_cons] at hls
    have hread := oneLine_readLine h hls.1
    rw [List.foldl_cons]
    exact ih hread hls.2

end LoadState

/-- **What is loaded has no line feed in it**, whatever the file holds. -/
theorem oneLine_loadPermissions (file : Option Text) : (loadPermissions file).OneLine := by
  cases file with
  | none => exact ⟨.empty, .empty⟩
  | some text => exact LoadState.oneLine_foldl ⟨.empty, .empty⟩ fun line hline => notMem_of_mem_lines hline

/-! ### The operations of the manager -/

namespace PermissionManager

inductive Operation
  | ensureDefaults
  | getOrCreateUser (uuid : String)
  | addUserNode (uuid node : String)
  | removeUserNode (uuid node : String)
  | addUserToGroup (uuid group : String)
  | removeUserFromGroup (uuid group : String)
  | getOrCreateGroup (group : String)
  | addGroupNode (group node : String)
  | removeGroupNode (group node : String)
  | addGroupParent (group parent : String)
  | removeGroupParent (group parent : String)
  | deleteGroup (group : String)
  deriving DecidableEq

def perform (store : PermissionStore) : Operation → PermissionStore
  | .ensureDefaults => ensureDefaults store
  | .getOrCreateUser uuid => getOrCreateUser uuid store
  | .addUserNode uuid node => addUserNode uuid node store
  | .removeUserNode uuid node => removeUserNode uuid node store
  | .addUserToGroup uuid group => addUserToGroup uuid group store
  | .removeUserFromGroup uuid group => removeUserFromGroup uuid group store
  | .getOrCreateGroup group => getOrCreateGroup group store
  | .addGroupNode group node => addGroupNode group node store
  | .removeGroupNode group node => removeGroupNode group node store
  | .addGroupParent group parent => addGroupParent group parent store
  | .removeGroupParent group parent => removeGroupParent group parent store
  | .deleteGroup group => deleteGroup group store

variable {store : PermissionStore}

lemma named_modifyUsers (h : store.Named) {uuid : String} {f : PermissionUser → PermissionUser}
    (hf : ∀ user, (f user).uuid = user.uuid) : PermissionStore.Named { store with users := store.users.modify uuid f } :=
  ⟨h.users.modify fun user huser => (hf user).trans huser, h.groups⟩

lemma named_modifyGroups (h : store.Named) {name : String} {f : PermissionGroup → PermissionGroup}
    (hf : ∀ group, (f group).name = group.name) :
    PermissionStore.Named { store with groups := store.groups.modify name f } :=
  ⟨h.users, h.groups.modify fun group hgroup => (hf group).trans hgroup⟩

lemma named_orInsertGroup (h : store.Named) (group : PermissionGroup) : (orInsertGroup group store).Named := by
  unfold orInsertGroup
  split
  · exact h
  · exact ⟨h.users, h.groups.insert rfl⟩

lemma named_getOrCreateUser (h : store.Named) (uuid : String) : (getOrCreateUser uuid store).Named := by
  unfold getOrCreateUser
  split
  · exact h
  · exact ⟨h.users.insert rfl, h.groups⟩

lemma named_getOrCreateGroup (h : store.Named) (group : String) : (getOrCreateGroup group store).Named := by
  unfold getOrCreateGroup
  dsimp only
  split
  · exact h
  · exact named_orInsertGroup h _

lemma named_deleteGroup (h : store.Named) (group : String) : (deleteGroup group store).Named := by
  unfold deleteGroup
  dsimp only
  split
  · exact h
  · exact ⟨h.users.mapValues fun _ _ huser => huser, h.groups.erase.mapValues fun _ _ hgroup => hgroup⟩

lemma named_perform (h : store.Named) (operation : Operation) : (perform store operation).Named := by
  cases operation with
  | ensureDefaults => exact named_orInsertGroup (named_orInsertGroup (named_orInsertGroup h _) _) _
  | getOrCreateUser uuid => exact named_getOrCreateUser h uuid
  | addUserNode uuid node => exact named_modifyUsers (named_getOrCreateUser h uuid) fun _ => rfl
  | removeUserNode uuid node => exact named_modifyUsers h fun _ => rfl
  | addUserToGroup uuid group => exact named_modifyUsers (named_getOrCreateUser h uuid) fun _ => rfl
  | removeUserFromGroup uuid group => exact named_modifyUsers h fun _ => rfl
  | getOrCreateGroup group => exact named_getOrCreateGroup h group
  | addGroupNode group node => exact named_modifyGroups (named_getOrCreateGroup h group) fun _ => rfl
  | removeGroupNode group node => exact named_modifyGroups h fun _ => rfl
  | addGroupParent group parent =>
    exact named_modifyGroups (named_getOrCreateGroup (named_getOrCreateGroup h group) parent) fun _ => rfl
  | removeGroupParent group parent => exact named_modifyGroups h fun _ => rfl
  | deleteGroup group => exact named_deleteGroup h group

theorem named_foldl_perform (h : store.Named) (operations : List Operation) : (operations.foldl perform store).Named := by
  induction operations generalizing store with
  | nil => exact h
  | cons operation operations ih => exact ih (named_perform h operation)

end PermissionManager

/-! ### A restart -/

/-- **A store comes back exactly when no text in it has a line feed.**  `written` is the store in the order its
sets and maps are written in. -/
theorem same_after_restart_iff (operations : List Operation) {written : PermissionStore}
    (hwritten : (operations.foldl perform {}).Same written) :
    (operations.foldl perform {}).Same (loadPermissions (some (savePermissions written))) ↔
      (operations.foldl perform {}).OneLine := by
  constructor
  · intro hsame
    exact hsame.symm.oneLine (oneLine_loadPermissions _)
  · intro hone
    have hempty : PermissionStore.Named {} := ⟨.empty, .empty⟩
    have hnamed := named_foldl_perform hempty operations
    exact hwritten.trans (same_loadPermissions (hwritten.named hnamed) (hwritten.oneLine hone))

/-- A denied node with every character that is escaped. -/
def deniedQuote : List Operation :=
  [.ensureDefaults, .addUserNode "<player>" " -say.\"&quot;\" ", .addUserToGroup "<player>" "a & b"]

theorem same_after_restart_iff_deniedQuote : (deniedQuote.foldl perform {}).Same
    (loadPermissions (some (savePermissions (deniedQuote.foldl perform {})))) :=
  (same_after_restart_iff deniedQuote (.refl _)).mpr (by decide +kernel)

/-- A denied node with a line feed. -/
def deniedLines : List Operation := [.addUserNode "player" "-say.a\nb"]

theorem not_same_after_restart : ¬ (deniedLines.foldl perform {}).Same
    (loadPermissions (some (savePermissions (deniedLines.foldl perform {})))) := by
  intro hsame
  have hlines : ¬ (deniedLines.foldl perform {}).OneLine := by decide +kernel
  exact hlines (hsame.symm.oneLine (oneLine_loadPermissions _))

end BasisRust.Permissions
