import BasisRust.Permissions.Manager

/-!
# Permissions: changes that change nothing

Two stores are the same if they hold the same users and groups with the same names in every set, in whatever
order.  For each operation of the manager: the stores it leaves the same.
-/

namespace BasisRust.Permissions

open BasisRust.Lib

structure PermissionUser.Same (user user' : PermissionUser) : Prop where
  uuid : user'.uuid = user.uuid
  nodes : user.nodes.Same user'.nodes
  groups : user.groups.Same user'.groups

structure PermissionGroup.Same (group group' : PermissionGroup) : Prop where
  name : group'.name = group.name
  nodes : group.nodes.Same group'.nodes
  parents : group.parents.Same group'.parents

structure PermissionStore.Same (store store' : PermissionStore) : Prop where
  users : Dict.Rel PermissionUser.Same store.users store'.users
  groups : Dict.Rel PermissionGroup.Same store.groups store'.groups

@[simp] lemma PermissionUser.Same.refl (user : PermissionUser) : user.Same user := ⟨rfl, .refl _, .refl _⟩

@[simp] lemma PermissionGroup.Same.refl (group : PermissionGroup) : group.Same group := ⟨rfl, .refl _, .refl _⟩

@[simp] lemma PermissionStore.Same.refl (store : PermissionStore) : store.Same store :=
  ⟨.refl PermissionUser.Same.refl _, .refl PermissionGroup.Same.refl _⟩

lemma same_users_iff {store : PermissionStore} {users : Dict String PermissionUser} :
    store.Same { store with users } ↔ Dict.Rel PermissionUser.Same store.users users :=
  ⟨fun h => h.users, fun h => ⟨h, .refl PermissionGroup.Same.refl _⟩⟩

lemma same_groups_iff {store : PermissionStore} {groups : Dict String PermissionGroup} :
    store.Same { store with groups } ↔ Dict.Rel PermissionGroup.Same store.groups groups :=
  ⟨fun h => h.groups, fun h => ⟨.refl PermissionUser.Same.refl _, h⟩⟩

namespace PermissionManager

variable {store : PermissionStore} {uuid group node parent : String}

/-! ### Users -/

/-- The user is there already, and the change does nothing to it. -/
lemma same_modify_getOrCreateUser {change : PermissionUser → PermissionUser} :
    store.Same { getOrCreateUser uuid store with
        users := (getOrCreateUser uuid store).users.modify uuid change } ↔
      ∃ user, store.users.lookup uuid = some user ∧ user.Same (change user) := by
  by_cases huser : uuid ∈ store.users
  · obtain ⟨user, hlookup⟩ := Dict.mem_iff_lookup.mp huser
    have hstore : getOrCreateUser uuid store = store := if_pos huser
    rw [hstore, same_users_iff, Dict.Rel.modify_iff PermissionUser.Same.refl]
    simp only [hlookup, Option.some.injEq, forall_eq', exists_eq_left']
  · refine iff_of_false (fun h => huser ?_) ?_
    · refine (h.users.mem_iff uuid).mp (Dict.mem_modify.mpr ?_)
      rw [getOrCreateUser, if_neg huser]
      exact (AList.mem_insert _).mpr (.inl rfl)
    · rintro ⟨user, hlookup, -⟩
      exact huser (Dict.mem_iff_lookup.mpr ⟨user, hlookup⟩)

theorem same_addUserNode_iff : store.Same (addUserNode uuid node store) ↔
    ∃ user, store.users.lookup uuid = some user ∧ trim node ∈ user.nodes := by
  refine same_modify_getOrCreateUser.trans (exists_congr fun user => and_congr_right fun _ => ?_)
  exact ⟨fun h => HashSet.same_insert.mp h.nodes, fun h => ⟨rfl, HashSet.same_insert.mpr h, .refl _⟩⟩

theorem same_addUserToGroup_iff : store.Same (addUserToGroup uuid group store) ↔
    ∃ user, store.users.lookup uuid = some user ∧ trim group ∈ user.groups := by
  refine same_modify_getOrCreateUser.trans (exists_congr fun user => and_congr_right fun _ => ?_)
  exact ⟨fun h => HashSet.same_insert.mp h.groups, fun h => ⟨rfl, .refl _, HashSet.same_insert.mpr h⟩⟩

/-! ### Groups -/

/-- The group needs no entry of its own, or has it. -/
def Present (group : String) (store : PermissionStore) : Prop := trim group = "" ∨ trim group ∈ store.groups

instance (group : String) (store : PermissionStore) : Decidable (Present group store) :=
  inferInstanceAs (Decidable (_ ∨ _))

lemma getOrCreateGroup_of_present (h : Present group store) : getOrCreateGroup group store = store := by
  unfold getOrCreateGroup
  dsimp only
  split
  next => rfl
  next hne => exact if_pos (h.resolve_left hne)

lemma mem_groups_getOrCreateGroup {name : String} : name ∈ (getOrCreateGroup group store).groups ↔
    name ∈ store.groups ∨ (name = trim group ∧ trim group ≠ "") := by
  unfold getOrCreateGroup orInsertGroup
  dsimp only
  split
  next hempty => simp [hempty]
  next hne =>
    split
    next hmem =>
      refine (or_iff_left_of_imp ?_).symm
      rintro ⟨rfl, -⟩
      exact hmem
    next =>
      rw [AList.mem_insert, or_comm]
      simp [hne]

/-- What creates a group and keeps all others is only the same where the group is present. -/
lemma present_of_same {store' : PermissionStore}
    (hgroups : ∀ name, name ∈ (getOrCreateGroup group store).groups → name ∈ store'.groups)
    (h : store.Same store') : Present group store := by
  by_cases hempty : trim group = ""
  · exact .inl hempty
  · exact .inr ((h.groups.mem_iff _).mp (hgroups _ (mem_groups_getOrCreateGroup.mpr (.inr ⟨rfl, hempty⟩))))

theorem same_getOrCreateGroup_iff : store.Same (getOrCreateGroup group store) ↔ Present group store := by
  constructor
  · exact present_of_same fun _ => id
  · intro h
    rw [getOrCreateGroup_of_present h]
    exact .refl store

lemma mem_groups_addGroupNode {name : String} : name ∈ (addGroupNode group node store).groups ↔
    name ∈ (getOrCreateGroup group store).groups := by
  unfold addGroupNode
  dsimp only
  rw [Dict.mem_modify]

lemma mem_groups_addGroupParent {name : String} : name ∈ (addGroupParent group parent store).groups ↔
    name ∈ (getOrCreateGroup parent (getOrCreateGroup group store)).groups := by
  unfold addGroupParent
  dsimp only
  rw [Dict.mem_modify]

theorem same_addGroupNode_iff : store.Same (addGroupNode group node store) ↔ Present group store ∧
    ∀ entry, store.groups.lookup (trim group) = some entry → trim node ∈ entry.nodes := by
  have hmodify : store.Same { store with
        groups := store.groups.modify (trim group) fun group => { group with nodes := group.nodes.insert (trim node) } } ↔
      ∀ entry, store.groups.lookup (trim group) = some entry → trim node ∈ entry.nodes := by
    rw [same_groups_iff, Dict.Rel.modify_iff PermissionGroup.Same.refl]
    refine forall₂_congr fun entry _ => ?_
    exact ⟨fun h => HashSet.same_insert.mp h.nodes, fun h => ⟨rfl, HashSet.same_insert.mpr h, .refl _⟩⟩
  constructor
  · intro h
    have hpresent : Present group store := present_of_same (fun _ => mem_groups_addGroupNode.mpr) h
    refine ⟨hpresent, hmodify.mp ?_⟩
    rwa [addGroupNode, getOrCreateGroup_of_present hpresent] at h
  · rintro ⟨hpresent, hnodes⟩
    rw [addGroupNode, getOrCreateGroup_of_present hpresent]
    exact hmodify.mpr hnodes

theorem same_addGroupParent_iff : store.Same (addGroupParent group parent store) ↔
    Present group store ∧ Present parent store ∧
      ∀ entry, store.groups.lookup (trim group) = some entry → trim parent ∈ entry.parents := by
  have hmodify : store.Same { store with
        groups := store.groups.modify (trim group) fun group =>
          { group with parents := group.parents.insert (trim parent) } } ↔
      ∀ entry, store.groups.lookup (trim group) = some entry → trim parent ∈ entry.parents := by
    rw [same_groups_iff, Dict.Rel.modify_iff PermissionGroup.Same.refl]
    refine forall₂_congr fun entry _ => ?_
    exact ⟨fun h => HashSet.same_insert.mp h.parents, fun h => ⟨rfl, .refl _, HashSet.same_insert.mpr h⟩⟩
  constructor
  · intro h
    have hgroup : Present group store := present_of_same
      (fun _ hname => mem_groups_addGroupParent.mpr (mem_groups_getOrCreateGroup.mpr (.inl hname))) h
    have hparent : Present parent store := by
      refine present_of_same (fun name hname => mem_groups_addGroupParent.mpr ?_) h
      rwa [getOrCreateGroup_of_present hgroup]
    rw [addGroupParent, getOrCreateGroup_of_present hgroup, getOrCreateGroup_of_present hparent] at h
    exact ⟨hgroup, hparent, hmodify.mp h⟩
  · rintro ⟨hgroup, hparent, hparents⟩
    rw [addGroupParent, getOrCreateGroup_of_present hgroup, getOrCreateGroup_of_present hparent]
    exact hmodify.mpr hparents

/-- Nobody knows the group. -/
structure Unused (group : String) (store : PermissionStore) : Prop where
  notMem : group ∉ store.groups
  users : ∀ uuid user, store.users.lookup uuid = some user → group ∉ user.groups
  groups : ∀ name entry, store.groups.lookup name = some entry → group ∉ entry.parents

theorem same_deleteGroup_iff : store.Same (deleteGroup group store) ↔
    trim group = "default" ∨ trim group = "" ∨ Unused (trim group) store := by
  unfold deleteGroup
  dsimp only
  split
  next hkept => exact iff_of_true (.refl store) (hkept.imp id .inl)
  next hkept =>
    rw [not_or] at hkept
    rw [or_iff_right hkept.1, or_iff_right hkept.2]
    have husers (user : PermissionUser) :
        user.Same { user with groups := user.groups.erase (trim group) } ↔ trim group ∉ user.groups :=
      ⟨fun h => HashSet.same_erase.mp h.groups, fun h => ⟨rfl, .refl _, HashSet.same_erase.mpr h⟩⟩
    have hparents (entry : PermissionGroup) :
        entry.Same { entry with parents := entry.parents.erase (trim group) } ↔ trim group ∉ entry.parents :=
      ⟨fun h => HashSet.same_erase.mp h.parents, fun h => ⟨rfl, .refl _, HashSet.same_erase.mpr h⟩⟩
    constructor
    · rintro ⟨hu, hg⟩
      have hnot : trim group ∉ store.groups := by
        intro hmem
        obtain ⟨entry, hentry⟩ := Dict.mem_iff_lookup.mp ((hg.mem_iff _).mpr hmem)
        rw [Dict.lookup_mapValues, AList.lookup_erase] at hentry
        cases hentry
      rw [Dict.erase_of_notMem hnot] at hg
      refine ⟨hnot, fun uuid user hlookup => ?_, fun name entry hlookup => ?_⟩
      · exact (husers user).mp (Dict.Rel.mapValues_iff.mp hu uuid user hlookup)
      · exact (hparents entry).mp (Dict.Rel.mapValues_iff.mp hg name entry hlookup)
    · rintro ⟨hnot, hu, hg⟩
      refine ⟨Dict.Rel.mapValues_iff.mpr fun uuid user hlookup => (husers user).mpr (hu uuid user hlookup), ?_⟩
      rw [Dict.erase_of_notMem hnot]
      exact Dict.Rel.mapValues_iff.mpr fun name entry hlookup => (hparents entry).mpr (hg name entry hlookup)

end PermissionManager
end BasisRust.Permissions
