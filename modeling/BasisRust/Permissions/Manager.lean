import BasisRust.Permissions.Effective
import BasisRust.Protocol.Permissions

/-!
# Permissions: the manager

The operations of `PermissionManager` on its store.  Names of groups and nodes are trimmed before they are
entered.
-/

namespace BasisRust.Permissions.PermissionManager

open BasisRust.Lib

/-- `HashSet` from the elements of a list. -/
def setOf (elems : List String) : HashSet String := elems.foldl HashSet.insert ∅

/-- The nodes of the group `moderator`. -/
def moderatorNodes : List String :=
  open Protocol.nodes in
  [moderationBan, moderationKick, moderationIpBan, moderationUnban, moderationUnbanIp, moderationMessage,
    moderationMessageAll, moderationTeleport, moderationShout, moderationGlobalLock, moderationHeadlessAudio,
    moderationOpusBitrate, permissionsView, resourceLockBypassAvatar, resourceLockBypassProp,
    resourceLockBypassWorld, resourceLockBypassServer]

/-- `entry(name).or_insert(group)` -/
def orInsertGroup (group : PermissionGroup) (store : PermissionStore) : PermissionStore :=
  if group.name ∈ store.groups then store
  else { store with groups := store.groups.insert group.name group }

def ensureDefaults (store : PermissionStore) : PermissionStore :=
  let store := orInsertGroup { name := "default", nodes := setOf Protocol.defaultGroupNodes } store
  let store := orInsertGroup
    { name := "moderator", nodes := setOf moderatorNodes, parents := setOf ["default"] } store
  orInsertGroup { name := "admin", nodes := setOf [Protocol.nodes.all], parents := setOf ["moderator"] } store

/-! ### Users -/

def getOrCreateUser (uuid : String) (store : PermissionStore) : PermissionStore :=
  if uuid ∈ store.users then store
  else { store with users := store.users.insert uuid { uuid, groups := setOf ["default"] } }

def addUserNode (uuid node : String) (store : PermissionStore) : PermissionStore :=
  let store := getOrCreateUser uuid store
  { store with users := store.users.modify uuid fun user => { user with nodes := user.nodes.insert (trim node) } }

def addUserToGroup (uuid group : String) (store : PermissionStore) : PermissionStore :=
  let store := getOrCreateUser uuid store
  { store with users := store.users.modify uuid fun user => { user with groups := user.groups.insert (trim group) } }

def removeUserNode (uuid node : String) (store : PermissionStore) : PermissionStore :=
  { store with users := store.users.modify uuid fun user => { user with nodes := user.nodes.erase (trim node) } }

def removeUserFromGroup (uuid group : String) (store : PermissionStore) : PermissionStore :=
  { store with users := store.users.modify uuid fun user => { user with groups := user.groups.erase (trim group) } }

/-! ### Groups -/

def getOrCreateGroup (group : String) (store : PermissionStore) : PermissionStore :=
  let group := trim group
  if group = "" then store else orInsertGroup { name := group } store

def addGroupNode (group node : String) (store : PermissionStore) : PermissionStore :=
  let store := getOrCreateGroup group store
  { store with
    groups := store.groups.modify (trim group) fun group => { group with nodes := group.nodes.insert (trim node) } }

def removeGroupNode (group node : String) (store : PermissionStore) : PermissionStore :=
  { store with
    groups := store.groups.modify (trim group) fun group => { group with nodes := group.nodes.erase (trim node) } }

def addGroupParent (group parent : String) (store : PermissionStore) : PermissionStore :=
  let store := getOrCreateGroup parent (getOrCreateGroup group store)
  { store with
    groups := store.groups.modify (trim group) fun group =>
      { group with parents := group.parents.insert (trim parent) } }

def removeGroupParent (group parent : String) (store : PermissionStore) : PermissionStore :=
  { store with
    groups := store.groups.modify (trim group) fun group =>
      { group with parents := group.parents.erase (trim parent) } }

def deleteGroup (group : String) (store : PermissionStore) : PermissionStore :=
  let group := trim group
  if group = "default" ∨ group = "" then store
  else
    { users := Dict.mapValues (fun user => { user with groups := user.groups.erase group }) store.users
      groups := Dict.mapValues (fun existing => { existing with parents := existing.parents.erase group })
        (store.groups.erase group) }

/-! ### Decisions -/

/-- The walk through the groups with as many steps as it can need. -/
def effectiveDecisions (store : PermissionStore) (uuid : String) : Decisions :=
  (Permissions.effectiveDecisions (store.groups.entries.length + 1) store uuid).getD ∅

def has (store : PermissionStore) (uuid node : String) : Bool := checkNode (effectiveDecisions store uuid) node

def allowedRules (store : PermissionStore) (uuid : String) : List String :=
  (effectiveDecisions store uuid).entries.filterMap fun e => if e.2 then some e.1 else none

def deniedRules (store : PermissionStore) (uuid : String) : List String :=
  (effectiveDecisions store uuid).entries.filterMap fun e => if e.2 then none else some e.1

/-- The walk does not run out of steps. -/
theorem effectiveDecisions_spec (store : PermissionStore) (uuid : String) :
    Permissions.effectiveDecisions (store.groups.entries.length + 1) store uuid =
      some (effectiveDecisions store uuid) ∧
    DenyWins (HasRule store uuid) (effectiveDecisions store uuid) := by
  obtain ⟨decisions, hwalk, hwins⟩ := exists_effectiveDecisions (Nat.lt_succ_self _) uuid
  have heq : effectiveDecisions store uuid = decisions := by
    rw [effectiveDecisions, hwalk]
    rfl
  exact ⟨heq ▸ hwalk, heq ▸ hwins⟩

end BasisRust.Permissions.PermissionManager
