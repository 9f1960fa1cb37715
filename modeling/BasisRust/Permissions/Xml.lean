import BasisRust.Lib.Text
import BasisRust.Permissions.Manager

/-!
# Permissions: the file

`save_permissions` writes the store line by line, `load_permissions` reads the lines with a note of the
section and the entry it is in.  A text is its characters; the sets and maps are written in their order of
iteration.
-/

namespace BasisRust.Permissions

open BasisRust.Lib PermissionManager

abbrev Text := List Char

/-! ### Writing -/

def escape (value : String) : Text :=
  replaceOne '>' "&gt;".toList (replaceOne '<' "&lt;".toList
    (replaceOne '"' "&quot;".toList (replaceOne '&' "&amp;".toList value.toList)))

def unescape (value : Text) : String :=
  String.ofList (replaceAll '&' "amp;".toList ['&'] (replaceAll '&' "gt;".toList ['>']
    (replaceAll '&' "lt;".toList ['<'] (replaceAll '&' "quot;".toList ['"'] value))))

/-- A line of the file: what is in front of the value, the value, and what closes it. -/
def valueLine (before value after : String) : Text :=
  before.toList ++ (escape value ++ after.toList) ++ ['\n']

def groupText (group : PermissionGroup) : Text :=
  valueLine "    <Group name=\"" group.name "\">" ++
    (group.parents.elems.flatMap fun parent => valueLine "      <Parent name=\"" parent "\" />") ++
    (group.nodes.elems.flatMap fun node => valueLine "      <Node value=\"" node "\" />") ++
    "    </Group>\n".toList

def userText (user : PermissionUser) : Text :=
  valueLine "    <User uuid=\"" user.uuid "\">" ++
    (user.groups.elems.flatMap fun group => valueLine "      <Group name=\"" group "\" />") ++
    (user.nodes.elems.flatMap fun node => valueLine "      <Node value=\"" node "\" />") ++
    "    </User>\n".toList

/-- The text that is written. -/
def savePermissions (store : PermissionStore) : Text :=
  "<?xml version=\"1.0\"?>\n<Permissions>\n  <Groups>\n".toList ++
    (store.groups.entries.flatMap fun entry => groupText entry.2) ++
    "  </Groups>\n  <Users>\n".toList ++
    (store.users.entries.flatMap fun entry => userText entry.2) ++
    "  </Users>\n</Permissions>\n".toList

/-! ### Reading -/

/-- The value of the first attribute of the name, up to the next quote. -/
def attr (line : Text) (name : String) : Option String := do
  let rest ← afterFirst (name ++ "=\"").toList line
  let len ← rest.findIdx? fun c => c = '"'
  return unescape (rest.take len)

structure LoadState where
  store : PermissionStore := {}
  currentGroup : Option String := none
  currentUser : Option String := none
  inGroups : Bool := false
  inUsers : Bool := false

namespace LoadState

def modifyGroup (name : String) (f : PermissionGroup → PermissionGroup) (s : LoadState) : LoadState :=
  { s with store := { s.store with groups := s.store.groups.modify name f } }

def modifyUser (uuid : String) (f : PermissionUser → PermissionUser) (s : LoadState) : LoadState :=
  { s with store := { s.store with users := s.store.users.modify uuid f } }

def readGroup (name : String) (s : LoadState) : LoadState :=
  if s.inGroups then { s with currentGroup := some name, store := orInsertGroup { name } s.store }
  else if s.inUsers then
    match s.currentUser with
    | some uuid => s.modifyUser uuid fun user => { user with groups := user.groups.insert name }
    | none => s
  else s

def readUser (uuid : String) (s : LoadState) : LoadState :=
  { s with
    currentUser := some uuid
    store :=
      if uuid ∈ s.store.users then s.store
      else { s.store with users := s.store.users.insert uuid { uuid } } }

def readParent (parent : String) (s : LoadState) : LoadState :=
  match s.currentGroup with
  | some name => s.modifyGroup name fun group => { group with parents := group.parents.insert parent }
  | none => s

/-- The node is the one of the current group if there is one, else of the current user. -/
def readNode (node : String) (s : LoadState) : LoadState :=
  match s.currentGroup.filter fun name => name ∈ s.store.groups with
  | some name => s.modifyGroup name fun group => { group with nodes := group.nodes.insert node }
  | none =>
    match s.currentUser with
    | some uuid => s.modifyUser uuid fun user => { user with nodes := user.nodes.insert node }
    | none => s

/-- The lines that carry no value. -/
def readTag (trimmed : Text) (s : LoadState) : Option LoadState :=
  if trimmed = "<Groups>".toList then some { s with inGroups := true, inUsers := false }
  else if trimmed = "</Groups>".toList then some { s with inGroups := false, currentGroup := none }
  else if trimmed = "<Users>".toList then some { s with inUsers := true, inGroups := false }
  else if trimmed = "</Users>".toList then some { s with inUsers := false, currentUser := none }
  else if trimmed = "</Group>".toList then some (if s.inGroups then { s with currentGroup := none } else s)
  else if trimmed = "</User>".toList then some { s with currentUser := none }
  else none

/-- The lines that carry a value. -/
def readValue (trimmed : Text) (s : LoadState) : LoadState :=
  if "<Group ".toList.isPrefixOf trimmed then ((attr trimmed "name").map fun name => s.readGroup name).getD s
  else if "<User ".toList.isPrefixOf trimmed then ((attr trimmed "uuid").map fun uuid => s.readUser uuid).getD s
  else if "<Parent ".toList.isPrefixOf trimmed then
    ((attr trimmed "name").map fun parent => s.readParent parent).getD s
  else if "<Node ".toList.isPrefixOf trimmed then ((attr trimmed "value").map fun node => s.readNode node).getD s
  else s

/-- One round of the loop over the lines. -/
def readLine (s : LoadState) (line : Text) : LoadState :=
  let trimmed := (trim (String.ofList line)).toList
  (s.readTag trimmed).getD (s.readValue trimmed)

end LoadState

/-- No file is an empty store. -/
def loadPermissions (file : Option Text) : PermissionStore :=
  match file with
  | none => {}
  | some text => ((lines text).foldl LoadState.readLine {}).store

end BasisRust.Permissions
