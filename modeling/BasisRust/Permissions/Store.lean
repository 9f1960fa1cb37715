import Mathlib.Data.List.DropRight
import BasisRust.Lib.Dict
import BasisRust.Lib.HashSet
import BasisRust.Protocol.Permissions

/-!
# Permissions: the store and the decisions drawn from it

The data of `basis-server-permissions` and the functions behind `PermissionManager::has`.  The two
decisions of a raw rule are `true` (allow) and `false` (deny), as in the source.
-/

namespace BasisRust.Permissions

open BasisRust.Lib

structure PermissionUser where
  uuid : String
  nodes : HashSet String := ∅
  groups : HashSet String := ∅
  deriving DecidableEq

structure PermissionGroup where
  name : String
  nodes : HashSet String := ∅
  parents : HashSet String := ∅
  deriving DecidableEq

structure PermissionStore where
  users : Dict String PermissionUser := ∅
  groups : Dict String PermissionGroup := ∅

/-! ### `str` -/

/-- `char::is_whitespace`: the Unicode property White_Space -/
def isWhitespace (c : Char) : Bool :=
  let n := c.toNat
  (9 ≤ n && n ≤ 13) || n = 0x20 || n = 0x85 || n = 0xA0 || n = 0x1680 || (0x2000 ≤ n && n ≤ 0x200A) ||
    n = 0x2028 || n = 0x2029 || n = 0x202F || n = 0x205F || n = 0x3000

/-- `str::trim` -/
def trim (s : String) : String :=
  String.ofList ((s.toList.dropWhile isWhitespace).rdropWhile isWhitespace)

/-- What is trimmed stays as it is. -/
lemma trim_trim (s : String) : trim (trim s) = trim s := by
  unfold trim
  rw [String.toList_ofList]
  generalize hfront : s.toList.dropWhile isWhitespace = front
  congr 1
  have hhead : (front.rdropWhile isWhitespace).dropWhile isWhitespace = front.rdropWhile isWhitespace := by
    rw [List.dropWhile_eq_self_iff]
    intro hpos hspace
    have hkept := List.rdropWhile_prefix isWhitespace front
    have hself : front.dropWhile isWhitespace = front := by
      rw [← hfront, List.dropWhile_idempotent]
    rw [hkept.getElem hpos] at hspace
    exact List.dropWhile_eq_self_iff.mp hself (hpos.trans_le hkept.length_le) hspace
  rw [hhead, List.rdropWhile_idempotent]

/-- `str::strip_prefix` of one character -/
def stripPrefix (c : Char) (s : String) : Option String :=
  match s.toList with
  | c' :: cs => if c' = c then some (String.ofList cs) else none
  | [] => none

/-- The two sides of the last `c`. -/
def rsplitOnceChars (c : Char) : List Char → Option (List Char × List Char)
  | [] => none
  | c' :: cs =>
    match rsplitOnceChars c cs with
    | some (p, q) => some (c' :: p, q)
    | none => if c' = c then some ([], cs) else none

/-- `str::rsplit_once` of one character -/
def rsplitOnce (s : String) (c : Char) : Option (String × String) :=
  (rsplitOnceChars c s.toList).map fun (p, q) => (String.ofList p, String.ofList q)

lemma rsplitOnceChars_eq_none {c : Char} {l : List Char} : rsplitOnceChars c l = none ↔ c ∉ l := by
  induction l with
  | nil => simp [rsplitOnceChars]
  | cons c' cs ih =>
    rw [rsplitOnceChars, List.mem_cons, not_or]
    cases hcs : rsplitOnceChars c cs with
    | some pq =>
      have hmem : ¬ c ∉ cs := fun hc => by rw [ih.mpr hc] at hcs; cases hcs
      simp [hmem]
    | none =>
      have hmem : c ∉ cs := ih.mp hcs
      simp [hmem, eq_comm]

lemma rsplitOnceChars_eq_some {c : Char} {l p q : List Char} (h : rsplitOnceChars c l = some (p, q)) :
    l = p ++ c :: q ∧ c ∉ q := by
  induction l generalizing p with
  | nil => cases h
  | cons c' cs ih =>
    rw [rsplitOnceChars] at h
    cases hcs : rsplitOnceChars c cs with
    | some pq =>
      obtain ⟨p', q'⟩ := pq
      rw [hcs] at h
      obtain ⟨rfl, rfl⟩ : c' :: p' = p ∧ q' = q := by simpa using h
      obtain ⟨hl, hq⟩ := ih hcs
      exact ⟨by rw [hl, List.cons_append], hq⟩
    | none =>
      simp only [hcs, Option.ite_none_right_eq_some, Option.some.injEq, Prod.mk.injEq] at h
      obtain ⟨hc, rfl, rfl⟩ := h
      exact ⟨by rw [hc, List.nil_append], rsplitOnceChars_eq_none.mp hcs⟩

lemma rsplitOnce_eq_some {s p q : String} {c : Char} (h : rsplitOnce s c = some (p, q)) :
    s.toList = p.toList ++ c :: q.toList ∧ c ∉ q.toList := by
  obtain ⟨⟨p', q'⟩, hpq, heq⟩ := Option.map_eq_some_iff.mp h
  obtain ⟨rfl, rfl⟩ : String.ofList p' = p ∧ String.ofList q' = q := by simpa using heq
  rw [String.toList_ofList, String.toList_ofList]
  exact rsplitOnceChars_eq_some hpq

/-! ### Decisions -/

/-- The decision per node. -/
abbrev Decisions := Dict String Bool

/-- The loop body of `apply_raw_nodes`. -/
def applyRawNode (decisions : Decisions) (raw : String) : Decisions :=
  let raw := trim raw
  if raw = "" then decisions
  else
    let (node, allow) := ((stripPrefix '-' raw).map fun node => (trim node, false)).getD (raw, true)
    if node = "" then decisions
    else if decisions.lookup node = some false then decisions
    else decisions.insert node allow

def applyRawNodes (rawNodes : HashSet String) (decisions : Decisions) : Decisions :=
  rawNodes.elems.foldl applyRawNode decisions

/-- `apply_group`; the fuel bounds the depth of the recursion over parents. -/
def applyGroup (store : PermissionStore) : ℕ → String → HashSet String × Decisions →
    Option (HashSet String × Decisions)
  | 0, _, _ => none
  | fuel + 1, groupName, (visited, decisions) =>
    if groupName ∈ visited then some (visited, decisions)
    else
      let visited := visited.insert groupName
      match store.groups.lookup groupName with
      | none => some (visited, decisions)
      | some group => do
        let (visited, decisions) ←
          group.parents.elems.foldlM (fun s parent => applyGroup store fuel parent s) (visited, decisions)
        return (visited, applyRawNodes group.nodes decisions)

def effectiveDecisions (fuel : ℕ) (store : PermissionStore) (uuid : String) : Option Decisions :=
  match store.users.lookup uuid with
  | none => some ∅
  | some user => do
    let (_, decisions) ←
      user.groups.elems.foldlM (fun s group => applyGroup store fuel group s) (∅, ∅)
    return applyRawNodes user.nodes decisions

/-- The loop of `check_node`. -/
def checkWildcards (decisions : Decisions) (current : String) : Option Bool :=
  match _hsplit : rsplitOnce current '.' with
  | none => none
  | some (p, _) =>
    match decisions.lookup (p ++ ".*") with
    | some value => some value
    | none => checkWildcards decisions p
termination_by current.toList.length
decreasing_by
  rw [(rsplitOnce_eq_some _hsplit).1, List.length_append, List.length_cons]
  omega

def checkNode (decisions : Decisions) (node : String) : Bool :=
  let node := trim node
  if node = "" then false
  else
    match decisions.lookup node with
    | some value => value
    | none =>
      match checkWildcards decisions node with
      | some value => value
      | none => (decisions.lookup Protocol.nodes.all).getD false

/-- `PermissionManager::has` -/
def has (fuel : ℕ) (store : PermissionStore) (uuid node : String) : Option Bool := do
  let decisions ← effectiveDecisions fuel store uuid
  return checkNode decisions node

end BasisRust.Permissions
