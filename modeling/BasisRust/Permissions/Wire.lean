import BasisRust.Permissions.Manager

/-!
# The permissions a client is sent

The bit set of the metadata message against what `has` answers.  The encoder knows exact rules and the rule for
everything; a rule for all nodes behind a prefix it passes over, and it does not tell capitals from small letters.
-/

namespace BasisRust.Permissions

open BasisRust.Lib Protocol

/-- The same node but for capitals. -/
def SameLetters (node other : String) : Prop := toAsciiLowercase node = toAsciiLowercase other

instance (node other : String) : Decidable (SameLetters node other) :=
  inferInstanceAs (Decidable (_ = _))

/-! ### The bit set -/

/-- The first entry with a mark that no two entries share is the only one. -/
lemma findIdx?_eq_some_iff_of_nodup {α β : Type} [DecidableEq β] {mark : α → β} {table : List α}
    (hnodup : (table.map mark).Nodup) {i : ℕ} {known : α} (hknown : table[i]? = some known) (b : β) :
    (table.findIdx? fun a => mark a = b) = some i ↔ mark known = b := by
  obtain ⟨hi, rfl⟩ := List.getElem?_eq_some_iff.mp hknown
  rw [List.findIdx?_eq_some_iff_getElem]
  simp only [decide_eq_true_eq]
  constructor
  · rintro ⟨_, hsame, _⟩
    exact hsame
  · refine fun hsame => ⟨hi, hsame, fun j hj hother => ?_⟩
    have hapart := List.pairwise_iff_getElem.mp hnodup j i (by rw [List.length_map]; omega)
      (by rwa [List.length_map]) hj
    rw [List.getElem_map, List.getElem_map] at hapart
    exact hapart (hother.trans hsame.symm)

/-- The name has no capitals and no space. -/
def isPlain (node : String) : Bool :=
  node ≠ "" && node.toList.all fun c => c.toLower = c && !isWhitespace c

lemma plain_permissionWireNodes {node : String} (hnode : node ∈ permissionWireNodes) :
    node ≠ "" ∧ ∀ c ∈ node.toList, c.toLower = c ∧ isWhitespace c = false := by
  have hall : permissionWireNodes.all isPlain = true := by decide +kernel
  have hplain := List.all_eq_true.mp hall node hnode
  simpa [isPlain] using hplain

lemma trim_permissionWireNodes {node : String} (hnode : node ∈ permissionWireNodes) : trim node = node := by
  have hspace : ∀ c ∈ node.toList, ¬ isWhitespace c = true := fun c hc =>
    Bool.not_eq_true _ ▸ ((plain_permissionWireNodes hnode).2 c hc).2
  have hfront : node.toList.dropWhile isWhitespace = node.toList :=
    List.dropWhile_eq_self_iff.mpr fun _ => hspace _ (List.getElem_mem _)
  have hback : node.toList.rdropWhile isWhitespace = node.toList :=
    List.rdropWhile_eq_self_iff.mpr fun _ => hspace _ (List.getLast_mem _)
  rw [trim, hfront, hback, String.ofList_toList]

/-- No two nodes of the table are the same but for capitals. -/
lemma nodup_permissionWireNodes : (permissionWireNodes.map toAsciiLowercase).Nodup := by
  have hself : ∀ node ∈ permissionWireNodes, toAsciiLowercase node = node := by
    intro node hnode
    have hlower : node.toList.map Char.toLower = node.toList :=
      (List.map_congr_left fun c hc => ((plain_permissionWireNodes hnode).2 c hc).1).trans (List.map_id _)
    rw [toAsciiLowercase, hlower, String.ofList_toList]
  rw [List.map_congr_left hself, List.map_id']
  decide +kernel

lemma permissionWireIndex_eq_some_iff {node known : String} {i : ℕ} (hknown : permissionWireNodes[i]? = some known) :
    permissionWireIndex node = some i ↔ SameLetters known node :=
  findIdx?_eq_some_iff_of_nodup nodup_permissionWireNodes hknown _

lemma lt_of_permissionWireIndex {node : String} {i : ℕ} (h : permissionWireIndex node = some i) :
    i < permissionWireNodes.length :=
  (List.findIdx?_eq_some_iff_getElem.mp h).1

/-- **Which bits are set.** -/
theorem getBit_encodePermissionWire (allowed denied : List String) {i : ℕ} {known : String}
    (hknown : permissionWireNodes[i]? = some known) :
    getBit (encodePermissionWire allowed denied).1 i = true ↔
      (Protocol.nodes.all ∈ allowed ∨ ∃ node ∈ allowed, SameLetters known node) ∧ ∀ node ∈ denied, ¬ SameLetters known node := by
  have hi : i < permissionWireNodes.length := (List.getElem?_eq_some_iff.mp hknown).1
  have hrules (rules : List String) : i ∈ rules.filterMap permissionWireIndex ↔
      ∃ node ∈ rules, SameLetters known node := by
    rw [List.mem_filterMap]
    exact exists_congr fun node => and_congr_right fun _ => permissionWireIndex_eq_some_iff hknown
  have hfits : ∀ j ∈ allowed.filterMap permissionWireIndex,
      j / 8 < (List.replicate ((permissionWireNodes.length + 7) / 8) (0 : UInt8)).length := by
    intro j hj
    obtain ⟨node, -, hnode⟩ := List.mem_filterMap.mp hj
    have hlt := lt_of_permissionWireIndex hnode
    rw [List.length_replicate]
    omega
  have hall : ∀ j ∈ List.range permissionWireNodes.length,
      j / 8 < ((allowed.filterMap permissionWireIndex).foldl setBit
        (List.replicate ((permissionWireNodes.length + 7) / 8) 0)).length := by
    intro j hj
    rw [length_foldl_setBit, List.length_replicate]
    rw [List.mem_range] at hj
    omega
  unfold encodePermissionWire
  dsimp only
  rw [getBit_foldl_clearBit, Bool.and_eq_true, decide_eq_true_eq, hrules, and_comm]
  refine and_congr ?_ ⟨fun h node hnode hsame => h ⟨node, hnode, hsame⟩, fun h ⟨node, hnode, hsame⟩ => h node hnode hsame⟩
  by_cases hstar : Protocol.nodes.all ∈ allowed
  · rw [if_pos hstar, getBit_foldl_setBit hall]
    exact iff_of_true (by simp [hi]) (.inl hstar)
  · rw [if_neg hstar, getBit_foldl_setBit hfits, getBit_replicate, Bool.or_false, decide_eq_true_eq, hrules]
    exact (or_iff_right hstar).symm

/-! ### What the server answers -/

namespace PermissionManager

variable {store : PermissionStore} {uuid node : String}

lemma mem_allowedRules : node ∈ allowedRules store uuid ↔ (effectiveDecisions store uuid).lookup node = some true := by
  rw [allowedRules, List.mem_filterMap, ← Option.mem_def, AList.mem_lookup_iff]
  constructor
  · rintro ⟨⟨other, allow⟩, hmem, hrule⟩
    cases allow with
    | true =>
      obtain rfl := Option.some.inj hrule
      exact hmem
    | false => cases hrule
  · exact fun hmem => ⟨_, hmem, rfl⟩

lemma mem_deniedRules : node ∈ deniedRules store uuid ↔ (effectiveDecisions store uuid).lookup node = some false := by
  rw [deniedRules, List.mem_filterMap, ← Option.mem_def, AList.mem_lookup_iff]
  constructor
  · rintro ⟨⟨other, allow⟩, hmem, hrule⟩
    cases allow with
    | true => cases hrule
    | false =>
      obtain rfl := Option.some.inj hrule
      exact hmem
  · exact fun hmem => ⟨_, hmem, rfl⟩

end PermissionManager

/-- What the most specific rule says that there is for the nodes behind a prefix of the node. -/
def wildcardRule (allowed denied : List String) (node : String) : Option Bool :=
  ((dotPrefixes node).map (· ++ ".*")).findSome? fun wildcard =>
    if wildcard ∈ allowed then some true else if wildcard ∈ denied then some false else none

/-- The bit of the node is right: the rule is the node's own, or the bit is clear, or a wildcard allows it. -/
def GrantedRightly (allowed denied : List String) (node : String) : Prop :=
  node ∉ allowed → (∀ other ∈ denied, ¬ SameLetters node other) →
    (Protocol.nodes.all ∈ allowed ∨ ∃ other ∈ allowed, SameLetters node other) →
    (wildcardRule allowed denied node).getD (decide (Protocol.nodes.all ∈ allowed)) = true

namespace PermissionManager

variable (store : PermissionStore) (uuid : String)

lemma wildcardRule_rules (node : String) :
    wildcardRule (allowedRules store uuid) (deniedRules store uuid) node =
      ((dotPrefixes node).map (· ++ ".*")).findSome? fun wildcard => (effectiveDecisions store uuid).lookup wildcard := by
  unfold wildcardRule
  congr 1
  funext wildcard
  simp only [mem_allowedRules, mem_deniedRules]
  cases (effectiveDecisions store uuid).lookup wildcard with
  | none => rfl
  | some allow => cases allow <;> rfl

/-- A node without a rule of its own. -/
lemma has_of_lookup_eq_none {node : String} (htrim : trim node = node) (hne : node ≠ "")
    (h : (effectiveDecisions store uuid).lookup node = none) :
    has store uuid node = (wildcardRule (allowedRules store uuid) (deniedRules store uuid) node).getD
      (decide (Protocol.nodes.all ∈ allowedRules store uuid)) := by
  rw [has, checkNode_eq _ (htrim.symm ▸ hne), htrim, candidates, List.cons_append, List.findSome?_cons, h,
    List.findSome?_append, ← wildcardRule_rules]
  cases wildcardRule (allowedRules store uuid) (deniedRules store uuid) node with
  | some allow => rfl
  | none =>
    rw [Option.none_or, List.findSome?_singleton, Option.getD_none]
    simp only [mem_allowedRules]
    cases (effectiveDecisions store uuid).lookup Protocol.nodes.all with
    | none => rfl
    | some allow => cases allow <;> rfl

lemma has_of_mem_allowedRules {node : String} (htrim : trim node = node) (hne : node ≠ "")
    (h : node ∈ allowedRules store uuid) : has store uuid node = true := by
  rw [has, checkNode_eq _ (htrim.symm ▸ hne), htrim, candidates, List.cons_append, List.findSome?_cons,
    mem_allowedRules.mp h]
  rfl

/-- **When the bit set grants no more than the server.**  For every node of the table that has no rule of its own but
is let through by a rule for everything or by another spelling of it: the most specific wildcard rule allows it, or
there is none and everything is allowed. -/
theorem bitset_never_overgrants_iff :
    (∀ i node, permissionWireNodes[i]? = some node →
      getBit (encodePermissionWire (allowedRules store uuid) (deniedRules store uuid)).1 i = true →
        has store uuid node = true) ↔
      ∀ node ∈ permissionWireNodes, GrantedRightly (allowedRules store uuid) (deniedRules store uuid) node := by
  have hone {i : ℕ} {node : String} (hnode : permissionWireNodes[i]? = some node) :
      (getBit (encodePermissionWire (allowedRules store uuid) (deniedRules store uuid)).1 i = true →
        has store uuid node = true) ↔ GrantedRightly (allowedRules store uuid) (deniedRules store uuid) node := by
    have htrim := trim_permissionWireNodes (List.mem_of_getElem? hnode)
    have hne := (plain_permissionWireNodes (List.mem_of_getElem? hnode)).1
    rw [getBit_encodePermissionWire _ _ hnode, GrantedRightly]
    by_cases hallowed : node ∈ allowedRules store uuid
    · exact iff_of_true (fun _ => has_of_mem_allowedRules store uuid htrim hne hallowed) (absurd hallowed)
    have hown (hdenied : ∀ other ∈ deniedRules store uuid, ¬ SameLetters node other) :
        (effectiveDecisions store uuid).lookup node = none := by
      cases hlookup : (effectiveDecisions store uuid).lookup node with
      | none => rfl
      | some allow =>
        cases allow with
        | true => exact absurd (mem_allowedRules.mpr hlookup) hallowed
        | false => exact absurd rfl (hdenied node (mem_deniedRules.mpr hlookup))
    constructor
    · intro h _ hdenied hlet
      rw [← has_of_lookup_eq_none store uuid htrim hne (hown hdenied)]
      exact h ⟨hlet, hdenied⟩
    · rintro h ⟨hlet, hdenied⟩
      rw [has_of_lookup_eq_none store uuid htrim hne (hown hdenied)]
      exact h hallowed hdenied hlet
  constructor
  · intro h node hmem
    obtain ⟨i, hi⟩ := List.mem_iff_getElem?.mp hmem
    exact (hone hi).mp (h i node hi)
  · exact fun h i node hnode => (hone hnode).mpr (h node (List.mem_of_getElem? hnode))

/-- Everything is allowed but what has to do with moderation. -/
def noModeration : PermissionStore := addUserNode "u" "-basis.moderation.*" (addUserNode "u" "*" {})

/-- The client is told that it may ban. -/
theorem bitset_overgrants : ¬ ∀ (store : PermissionStore) (uuid : String) (i : ℕ) (node : String),
    permissionWireNodes[i]? = some node →
      getBit (encodePermissionWire (allowedRules store uuid) (deniedRules store uuid)).1 i = true →
        has store uuid node = true := by
  intro h
  have hset : getBit (encodePermissionWire (allowedRules noModeration "u") (deniedRules noModeration "u")).1 16 = true :=
    (getBit_encodePermissionWire _ _ rfl).mpr ⟨.inl (by decide +kernel), by decide +kernel⟩
  exact absurd (h noModeration "u" 16 nodes.moderationBan rfl hset) (by decide +kernel)

end PermissionManager
end BasisRust.Permissions
