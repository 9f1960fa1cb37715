import BasisRust.Permissions.Manager

/-!
# What one more rule can change

A raw node that is entered somewhere adds its rule to some users and changes nothing else.  Where the rule
denies, whatever `has` answers afterwards that it did not answer before is no; where it allows, it is yes.
Precedence plays no part in this: the first entry that is found is the old one or the new one.
-/

namespace BasisRust.Permissions

open BasisRust.Lib Relation

/-! ### Maps that differ by one answer -/

/-- The second map says what the first one says, or `b`. -/
def UpTo (b : Bool) (d d' : Decisions) : Prop := ∀ node, d'.lookup node = d.lookup node ∨ d'.lookup node = some b

section UpTo

variable {b : Bool} {d d' : Decisions}

/-- The first entry that is found. -/
lemma UpTo.findSome? (h : UpTo b d d') (nodes : List String) :
    (nodes.findSome? fun node => d'.lookup node) = (nodes.findSome? fun node => d.lookup node) ∨
      (nodes.findSome? fun node => d'.lookup node) = some b := by
  induction nodes with
  | nil => exact .inl rfl
  | cons node nodes ih =>
    rw [List.findSome?_cons, List.findSome?_cons]
    rcases h node with hsame | hnew
    · rw [hsame]
      cases d.lookup node with
      | none => exact ih
      | some value => exact .inl rfl
    · rw [hnew]
      exact .inr rfl

lemma UpTo.checkNode (h : UpTo b d d') (q : String) : checkNode d' q = checkNode d q ∨ checkNode d' q = b := by
  by_cases hq : trim q = ""
  · refine .inl ?_
    unfold Permissions.checkNode
    dsimp only
    rw [if_pos hq, if_pos hq]
  · rw [checkNode_eq d hq, checkNode_eq d' hq]
    rcases h.findSome? (candidates (trim q)) with hsame | hnew
    · exact .inl (congrArg (·.getD false) hsame)
    · exact .inr (congrArg (·.getD false) hnew)

/-- Rules for `b` are added. -/
lemma DenyWins.upTo {rule rule' : String → Bool → Prop} (h : DenyWins rule d) (h' : DenyWins rule' d')
    (hold : ∀ node allow, rule node allow → rule' node allow)
    (hnew : ∀ node allow, rule' node allow → rule node allow ∨ allow = b) : UpTo b d d' := by
  intro node
  cases b with
  | false =>
    by_cases hdeny : rule' node false
    · exact .inr (h'.deny node hdeny)
    have hallow : rule' node true ↔ rule node true :=
      ⟨fun hr => (hnew node true hr).resolve_right (by decide), hold node true⟩
    have hdeny' : ¬ rule node false := fun hr => hdeny (hold node false hr)
    by_cases hr : rule node true
    · exact .inl ((h'.allow node hdeny (hallow.mpr hr)).trans (h.allow node hdeny' hr).symm)
    · exact .inl ((h'.undefined node hdeny (mt hallow.mp hr)).trans (h.undefined node hdeny' hr).symm)
  | true =>
    have hdeny : rule' node false ↔ rule node false :=
      ⟨fun hr => (hnew node false hr).resolve_right (by decide), hold node false⟩
    by_cases hr : rule node false
    · exact .inl ((h'.deny node (hdeny.mpr hr)).trans (h.deny node hr).symm)
    by_cases hr' : rule' node true
    · exact .inr (h'.allow node (mt hdeny.mp hr) hr')
    · have hnone : ¬ rule node true := fun hallow => hr' (hold node true hallow)
      exact .inl ((h'.undefined node (mt hdeny.mp hr) hr').trans (h.undefined node hr hnone).symm)

end UpTo

/-! ### One more raw node -/

/-- The elements, and the node perhaps. -/
def AddsTo (raw : String) (nodes nodes' : HashSet String) : Prop :=
  (∀ r ∈ nodes, r ∈ nodes') ∧ ∀ r ∈ nodes', r ∈ nodes ∨ r = raw

lemma AddsTo.refl (raw : String) (nodes : HashSet String) : AddsTo raw nodes nodes :=
  ⟨fun _ hr => hr, fun _ hr => .inl hr⟩

lemma AddsTo.insert (raw : String) (nodes : HashSet String) : AddsTo raw nodes (nodes.insert raw) :=
  ⟨fun _ hr => HashSet.mem_insert.mpr (.inr hr), fun _ hr => (HashSet.mem_insert.mp hr).symm⟩

lemma AddsTo.erase (raw : String) (nodes : HashSet String) : AddsTo raw (nodes.erase raw) nodes :=
  ⟨fun _ hr => (HashSet.mem_erase.mp hr).2, fun _ hr => or_iff_not_imp_right.mpr fun hne =>
    HashSet.mem_erase.mpr ⟨hne, hr⟩⟩

/-- The second store has the raw node in some places where the first one does not have it. -/
structure AddsNode (raw : String) (store store' : PermissionStore) : Prop where
  users : Dict.Rel (fun u u' : PermissionUser => AddsTo raw u.nodes u'.nodes ∧ u'.groups = u.groups)
    store.users store'.users
  parents : ∀ g, parentsOf store' g = parentsOf store g
  nodes : ∀ g, AddsTo raw (nodesOf store g) (nodesOf store' g)

/-- A rule of the user's stands among the nodes of the user or of a group that is reached. -/
lemma hasRule_iff {store : PermissionStore} {uuid node : String} {allow : Bool} :
    HasRule store uuid node allow ↔ ∃ user, store.users.lookup uuid = some user ∧ ∃ raw, RuleFor raw node allow ∧
      (raw ∈ user.nodes ∨ ∃ g, ReachableGroup store user g ∧ raw ∈ nodesOf store g) := by
  simp only [HasRule, mem_nodesOf, exists_and_left]

namespace AddsNode

variable {raw : String} {store store' : PermissionStore}

lemma reachableGroup (h : AddsNode raw store store') {user user' : PermissionUser} (hgroups : user'.groups = user.groups)
    (g : String) : ReachableGroup store' user' g ↔ ReachableGroup store user g := by
  have hparent : IsParent store' = IsParent store := by
    funext g p
    rw [← mem_parentsOf, ← mem_parentsOf, h.parents]
  rw [ReachableGroup, ReachableGroup, hparent, hgroups]

/-- Every rule stays. -/
lemma hasRule (h : AddsNode raw store store') {uuid node : String} {allow : Bool}
    (hrule : HasRule store uuid node allow) : HasRule store' uuid node allow := by
  rw [hasRule_iff] at hrule ⊢
  obtain ⟨user, huser, r, hr, hmem⟩ := hrule
  obtain ⟨user', huser', hnodes, hgroups⟩ := h.users.lookup_eq_some huser
  refine ⟨user', huser', r, hr, ?_⟩
  rcases hmem with hmem | ⟨g, hg, hmem⟩
  · exact .inl (hnodes.1 r hmem)
  · exact .inr ⟨g, (h.reachableGroup hgroups g).mpr hg, (h.nodes g).1 r hmem⟩

/-- Every new rule is that of the raw node. -/
lemma hasRule_or (h : AddsNode raw store store') {uuid node : String} {allow : Bool}
    (hrule : HasRule store' uuid node allow) : HasRule store uuid node allow ∨ RuleFor raw node allow := by
  rw [hasRule_iff] at hrule ⊢
  obtain ⟨user', huser', r, hr, hmem⟩ := hrule
  obtain ⟨user, huser, hnodes, hgroups⟩ := h.users.lookup_eq_some' huser'
  rcases hmem with hmem | ⟨g, hg, hmem⟩
  · rcases hnodes.2 r hmem with hold | rfl
    · exact .inl ⟨user, huser, r, hr, .inl hold⟩
    · exact .inr hr
  · rcases (h.nodes g).2 r hmem with hold | rfl
    · exact .inl ⟨user, huser, r, hr, .inr ⟨g, (h.reachableGroup hgroups g).mp hg, hold⟩⟩
    · exact .inr hr

end AddsNode

/-! ### The operations -/

section Operations

variable {store : PermissionStore}

variable (change : HashSet String → HashSet String) (name g : String)

/-- The nodes of one group are changed. -/
def modifyGroupNodes (store : PermissionStore) : PermissionStore :=
  { store with groups := store.groups.modify name fun group => { group with nodes := change group.nodes } }

lemma parentsOf_modifyGroupNodes : parentsOf (modifyGroupNodes change name store) g = parentsOf store g := by
  unfold parentsOf modifyGroupNodes
  dsimp only
  rw [Dict.lookup_modify]
  by_cases hg : g = name
  · rw [if_pos hg, hg, Option.map_map]
    rfl
  · rw [if_neg hg]

variable {change} in
lemma nodesOf_modifyGroupNodes {r : HashSet String → HashSet String → Prop} (hrefl : ∀ nodes, r nodes nodes)
    (hchange : ∀ nodes, r nodes (change nodes)) :
    r (nodesOf store g) (nodesOf (modifyGroupNodes change name store) g) := by
  unfold nodesOf modifyGroupNodes
  dsimp only
  rw [Dict.lookup_modify]
  by_cases hg : g = name
  · rw [if_pos hg, hg]
    cases store.groups.lookup name with
    | none => exact hrefl _
    | some group => exact hchange group.nodes
  · rw [if_neg hg]
    exact hrefl _

end Operations

namespace PermissionManager

variable {store : PermissionStore} {u : String}

/-- A group that is created has neither parents nor nodes, as if it were missing. -/
lemma addsNode_getOrCreateGroup (raw group : String) (store : PermissionStore) :
    AddsNode raw store (getOrCreateGroup group store) := by
  have hself : AddsNode raw store store :=
    ⟨.refl (fun _ => ⟨.refl _ _, rfl⟩) _, fun _ => rfl, fun _ => .refl _ _⟩
  unfold getOrCreateGroup orInsertGroup
  dsimp only
  split
  next => exact hself
  next =>
    split
    next => exact hself
    next hnew =>
      have hmissing : store.groups.lookup (trim group) = none := Dict.notMem_iff_lookup.mp hnew
      refine ⟨hself.users, fun g => ?_, fun g => ?_⟩
      · unfold parentsOf
        dsimp only
        rw [Dict.lookup_insert]
        split
        next hg =>
          rw [hg, hmissing]
          rfl
        next => rfl
      · unfold nodesOf
        dsimp only
        rw [Dict.lookup_insert]
        split
        next hg =>
          rw [hg, hmissing]
          exact .refl _ _
        next => exact .refl _ _

theorem addsNode_addGroupNode (g raw : String) (store : PermissionStore) :
    AddsNode (trim raw) store (addGroupNode g raw store) := by
  have hcreated := addsNode_getOrCreateGroup (trim raw) g store
  change AddsNode _ _ (modifyGroupNodes (·.insert (trim raw)) (trim g) (getOrCreateGroup g store))
  generalize getOrCreateGroup g store = created at hcreated ⊢
  refine ⟨hcreated.users, fun g' => ?_, fun g' => ?_⟩
  · exact (parentsOf_modifyGroupNodes _ _ g').trans (hcreated.parents g')
  · have hnodes := @nodesOf_modifyGroupNodes created _ (trim g) g' _ (AddsTo.refl (trim raw))
      (AddsTo.insert (trim raw))
    exact ⟨fun r hr => hnodes.1 r ((hcreated.nodes g').1 r hr), fun r hr =>
      (hnodes.2 r hr).elim ((hcreated.nodes g').2 r) .inr⟩

theorem addsNode_removeGroupNode (g raw : String) (store : PermissionStore) :
    AddsNode (trim raw) (removeGroupNode g raw store) store := by
  change AddsNode _ (modifyGroupNodes (·.erase (trim raw)) (trim g) store) _
  refine ⟨.refl (fun _ => ⟨.refl _ _, rfl⟩) _, fun g' => ?_, fun g' => ?_⟩
  · exact (parentsOf_modifyGroupNodes _ _ g').symm
  · exact nodesOf_modifyGroupNodes (r := fun nodes nodes' => AddsTo (trim raw) nodes' nodes) (trim g) g'
      (AddsTo.refl (trim raw)) (AddsTo.erase (trim raw))

theorem addsNode_addUserNode (raw : String) (hu : u ∈ store.users) :
    AddsNode (trim raw) store (addUserNode u raw store) := by
  have hthere : getOrCreateUser u store = store := if_pos hu
  unfold addUserNode
  rw [hthere]
  refine ⟨?_, fun _ => rfl, fun _ => .refl _ _⟩
  refine (Dict.Rel.modify_iff fun user => ⟨.refl _ _, rfl⟩).mpr fun user _ => ⟨?_, rfl⟩
  exact .insert (trim raw) user.nodes

theorem addsNode_removeUserNode (u raw : String) (store : PermissionStore) :
    AddsNode (trim raw) (removeUserNode u raw store) store := by
  unfold removeUserNode
  refine ⟨Dict.Rel.swap ?_, fun _ => rfl, fun _ => .refl _ _⟩
  refine (Dict.Rel.modify_iff fun user => ⟨.refl _ _, rfl⟩).mpr fun user _ => ⟨?_, rfl⟩
  exact .erase (trim raw) user.nodes

lemma ruleFor_trim {raw node : String} {allow : Bool} : RuleFor (trim raw) node allow ↔ RuleFor raw node allow := by
  rw [← parseRule_eq_some, ← parseRule_eq_some, parseRule, trim_trim]
  rfl

/-- The two stores answer alike, or the one with the raw node as its rule decides. -/
theorem has_of_addsNode {raw denied : String} {allow : Bool} {store store' : PermissionStore}
    (h : AddsNode (trim raw) store store') (hraw : RuleFor raw denied allow) (v q : String) :
    has store' v q = has store v q ∨ has store' v q = allow := by
  have hwins := (effectiveDecisions_spec store v).2
  have hwins' := (effectiveDecisions_spec store' v).2
  refine (hwins.upTo hwins' (fun _ _ => h.hasRule) fun node allow' hrule => ?_).checkNode q
  refine (h.hasRule_or hrule).imp_right fun hnew => ?_
  have hparsed := parseRule_eq_some.mpr (ruleFor_trim.mp hnew)
  rw [parseRule_eq_some.mpr hraw, Option.some.injEq, Prod.mk.injEq] at hparsed
  exact hparsed.2.symm

/-- **Deny rules only take away, allow rules only give.**  Where a raw node with a rule is entered, an answer that is
the rule's stays; where it is removed, one that is not the rule's stays.  This is so for every user and every node
that is asked for. -/
theorem has_of_node_changed {raw node : String} {allow : Bool} (hraw : RuleFor raw node allow) (store : PermissionStore)
    (v q : String) :
    (∀ u ∈ store.users, has store v q = allow → has (addUserNode u raw store) v q = allow) ∧
      (∀ g, has store v q = allow → has (addGroupNode g raw store) v q = allow) ∧
      (∀ u, has store v q = !allow → has (removeUserNode u raw store) v q = !allow) ∧
      ∀ g, has store v q = !allow → has (removeGroupNode g raw store) v q = !allow := by
  have hadded {store' : PermissionStore} (h : AddsNode (trim raw) store store') (hbefore : has store v q = allow) :
      has store' v q = allow :=
    (has_of_addsNode h hraw v q).elim (fun hsame => hsame.trans hbefore) id
  have hremoved {store' : PermissionStore} (h : AddsNode (trim raw) store' store) (hbefore : has store v q = !allow) :
      has store' v q = !allow := by
    rcases has_of_addsNode h hraw v q with hsame | hrule
    · exact hsame.symm.trans hbefore
    · rw [hrule] at hbefore
      exact absurd hbefore.symm (Bool.not_ne_self allow)
  exact ⟨fun u hu => hadded (addsNode_addUserNode raw hu), fun g => hadded (addsNode_addGroupNode g raw store),
    fun u => hremoved (addsNode_removeUserNode u raw store), fun g => hremoved (addsNode_removeGroupNode g raw store)⟩

/-- A denial is entered for a group of the user's, and one is removed. -/
theorem has_of_node_changed_cyclic :
    has (addGroupNode "b" " - basis.lamp" (cyclicStore id)) "u" "basis.door" = false ∧
      has (removeGroupNode "a" "- basis.door" (cyclicStore id)) "u" "basis.test.x" = true := by
  have hlamp : RuleFor " - basis.lamp" "basis.lamp" false := parseRule_eq_some.mp (by decide +kernel)
  have hdoor : RuleFor "- basis.door" "basis.door" false := parseRule_eq_some.mp (by decide +kernel)
  obtain ⟨-, hgroup, -⟩ := has_of_node_changed hlamp (cyclicStore id) "u" "basis.door"
  obtain ⟨-, -, -, hremoved⟩ := has_of_node_changed hdoor (cyclicStore id) "u" "basis.test.x"
  exact ⟨hgroup "b" (by decide +kernel), hremoved "a" (by decide +kernel)⟩

end PermissionManager
end BasisRust.Permissions
