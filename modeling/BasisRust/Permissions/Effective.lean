import BasisRust.Lib.DepthFirst
import BasisRust.Permissions.Store

/-!
# Effective permissions

What `effective_decisions` and `has` compute, in terms of which rules exist: a rule counts when it stands
in the user's own nodes or in a group reachable from the user's groups through parents.  Deny rules win,
and the order in which users, groups, parents and nodes are iterated plays no part.

Layer 1 is one raw node, layer 2 the walk over the groups, layer 3 the lookup with wildcards.
-/

namespace BasisRust.Permissions

open BasisRust.Lib Relation

/-! ### Rules -/

/-- A raw node is a rule for `node`, denying after a `-` and allowing otherwise. -/
inductive RuleFor (raw node : String) : Bool → Prop
  | deny {rest : List Char} (dash : (trim raw).toList = '-' :: rest)
      (rest_eq : trim (String.ofList rest) = node) (nonempty : node ≠ "") : RuleFor raw node false
  | allow (noDash : (trim raw).toList.head? ≠ some '-') (raw_eq : trim raw = node)
      (nonempty : node ≠ "") : RuleFor raw node true

/-- `parent` is a parent of an existing group. -/
def IsParent (store : PermissionStore) (groupName parent : String) : Prop :=
  ∃ group, store.groups.lookup groupName = some group ∧ parent ∈ group.parents

/-- A group of the user, or one reached from there through parents. -/
def ReachableGroup (store : PermissionStore) (user : PermissionUser) (groupName : String) : Prop :=
  ∃ root ∈ user.groups, ReflTransGen (IsParent store) root groupName

/-- The user has a rule for `node`. -/
def HasRule (store : PermissionStore) (uuid node : String) (allow : Bool) : Prop :=
  ∃ user, store.users.lookup uuid = some user ∧ ∃ raw, RuleFor raw node allow ∧
    (raw ∈ user.nodes ∨ ∃ groupName group, ReachableGroup store user groupName ∧
      store.groups.lookup groupName = some group ∧ raw ∈ group.nodes)

/-- The decisions a set of rules stands for: a deny rule wins over every allow rule. -/
structure DenyWins (rule : String → Bool → Prop) (decisions : Decisions) : Prop where
  deny : ∀ node, rule node false → decisions.lookup node = some false
  allow : ∀ node, ¬ rule node false → rule node true → decisions.lookup node = some true
  undefined : ∀ node, ¬ rule node false → ¬ rule node true → decisions.lookup node = none

/-- The same store, iterated in another order. -/
structure Reordered (store store' : PermissionStore) : Prop where
  users : Dict.Rel (fun u u' : PermissionUser =>
    u.nodes.elems.Perm u'.nodes.elems ∧ u.groups.elems.Perm u'.groups.elems) store.users store'.users
  groups : Dict.Rel (fun g g' : PermissionGroup =>
    g.nodes.elems.Perm g'.nodes.elems ∧ g.parents.elems.Perm g'.parents.elems) store.groups store'.groups

/-! ### Layer 1: one raw node -/

lemma stripPrefix_eq_some {c : Char} {s t : String} :
    stripPrefix c s = some t ↔ s.toList = c :: t.toList := by
  unfold stripPrefix
  split
  next c' cs hs =>
    rw [Option.ite_none_right_eq_some, Option.some.injEq, hs, List.cons.injEq, ← String.toList_inj,
      String.toList_ofList]
  next hs => simp [hs]

lemma stripPrefix_eq_none {c : Char} {s : String} : stripPrefix c s = none ↔ s.toList.head? ≠ some c := by
  unfold stripPrefix
  split
  next c' cs hs => simp [hs]
  next hs => simp [hs]

/-- The rule a raw node is, if any: what `applyRawNode` reads before it looks at the decisions. -/
def parseRule (raw : String) : Option (String × Bool) :=
  let raw := trim raw
  if raw = "" then none
  else
    let (node, allow) := ((stripPrefix '-' raw).map fun node => (trim node, false)).getD (raw, true)
    if node = "" then none else some (node, allow)

lemma applyRawNode_eq (decisions : Decisions) (raw : String) : applyRawNode decisions raw =
    match parseRule raw with
    | none => decisions
    | some (node, allow) =>
      if decisions.lookup node = some false then decisions else decisions.insert node allow := by
  unfold applyRawNode parseRule
  dsimp only
  by_cases hraw : trim raw = ""
  · rw [if_pos hraw, if_pos hraw]
  · rw [if_neg hraw, if_neg hraw]
    generalize ((stripPrefix '-' (trim raw)).map fun node => (trim node, false)).getD (trim raw, true) = rule
    by_cases hnode : rule.1 = ""
    · rw [if_pos hnode, if_pos hnode]
    · rw [if_neg hnode, if_neg hnode]

theorem parseRule_eq_some {raw node : String} {allow : Bool} :
    parseRule raw = some (node, allow) ↔ RuleFor raw node allow := by
  unfold parseRule
  dsimp only
  cases hstrip : stripPrefix '-' (trim raw) with
  | some rest =>
    have hdash := stripPrefix_eq_some.mp hstrip
    have hraw : trim raw ≠ "" := fun h => by rw [h] at hdash; cases hdash
    rw [if_neg hraw, Option.map_some, Option.getD_some, Option.ite_none_left_eq_some, Option.some.injEq,
      Prod.mk.injEq]
    constructor
    · rintro ⟨hne, rfl, rfl⟩
      exact .deny hdash (by rw [String.ofList_toList]) hne
    · rintro (⟨hdash', hrest, hne⟩ | ⟨hno, -, -⟩)
      · rw [hdash, List.cons.injEq] at hdash'
        rw [← hdash'.2, String.ofList_toList] at hrest
        exact ⟨by rwa [hrest], hrest, rfl⟩
      · rw [hdash] at hno
        exact absurd rfl hno
  | none =>
    have hno := stripPrefix_eq_none.mp hstrip
    rw [Option.map_none, Option.getD_none, Option.ite_none_left_eq_some, Option.ite_none_left_eq_some,
      Option.some.injEq, Prod.mk.injEq]
    constructor
    · rintro ⟨hraw, -, rfl, rfl⟩
      exact .allow hno rfl hraw
    · rintro (⟨hdash, -, -⟩ | ⟨-, hraw, hne⟩)
      · rw [hdash] at hno
        exact absurd rfl hno
      · exact ⟨by rwa [hraw], by rwa [hraw], hraw, rfl⟩

namespace DenyWins

variable {rule rule' : String → Bool → Prop} {decisions decisions' : Decisions}

theorem empty : DenyWins (fun _ _ => False) ∅ where
  deny _ h := h.elim
  allow _ _ h := h.elim
  undefined _ _ _ := AList.lookup_empty _

theorem congr (h : DenyWins rule decisions) (hrule : ∀ node allow, rule node allow ↔ rule' node allow) :
    DenyWins rule' decisions := by
  obtain rfl : rule = rule' := funext fun node => funext fun allow => propext (hrule node allow)
  exact h

/-- The rules determine the decisions. -/
theorem unique (h : DenyWins rule decisions) (h' : DenyWins rule decisions') (node : String) :
    decisions.lookup node = decisions'.lookup node := by
  by_cases hdeny : rule node false
  · rw [h.deny node hdeny, h'.deny node hdeny]
  · by_cases hallow : rule node true
    · rw [h.allow node hdeny hallow, h'.allow node hdeny hallow]
    · rw [h.undefined node hdeny hallow, h'.undefined node hdeny hallow]

/-- A recorded deny decision comes from a deny rule. -/
theorem lookup_eq_false (h : DenyWins rule decisions) {node : String} :
    decisions.lookup node = some false ↔ rule node false := by
  refine ⟨fun hlookup => ?_, h.deny node⟩
  by_contra hdeny
  by_cases hallow : rule node true
  · rw [h.allow node hdeny hallow] at hlookup
    cases hlookup
  · rw [h.undefined node hdeny hallow] at hlookup
    cases hlookup

/-- One more raw node. -/
theorem applyRawNode (h : DenyWins rule decisions) (raw : String) :
    DenyWins (fun node allow => rule node allow ∨ RuleFor raw node allow)
      (applyRawNode decisions raw) := by
  rw [applyRawNode_eq]
  cases hparse : parseRule raw with
  | none =>
    refine h.congr fun node allow => ⟨.inl, fun hor => hor.resolve_right fun hrule => ?_⟩
    rw [parseRule_eq_some.mpr hrule] at hparse
    cases hparse
  | some nb =>
    obtain ⟨n, b⟩ := nb
    have hor (node : String) (allow : Bool) :
        (rule node allow ∨ RuleFor raw node allow) ↔ rule node allow ∨ (node = n ∧ allow = b) := by
      rw [← parseRule_eq_some, hparse, Option.some.injEq, Prod.mk.injEq, @eq_comm _ n, @eq_comm _ b]
    dsimp only
    refine congr ?_ fun node allow => (hor node allow).symm
    -- the decision of the rule's own node changes unless it is a denial, every other one stays
    by_cases hn : decisions.lookup n = some false
    · rw [if_pos hn]
      have hdeny := h.lookup_eq_false.mp hn
      constructor
      · rintro node (hr | ⟨rfl, -⟩)
        · exact h.deny node hr
        · exact hn
      · rintro node hd (hr | ⟨rfl, -⟩)
        · exact h.allow node (fun hf => hd (.inl hf)) hr
        · exact absurd (.inl hdeny) hd
      · intro node hd ha
        exact h.undefined node (fun hf => hd (.inl hf)) (fun hf => ha (.inl hf))
    · rw [if_neg hn]
      have hdeny : ¬ rule n false := fun hf => hn (h.deny n hf)
      constructor
      · rintro node (hr | ⟨rfl, rfl⟩)
        · have hnode : node ≠ n := fun hnode => hdeny (hnode ▸ hr)
          rw [Dict.lookup_insert, if_neg hnode]
          exact h.deny node hr
        · rw [Dict.lookup_insert, if_pos rfl]
      · intro node hd ha
        rw [Dict.lookup_insert]
        split
        next hnode =>
          cases b with
          | true => rfl
          | false => exact absurd (.inr ⟨hnode, rfl⟩) hd
        next hnode =>
          exact h.allow node (fun hf => hd (.inl hf)) (ha.resolve_right fun hb => hnode hb.1)
      · intro node hd ha
        have hnode : node ≠ n := by
          rintro rfl
          cases b with
          | true => exact ha (.inr ⟨rfl, rfl⟩)
          | false => exact hd (.inr ⟨rfl, rfl⟩)
        rw [Dict.lookup_insert, if_neg hnode]
        exact h.undefined node (fun hf => hd (.inl hf)) (fun hf => ha (.inl hf))

/-- A whole list of raw nodes. -/
theorem foldl (raws : List String) : DenyWins rule decisions →
    DenyWins (fun node allow => rule node allow ∨ ∃ raw ∈ raws, RuleFor raw node allow)
      (raws.foldl Permissions.applyRawNode decisions) := by
  induction raws generalizing rule decisions with
  | nil =>
    intro h
    exact h.congr fun node allow => by simp
  | cons raw raws ih =>
    intro h
    have hraw := h.applyRawNode raw
    rw [List.foldl_cons]
    refine (ih hraw).congr fun node allow => ?_
    rw [or_assoc]
    simp only [List.mem_cons, exists_eq_or_imp]

end DenyWins

/-! ### Layer 2: the walk over the groups -/

section Groups

variable (store : PermissionStore)

/-- The parents of a group; a missing group has none. -/
def parentsOf (groupName : String) : List String :=
  ((store.groups.lookup groupName).map fun group => group.parents.elems).getD []

/-- The raw nodes of a group; a missing group has none. -/
def nodesOf (groupName : String) : HashSet String :=
  ((store.groups.lookup groupName).map fun group => group.nodes).getD ∅

variable {store}

lemma mem_parentsOf {groupName parent : String} :
    parent ∈ parentsOf store groupName ↔ IsParent store groupName parent := by
  unfold parentsOf IsParent
  cases store.groups.lookup groupName with
  | none => simp
  | some group => simp [HashSet.mem_elems]

lemma mem_nodesOf {groupName raw : String} : raw ∈ nodesOf store groupName ↔
    ∃ group, store.groups.lookup groupName = some group ∧ raw ∈ group.nodes := by
  unfold nodesOf
  cases store.groups.lookup groupName with
  | none => simp
  | some group => simp

/-- `apply_group` is the depth-first walk along parents that applies a group's own nodes on leaving it. -/
theorem applyGroup_eq_dfs (fuel : ℕ) (groupName : String) (s : HashSet String × Decisions) :
    applyGroup store fuel groupName s =
      DepthFirst.dfs (parentsOf store) (fun g d => applyRawNodes (nodesOf store g) d) fuel groupName s := by
  induction fuel generalizing groupName s with
  | zero => rfl
  | succ fuel ih =>
    obtain ⟨visited, decisions⟩ := s
    rw [applyGroup, DepthFirst.dfs]
    by_cases hvisited : groupName ∈ visited
    · rw [if_pos hvisited, if_pos hvisited]
    · rw [if_neg hvisited, if_neg hvisited]
      cases hgroup : store.groups.lookup groupName with
      | none =>
        have hparents : parentsOf store groupName = [] := by rw [parentsOf, hgroup]; rfl
        have hnodes : nodesOf store groupName = ∅ := by rw [nodesOf, hgroup]; rfl
        rw [hparents, hnodes]
        rfl
      | some group =>
        have hparents : parentsOf store groupName = group.parents.elems := by rw [parentsOf, hgroup]; rfl
        have hnodes : nodesOf store groupName = group.nodes := by rw [nodesOf, hgroup]; rfl
        rw [hparents, hnodes]
        simp only [ih]

lemma parentsOf_eq_nil {groupName : String} (h : groupName ∉ store.groups.keys) :
    parentsOf store groupName = [] := by
  rw [parentsOf, Dict.notMem_iff_lookup.mp (show groupName ∉ store.groups from h)]
  rfl

/-- The walk over a user's groups ends with the raw nodes of the reachable groups applied in some order. -/
theorem exists_applyGroups {fuel : ℕ} (hfuel : store.groups.entries.length < fuel) (user : PermissionUser) :
    ∃ visited, ∃ reached : List String,
      user.groups.elems.foldlM (fun s group => applyGroup store fuel group s) (∅, ∅) =
        some (visited, (reached.flatMap fun g => (nodesOf store g).elems).foldl applyRawNode ∅) ∧
      ∀ g, g ∈ reached ↔ ReachableGroup store user g := by
  have hlength : store.groups.keys.length < fuel := by
    rw [AList.keys, List.keys, List.length_map]
    exact hfuel
  obtain ⟨⟨visited, decisions⟩, hwalk⟩ : ∃ t, DepthFirst.walk (parentsOf store)
      (fun g d => applyRawNodes (nodesOf store g) d) fuel user.groups.elems (∅, ∅) = some t :=
    DepthFirst.exists_walk_eq_some (fun g => parentsOf_eq_nil) user.groups.elems _ hlength
  obtain ⟨reached, hdecisions, hreached⟩ := DepthFirst.walk_exact hwalk
  refine ⟨visited, reached, ?_, fun g => ?_⟩
  · simp only [applyGroup_eq_dfs]
    rw [List.foldl_flatMap]
    exact hwalk.trans (congrArg (fun d => some (visited, d)) hdecisions)
  · rw [hreached]
    simp only [DepthFirst.Reach, mem_parentsOf]
    rfl

end Groups

/-- `effective_decisions` returns, and what it returns is what the user's rules stand for. -/
theorem exists_effectiveDecisions {fuel : ℕ} {store : PermissionStore}
    (hfuel : store.groups.entries.length < fuel) (uuid : String) :
    ∃ d, effectiveDecisions fuel store uuid = some d ∧ DenyWins (HasRule store uuid) d := by
  unfold effectiveDecisions
  cases huser : store.users.lookup uuid with
  | none =>
    refine ⟨∅, rfl, DenyWins.empty.congr fun node allow => ⟨False.elim, ?_⟩⟩
    rintro ⟨user, hlookup, -⟩
    rw [huser] at hlookup
    cases hlookup
  | some user =>
    obtain ⟨visited, reached, hwalk, hreached⟩ := exists_applyGroups hfuel user
    dsimp only
    rw [hwalk]
    refine ⟨_, rfl, ((DenyWins.empty.foldl _).foldl _).congr fun node allow => ?_⟩
    rw [false_or]
    constructor
    · rintro (⟨raw, hraw, hrule⟩ | ⟨raw, hraw, hrule⟩)
      · obtain ⟨g, hg, hmem⟩ := List.mem_flatMap.mp hraw
        obtain ⟨group, hgroup, hmem⟩ := mem_nodesOf.mp hmem
        exact ⟨user, huser, raw, hrule, .inr ⟨g, group, (hreached g).mp hg, hgroup, hmem⟩⟩
      · exact ⟨user, huser, raw, hrule, .inl hraw⟩
    · rintro ⟨user', huser', raw, hrule, hmem⟩
      obtain rfl : user = user' := Option.some.inj (huser.symm.trans huser')
      rcases hmem with hmem | ⟨g, group, hg, hgroup, hmem⟩
      · exact .inr ⟨raw, hmem, hrule⟩
      · refine .inl ⟨raw, List.mem_flatMap.mpr ⟨g, (hreached g).mpr hg, ?_⟩, hrule⟩
        exact mem_nodesOf.mpr ⟨group, hgroup, hmem⟩

/-! ### Layer 3: the lookup with wildcards -/

/-- What precedes a dot of `q`, longest first. -/
def dotPrefixes (q : String) : List String :=
  ((List.range q.toList.length).reverse.filter fun i => q.toList[i]? = some '.').map fun i =>
    String.ofList (q.toList.take i)

/-- The entries that decide about `q`, in order of precedence. -/
def candidates (q : String) : List String :=
  q :: (dotPrefixes q).map (· ++ ".*") ++ [Protocol.nodes.all]

lemma dotPrefixes_eq_nil {q : String} (h : rsplitOnce q '.' = none) : dotPrefixes q = [] := by
  have hmem : '.' ∉ q.toList := by
    rw [rsplitOnce, Option.map_eq_none_iff] at h
    exact rsplitOnceChars_eq_none.mp h
  rw [dotPrefixes, List.map_eq_nil_iff, List.filter_eq_nil_iff]
  intro i _ hi
  exact hmem (List.mem_of_getElem? (of_decide_eq_true hi))

/-- The longest prefix in front of a dot ends at the last dot, and the others are its own. -/
lemma dotPrefixes_eq_cons {q p rest : String} (h : rsplitOnce q '.' = some (p, rest)) :
    dotPrefixes q = p :: dotPrefixes p := by
  obtain ⟨hq, hrest⟩ := rsplitOnce_eq_some h
  have hlen : q.toList.length = p.toList.length + 1 + rest.toList.length := by
    rw [hq, List.length_append, List.length_cons]
    omega
  have hafter : ((List.range rest.toList.length).map (p.toList.length + 1 + ·)).reverse.filter
      (fun i => q.toList[i]? = some '.') = [] := by
    rw [List.filter_eq_nil_iff]
    intro i hi hdot
    rw [List.mem_reverse, List.mem_map] at hi
    obtain ⟨j, -, rfl⟩ := hi
    have hdot := of_decide_eq_true hdot
    rw [hq, List.getElem?_append_right (by omega),
      show p.toList.length + 1 + j - p.toList.length = j + 1 by omega, List.getElem?_cons_succ] at hdot
    exact hrest (List.mem_of_getElem? hdot)
  have hat : q.toList[p.toList.length]? = some '.' := by
    rw [hq, List.getElem?_append_right (Nat.le_refl _), Nat.sub_self, List.getElem?_cons_zero]
  have htake : q.toList.take p.toList.length = p.toList := by rw [hq, List.take_left]
  have hbefore (i : ℕ) (hi : i < p.toList.length) :
      q.toList[i]? = p.toList[i]? ∧ q.toList.take i = p.toList.take i := by
    rw [hq, List.getElem?_append_left hi, List.take_append_of_le_length (Nat.le_of_lt hi)]
    exact ⟨rfl, rfl⟩
  rw [dotPrefixes, hlen, List.range_add, List.range_succ, List.reverse_append, List.filter_append, hafter,
    List.nil_append, List.reverse_append, List.reverse_singleton, List.singleton_append,
    List.filter_cons_of_pos (by simpa using hat), List.map_cons, htake, String.ofList_toList, dotPrefixes,
    List.filter_congr (q := fun i => decide (p.toList[i]? = some '.'))]
  · congr 1
    apply List.map_congr_left
    intro i hi
    rw [List.mem_filter, List.mem_reverse, List.mem_range] at hi
    rw [(hbefore i hi.1).2]
  · intro i hi
    rw [List.mem_reverse, List.mem_range] at hi
    rw [(hbefore i hi).1]

/-- The loop of `check_node` looks the wildcards up from the longest prefix to the shortest. -/
theorem checkWildcards_eq (d : Decisions) (q : String) :
    checkWildcards d q = ((dotPrefixes q).map (· ++ ".*")).findSome? fun n => d.lookup n := by
  fun_induction checkWildcards d q with
  | case1 q hsplit =>
    rw [dotPrefixes_eq_nil hsplit]
    rfl
  | case2 q p rest hsplit value hvalue =>
    rw [dotPrefixes_eq_cons hsplit, List.map_cons, List.findSome?_cons, hvalue]
  | case3 q p rest hsplit hvalue ih =>
    rw [dotPrefixes_eq_cons hsplit, List.map_cons, List.findSome?_cons, hvalue, ih]

theorem checkNode_eq (d : Decisions) {node : String} (hnode : trim node ≠ "") :
    checkNode d node = ((candidates (trim node)).findSome? fun n => d.lookup n).getD false := by
  unfold checkNode candidates
  dsimp only
  rw [if_neg hnode, List.cons_append, List.findSome?_cons, List.findSome?_append, ← checkWildcards_eq]
  cases d.lookup (trim node) with
  | some value => rfl
  | none =>
    cases checkWildcards d (trim node) with
    | some value => rfl
    | none =>
      dsimp only
      rw [Option.none_or, List.findSome?_singleton]

/-! ### The order of iteration -/

namespace Reordered

variable {store store' : PermissionStore}

theorem symm (h : Reordered store store') : Reordered store' store where
  users := h.users.symm fun _ _ hp => ⟨hp.1.symm, hp.2.symm⟩
  groups := h.groups.symm fun _ _ hp => ⟨hp.1.symm, hp.2.symm⟩

lemma isParent (h : Reordered store store') {g p : String} (hp : IsParent store g p) :
    IsParent store' g p := by
  obtain ⟨group, hgroup, hmem⟩ := hp
  obtain ⟨group', hgroup', -, hparents⟩ := h.groups.lookup_eq_some hgroup
  exact ⟨group', hgroup', hparents.mem_iff.mp hmem⟩

lemma hasRule (h : Reordered store store') {uuid node : String} {allow : Bool}
    (hrule : HasRule store uuid node allow) : HasRule store' uuid node allow := by
  obtain ⟨user, huser, raw, hraw, hmem⟩ := hrule
  obtain ⟨user', huser', hnodes, hgroups⟩ := h.users.lookup_eq_some huser
  refine ⟨user', huser', raw, hraw, ?_⟩
  rcases hmem with hmem | ⟨g, group, ⟨root, hroot, hreach⟩, hgroup, hmem⟩
  · exact .inl (hnodes.mem_iff.mp hmem)
  · obtain ⟨group', hgroup', hnodes', -⟩ := h.groups.lookup_eq_some hgroup
    refine .inr ⟨g, group', ⟨root, hgroups.mem_iff.mp hroot, ?_⟩, hgroup', hnodes'.mem_iff.mp hmem⟩
    exact Relation.ReflTransGen.mono (fun _ _ => h.isParent) _ _ hreach

theorem hasRule_iff (h : Reordered store store') (uuid node : String) (allow : Bool) :
    HasRule store uuid node allow ↔ HasRule store' uuid node allow :=
  ⟨h.hasRule, h.symm.hasRule⟩

end Reordered

/-- **Deny wins, in every order of iteration.**  Whatever order the sets and maps of `store` are iterated
in, `effective_decisions` returns the decisions the user's rules stand for, and `has` the decision of the
first candidate entry that exists. -/
theorem effective_permissions_deny_wins (store store' : PermissionStore) (uuid : String) (fuel : ℕ)
    (horder : Reordered store store') (hfuel : store'.groups.entries.length < fuel) :
    ∃ d, effectiveDecisions fuel store' uuid = some d ∧ DenyWins (HasRule store uuid) d ∧
      (∀ q, trim q ≠ "" → has fuel store' uuid q =
        some (((candidates (trim q)).findSome? fun n => d.lookup n).getD false)) ∧
      (store.users.lookup uuid = none → ∀ q, has fuel store' uuid q = some false) := by
  obtain ⟨d, hd, hwins⟩ := exists_effectiveDecisions hfuel uuid
  have hwins := hwins.congr fun node allow => (horder.hasRule_iff uuid node allow).symm
  have hhas (q : String) : has fuel store' uuid q = some (checkNode d q) := by rw [has, hd]; rfl
  refine ⟨d, hd, hwins, fun q hq => by rw [hhas, checkNode_eq d hq], fun hunknown q => ?_⟩
  have hnone (node : String) : d.lookup node = none := by
    apply hwins.undefined <;>
    · rintro ⟨user, huser, -⟩
      rw [hunknown] at huser
      cases huser
  rw [hhas]
  by_cases hq : trim q = ""
  · rw [checkNode]
    exact congrArg some (if_pos hq)
  · rw [checkNode_eq d hq, List.findSome?_eq_none_iff.mpr fun n _ => hnone n]
    rfl

/-- A store whose groups `a` and `b` are each other's parents and whose group `c` is missing; `order` is
the order its sets are iterated in. -/
def cyclicStore (order : HashSet String → HashSet String) : PermissionStore where
  users := AList.insert "u"
    { uuid := "u", groups := order ⟨["a", "c"], by decide⟩,
      nodes := order ⟨[" basis.test.*", "basis.door"], by decide⟩ } ∅
  groups := AList.insert "a"
    { name := "a", parents := order ⟨["b", "c"], by decide⟩, nodes := order ⟨["- basis.door "], by decide⟩ }
    (AList.insert "b"
      { name := "b", parents := order ⟨["a"], by decide⟩,
        nodes := order ⟨["basis.door", "*", "-"], by decide⟩ } ∅)

lemma cyclicStore_reordered {order : HashSet String → HashSet String}
    (horder : ∀ s : HashSet String, s.elems.Perm (order s).elems) : Reordered (cyclicStore id) (cyclicStore order) := by
  constructor <;> intro name <;> simp only [cyclicStore, Dict.lookup_insert, AList.lookup_empty]
  · split
    · exact .some ⟨horder _, horder _⟩
    · exact .none
  · split
    · exact .some ⟨horder _, horder _⟩
    · split
      · exact .some ⟨horder _, horder _⟩
      · exact .none

theorem effective_permissions_deny_wins_cyclic :
    let reversed := cyclicStore fun s => ⟨s.elems.reverse, List.nodup_reverse.mpr s.nodup⟩
    ∃ d, effectiveDecisions 3 reversed "u" = some d ∧ DenyWins (HasRule (cyclicStore id) "u") d ∧
      has 3 reversed "u" " basis.test.x.y" = some true ∧ has 3 reversed "u" "basis.door" = some false ∧
      has 3 reversed "v" "basis.door" = some false := by
  intro reversed
  obtain ⟨d, hd, hwins, -⟩ := effective_permissions_deny_wins (cyclicStore id) reversed "u" 3
    (cyclicStore_reordered fun s => (List.reverse_perm _).symm) (by decide)
  exact ⟨d, hd, hwins, by decide +kernel, by decide +kernel, by decide +kernel⟩

end BasisRust.Permissions
