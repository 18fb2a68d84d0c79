import TableQuery.Proofs.Except
import TableQuery.Request

/-!
# Nodes of a filter

A node holds lists of nodes inside lists of members, and the functions on it recurse through both.
This file gives the recursion one shape: `Node.induct` is induction with a hypothesis for every node
of every member, and the functions on lists of nodes and of members are `flatMap` and `mapM` of the
one on nodes.

`Filter.entries` lists every condition of a filter with its field, in written order.  The fields of
the filter are those of its entries, though several conditions at one node name theirs only once
(`repeats_paths`).
-/

namespace TableQuery.Filter

/-- Induction over nodes: a group may assume the claim of every node of its members. -/
@[elab_as_elim, induction_eliminator]
theorem Node.induct {motive : Node → Prop}
    (field : ∀ path first rest, motive (.field path first rest))
    (group : ∀ connective members, (∀ member ∈ members, ∀ node ∈ member, motive node) →
      motive (.group connective members)) (node : Node) : motive node :=
  @Node.rec motive (fun members => ∀ member ∈ members, ∀ node ∈ member, motive node)
    (fun nodes => ∀ node ∈ nodes, motive node) field group
    (fun _ hmember => nomatch hmember)
    (fun _ _ hfirst hrest => List.forall_mem_cons.2 ⟨hfirst, hrest⟩)
    (fun _ hnode => nomatch hnode)
    (fun _ _ hfirst hrest => List.forall_mem_cons.2 ⟨hfirst, hrest⟩) node

/-! ## Fields -/

@[simp] theorem nodePaths_eq_flatMap (nodes : List Node) :
    nodePaths nodes = nodes.flatMap Node.paths := by
  induction nodes with
  | nil => rfl
  | cons node rest ih => rw [nodePaths, ih, List.flatMap_cons]

@[simp] theorem memberPaths_eq_flatMap (members : List (List Node)) :
    memberPaths members = members.flatMap nodePaths := by
  induction members with
  | nil => rfl
  | cons member rest ih => rw [memberPaths, ih, List.flatMap_cons]

/-- The fields of nodes are those of each. -/
theorem mem_nodePaths {nodes : List Node} {path : FieldPath} :
    path ∈ nodePaths nodes ↔ ∃ node ∈ nodes, path ∈ node.paths := by
  rw [nodePaths_eq_flatMap, List.mem_flatMap]

/-- The fields of members are those of each of their nodes. -/
theorem mem_memberPaths {members : List (List Node)} {path : FieldPath} :
    path ∈ memberPaths members ↔ ∃ member ∈ members, ∃ node ∈ member, path ∈ node.paths := by
  rw [memberPaths_eq_flatMap, List.mem_flatMap]
  simp only [mem_nodePaths]

/-! ## Conditions -/

mutual

/-- The conditions of a node with their fields. -/
def Node.entries : Node → List (FieldPath × Condition)
  | .field path first rest => (first :: rest).map (Prod.mk path)
  | .group _ members => memberEntries members
termination_by structural node => node

/-- The conditions of the members of a group with their fields. -/
def memberEntries : List (List Node) → List (FieldPath × Condition)
  | [] => []
  | member :: rest => nodeEntries member ++ memberEntries rest
termination_by structural members => members

/-- The conditions of a list of nodes with their fields. -/
def nodeEntries : List Node → List (FieldPath × Condition)
  | [] => []
  | node :: rest => node.entries ++ nodeEntries rest
termination_by structural nodes => nodes

end

/-- Every condition of a filter with its field, in written order. -/
def entries (filter : Filter) : List (FieldPath × Condition) :=
  nodeEntries filter.nodes

@[simp] theorem nodeEntries_eq_flatMap (nodes : List Node) :
    nodeEntries nodes = nodes.flatMap Node.entries := by
  induction nodes with
  | nil => rfl
  | cons node rest ih => rw [nodeEntries, ih, List.flatMap_cons]

@[simp] theorem memberEntries_eq_flatMap (members : List (List Node)) :
    memberEntries members = members.flatMap nodeEntries := by
  induction members with
  | nil => rfl
  | cons member rest ih => rw [memberEntries, ih, List.flatMap_cons]

/-- The conditions of nodes are those of each. -/
theorem mem_nodeEntries {nodes : List Node} {entry : FieldPath × Condition} :
    entry ∈ nodeEntries nodes ↔ ∃ node ∈ nodes, entry ∈ node.entries := by
  rw [nodeEntries_eq_flatMap, List.mem_flatMap]

/-- The conditions of members are those of each of their nodes. -/
theorem mem_memberEntries {members : List (List Node)} {entry : FieldPath × Condition} :
    entry ∈ memberEntries members ↔ ∃ member ∈ members, ∃ node ∈ member, entry ∈ node.entries := by
  rw [memberEntries_eq_flatMap, List.mem_flatMap]
  simp only [mem_nodeEntries]

/-- A node names the fields that it has conditions on. -/
theorem Node.mem_paths_iff (node : Node) {path : FieldPath} :
    path ∈ node.paths ↔ ∃ condition, (path, condition) ∈ node.entries := by
  induction node with
  | field own first rest =>
    constructor
    · intro hpath
      rw [List.mem_singleton.1 hpath]
      exact ⟨first, List.mem_cons_self⟩
    · intro hentry
      obtain ⟨condition, hmem⟩ := hentry
      obtain ⟨_, -, heq⟩ := List.mem_map.1 hmem
      cases heq
      exact List.mem_cons_self
  | group connective members ih =>
    rw [Node.paths, Node.entries, mem_memberPaths]
    simp only [mem_memberEntries]
    constructor
    · intro hpath
      obtain ⟨member, hmember, node, hnode, hown⟩ := hpath
      obtain ⟨condition, hentry⟩ := (ih member hmember node hnode).1 hown
      exact ⟨condition, member, hmember, node, hnode, hentry⟩
    · intro hentry
      obtain ⟨condition, member, hmember, node, hnode, hown⟩ := hentry
      exact ⟨member, hmember, node, hnode, (ih member hmember node hnode).2 ⟨condition, hown⟩⟩

/-- A filter names the fields that it has conditions on. -/
theorem mem_paths_iff {filter : Filter} {path : FieldPath} :
    path ∈ filter.paths ↔ ∃ condition, (path, condition) ∈ filter.entries := by
  unfold paths entries
  rw [mem_nodePaths]
  simp only [mem_nodeEntries, Node.mem_paths_iff]
  tauto

/-- A filter names no field exactly when it has no condition. -/
theorem paths_eq_nil_iff {filter : Filter} : filter.paths = [] ↔ filter.entries = [] := by
  rw [List.eq_nil_iff_forall_not_mem, List.eq_nil_iff_forall_not_mem]
  simp only [mem_paths_iff, Prod.forall, not_exists]

/-- The second list is the first one with every element once or more often in a row. -/
inductive Repeats {α : Type} : List α → List α → Prop where
  | nil : Repeats [] []
  | next (a : α) {once often : List α} (hrest : Repeats once often) :
      Repeats (a :: once) (a :: often)
  | again (a : α) {once often : List α} (hrest : Repeats (a :: once) often) :
      Repeats (a :: once) (a :: often)

theorem Repeats.append {α : Type} {once often more oftenMore : List α}
    (hfirst : Repeats once often) (hlast : Repeats more oftenMore) :
    Repeats (once ++ more) (often ++ oftenMore) := by
  induction hfirst with
  | nil => exact hlast
  | next a hrest ih => exact .next a ih
  | again a hrest ih => exact .again a ih

/-- The fields of nodes are those of their conditions, if so it is for each node. -/
theorem repeats_nodePaths_of {nodes : List Node}
    (hnodes : ∀ node ∈ nodes, Repeats node.paths (node.entries.map Prod.fst)) :
    Repeats (nodePaths nodes) ((nodeEntries nodes).map Prod.fst) := by
  induction nodes with
  | nil => exact .nil
  | cons node rest ih =>
    rw [List.forall_mem_cons] at hnodes
    rw [nodePaths, nodeEntries, List.map_append]
    exact hnodes.1.append (ih hnodes.2)

/-- A node names the field of each of its conditions, and conditions that share a field node name
their field once. -/
theorem Node.repeats_paths (node : Node) : Repeats node.paths (node.entries.map Prod.fst) := by
  induction node with
  | field path first rest =>
    rw [Node.paths, Node.entries, List.map_map]
    induction rest generalizing first with
    | nil => exact .next path .nil
    | cons second rest ih => exact .again path (ih second)
  | group connective members ih =>
    rw [Node.paths, Node.entries]
    induction members with
    | nil => exact .nil
    | cons member rest ihrest =>
      rw [List.forall_mem_cons] at ih
      rw [memberPaths, memberEntries, List.map_append]
      exact (repeats_nodePaths_of ih.1).append (ihrest ih.2)

/-- A filter names the fields of its conditions in their order, once for every field node. -/
theorem repeats_paths (filter : Filter) :
    Repeats filter.paths (filter.entries.map Prod.fst) :=
  repeats_nodePaths_of fun node _ => node.repeats_paths

/-- What holds of the conditions of nodes holds of those of each. -/
theorem forall_mem_nodeEntries {nodes : List Node} {holds : FieldPath × Condition → Prop} :
    (∀ entry ∈ nodeEntries nodes, holds entry) ↔
      ∀ node ∈ nodes, ∀ entry ∈ node.entries, holds entry := by
  rw [nodeEntries_eq_flatMap, List.forall_mem_flatMap]

/-- What holds of the conditions of members holds of those of each of their nodes. -/
theorem forall_mem_memberEntries {members : List (List Node)}
    {holds : FieldPath × Condition → Prop} :
    (∀ entry ∈ memberEntries members, holds entry) ↔
      ∀ member ∈ members, ∀ node ∈ member, ∀ entry ∈ node.entries, holds entry := by
  rw [memberEntries_eq_flatMap, List.forall_mem_flatMap]
  simp only [forall_mem_nodeEntries]

/-! ## Resolving -/

section Resolving

variable {schema : Schema} {root : String}

/-- A list of nodes resolves to what its nodes resolve to, in order. -/
theorem resolveNodes_cons_eq_ok {node : Node} {rest : List Node} {predicates : List Predicate} :
    resolveNodes schema root (node :: rest) = .ok predicates ↔
      ∃ first later, node.resolve schema root = .ok first ∧
        resolveNodes schema root rest = .ok later ∧ first ++ later = predicates := by
  rw [resolveNodes, Except.bind_eq_ok]
  simp only [Except.bind_eq_ok]
  constructor
  · intro hrun
    obtain ⟨first, hfirst, later, hlater, heq⟩ := hrun
    cases heq
    exact ⟨first, later, hfirst, hlater, rfl⟩
  · intro hsteps
    obtain ⟨first, later, hfirst, hlater, rfl⟩ := hsteps
    exact ⟨first, hfirst, later, hlater, rfl⟩

/-- Nodes resolve one by one, and their predicates follow one another. -/
theorem resolveNodes_eq_mapM (nodes : List Node) :
    resolveNodes schema root nodes = (nodes.mapM (Node.resolve schema root)).map List.flatten := by
  induction nodes with
  | nil => rfl
  | cons node rest ih =>
    rw [resolveNodes, ih, List.mapM_cons]
    cases node.resolve schema root with
    | error error => rfl
    | ok first => cases rest.mapM (Node.resolve schema root) <;> rfl

/-- Every node of a list that resolves does so itself. -/
theorem exists_resolve_of_mem {nodes : List Node} {predicates : List Predicate}
    (hresolve : resolveNodes schema root nodes = .ok predicates) {node : Node}
    (hmem : node ∈ nodes) : ∃ part, node.resolve schema root = .ok part := by
  rw [resolveNodes_eq_mapM, Except.map_eq_ok] at hresolve
  obtain ⟨parts, hparts, -⟩ := hresolve
  obtain ⟨part, -, hpart⟩ := Except.exists_of_mem_left (Except.mapM_eq_ok.1 hparts) hmem
  exact ⟨part, hpart⟩

/-- Members resolve one by one. -/
theorem resolveMembers_eq_mapM (members : List (List Node)) :
    resolveMembers schema root members = members.mapM (resolveNodes schema root) := by
  induction members with
  | nil => rfl
  | cons member rest ih => rw [resolveMembers, ih, List.mapM_cons]

/-- Conditions that pass their check are no memberships in nothing. -/
theorem isVoid_of_check {conditions : List Condition}
    (hcheck : conditions.forM Condition.check = .ok ()) :
    ∀ condition ∈ conditions, condition.isVoid = false := by
  intro condition hcondition
  have hown := Except.forM_eq_ok.1 hcheck condition hcondition
  unfold Condition.check at hown
  split at hown
  · cases hown
  · rename_i hvoid
    simpa using hvoid

/-- A field node resolves when its conditions pass their check and its path has a column. -/
theorem resolveField_eq_ok {path : FieldPath} {conditions : List Condition}
    {predicates : List Predicate} :
    resolveField schema root path conditions = .ok predicates ↔
      conditions.forM Condition.check = .ok () ∧
        ∃ column, path.columnRef schema root = .ok column ∧
          conditions.map (Predicate.comparison column) = predicates := by
  rw [resolveField, Except.bind_eq_ok]
  simp only [Except.bind_eq_ok]
  constructor
  · intro hrun
    obtain ⟨_, hcheck, column, hcolumn, heq⟩ := hrun
    cases heq
    exact ⟨hcheck, column, hcolumn, rfl⟩
  · intro hsteps
    obtain ⟨hcheck, column, hcolumn, rfl⟩ := hsteps
    exact ⟨(), hcheck, column, hcolumn, rfl⟩

/-- A group resolves to one predicate or to none. -/
theorem resolve_group_eq_ok {connective : Connective} {members : List (List Node)}
    {predicates : List Predicate} :
    Node.resolve schema root (.group connective members) = .ok predicates ↔
      ∃ resolved, List.Forall₂ (fun member part => resolveNodes schema root member = .ok part)
          members resolved ∧ resolvedGroup connective resolved = predicates := by
  rw [Node.resolve, Except.bind_eq_ok]
  simp only [resolveMembers_eq_mapM, Except.mapM_eq_ok]
  constructor
  · intro hrun
    obtain ⟨resolved, hresolved, heq⟩ := hrun
    cases heq
    exact ⟨resolved, hresolved, rfl⟩
  · intro hsteps
    obtain ⟨resolved, hresolved, rfl⟩ := hsteps
    exact ⟨resolved, hresolved, rfl⟩

/-- Every node in a group that resolves does so itself. -/
theorem exists_resolve_of_mem_group {connective : Connective} {members : List (List Node)}
    {predicates : List Predicate}
    (hresolve : Node.resolve schema root (.group connective members) = .ok predicates)
    {member : List Node} (hmember : member ∈ members) {node : Node} (hnode : node ∈ member) :
    ∃ part, node.resolve schema root = .ok part := by
  obtain ⟨resolved, hresolved, -⟩ := resolve_group_eq_ok.1 hresolve
  obtain ⟨part, -, hpart⟩ := Except.exists_of_mem_left hresolved hmember
  exact exists_resolve_of_mem hpart hnode

/-- Either no member asks for anything and a group is left out, or the members that do make
a group. -/
theorem resolvedGroup_cases (connective : Connective) (members : List (List Predicate)) :
    (∀ member ∈ members, member = []) ∧ resolvedGroup connective members = [] ∨
      members.filter (fun member => !member.isEmpty) ≠ [] ∧
        resolvedGroup connective members =
          [.group connective (members.filter (fun member => !member.isEmpty))] := by
  unfold resolvedGroup
  split
  · rename_i hnone
    left
    refine ⟨fun member hmember => ?_, rfl⟩
    simpa using List.filter_eq_nil_iff.1 hnone member hmember
  · rename_i hsome
    exact Or.inr ⟨hsome, rfl⟩

/-- A list of nodes resolves to nothing when it names no field, if its nodes do. -/
theorem resolveNodes_eq_nil_iff_of {nodes : List Node} (hnodes : ∀ node ∈ nodes, ∀ {part},
      node.resolve schema root = .ok part → (part = [] ↔ node.paths = []))
    {predicates : List Predicate} (hresolve : resolveNodes schema root nodes = .ok predicates) :
    predicates = [] ↔ nodePaths nodes = [] := by
  induction nodes generalizing predicates with
  | nil =>
    cases hresolve
    exact ⟨fun _ => rfl, fun _ => rfl⟩
  | cons node rest ih =>
    rw [List.forall_mem_cons] at hnodes
    obtain ⟨first, later, hfirst, hlater, rfl⟩ := resolveNodes_cons_eq_ok.1 hresolve
    rw [nodePaths, List.append_eq_nil_iff, List.append_eq_nil_iff, hnodes.1 hfirst,
      ih hnodes.2 hlater]

/-- A node resolves to nothing exactly when it names no field. -/
theorem resolve_eq_nil_iff (node : Node) : ∀ {predicates : List Predicate},
    node.resolve schema root = .ok predicates → (predicates = [] ↔ node.paths = []) := by
  induction node with
  | field path first rest =>
    intro predicates hresolve
    obtain ⟨-, column, -, rfl⟩ := resolveField_eq_ok.1 hresolve
    simp [Node.paths]
  | group connective members ih =>
    intro predicates hresolve
    obtain ⟨resolved, hresolved, rfl⟩ := resolve_group_eq_ok.1 hresolve
    have hall : (∀ part ∈ resolved, part = []) ↔ memberPaths members = [] := by
      clear hresolve
      induction hresolved with
      | nil => simp
      | cons hmember hrest ihrest =>
        rw [List.forall_mem_cons] at ih
        rw [List.forall_mem_cons, memberPaths, List.append_eq_nil_iff, ihrest ih.2,
          resolveNodes_eq_nil_iff_of ih.1 hmember]
    rw [Node.paths, ← hall]
    rcases resolvedGroup_cases connective resolved with ⟨hempty, hgroup⟩ | ⟨hkept, hgroup⟩
    · exact ⟨fun _ => hempty, fun _ => hgroup⟩
    · rw [hgroup]
      refine ⟨fun h => absurd h (List.cons_ne_nil _ _), fun hempty => absurd ?_ hkept⟩
      rw [List.filter_eq_nil_iff]
      intro part hpart
      simp [hempty part hpart]

/-- A list of nodes resolves to nothing exactly when it names no field. -/
theorem resolveNodes_eq_nil_iff {nodes : List Node} {predicates : List Predicate}
    (hresolve : resolveNodes schema root nodes = .ok predicates) :
    predicates = [] ↔ nodePaths nodes = [] :=
  resolveNodes_eq_nil_iff_of (fun node _ => resolve_eq_nil_iff node) hresolve

/-- Every predicate that a list of nodes resolves to comes from one of the nodes. -/
theorem exists_of_mem_resolveNodes {nodes : List Node} {predicates : List Predicate}
    (hresolve : resolveNodes schema root nodes = .ok predicates) {predicate : Predicate}
    (hmem : predicate ∈ predicates) :
    ∃ node ∈ nodes, ∃ part, node.resolve schema root = .ok part ∧ predicate ∈ part := by
  rw [resolveNodes_eq_mapM, Except.map_eq_ok] at hresolve
  obtain ⟨parts, hparts, rfl⟩ := hresolve
  obtain ⟨part, hpart, hinner⟩ := List.mem_flatten.1 hmem
  obtain ⟨node, hnode, hown⟩ := Except.exists_of_mem (Except.mapM_eq_ok.1 hparts) hpart
  exact ⟨node, hnode, part, hown, hinner⟩

/-- Every predicate in a member of a group comes from a node of a member. -/
theorem exists_of_mem_resolvedMembers {members : List (List Node)}
    {resolved : List (List Predicate)}
    (hresolved : List.Forall₂ (fun member part => resolveNodes schema root member = .ok part)
      members resolved) {part : List Predicate} (hpart : part ∈ resolved) {predicate : Predicate}
    (hmem : predicate ∈ part) :
    ∃ member ∈ members, ∃ node ∈ member, ∃ own, node.resolve schema root = .ok own ∧
      predicate ∈ own := by
  obtain ⟨member, hmember, hresolve⟩ := Except.exists_of_mem hresolved hpart
  obtain ⟨node, hnode, own, hown, hinner⟩ := exists_of_mem_resolveNodes hresolve hmem
  exact ⟨member, hmember, node, hnode, own, hown, hinner⟩

/-- Every field that a node names has a column when the node resolves. -/
theorem exists_columnRef_of_resolve (node : Node) : ∀ {predicates : List Predicate},
    node.resolve schema root = .ok predicates →
      ∀ path ∈ node.paths, ∃ column, path.columnRef schema root = .ok column := by
  induction node with
  | field path first rest =>
    intro predicates hresolve other hother
    obtain ⟨-, column, hcolumn, -⟩ := resolveField_eq_ok.1 hresolve
    rw [List.mem_singleton.1 hother]
    exact ⟨column, hcolumn⟩
  | group connective members ih =>
    intro predicates hresolve path hpath
    obtain ⟨member, hmember, node, hnode, hpathNode⟩ := mem_memberPaths.1 hpath
    obtain ⟨own, hown⟩ := exists_resolve_of_mem_group hresolve hmember hnode
    exact ih member hmember node hnode hown path hpathNode

/-- No condition of a node that resolves is a membership in nothing. -/
theorem isVoid_of_resolve (node : Node) : ∀ {predicates : List Predicate},
    node.resolve schema root = .ok predicates →
      ∀ entry ∈ node.entries, entry.2.isVoid = false := by
  induction node with
  | field path first rest =>
    intro predicates hresolve entry hentry
    obtain ⟨hcheck, -⟩ := resolveField_eq_ok.1 hresolve
    obtain ⟨condition, hcondition, rfl⟩ := List.mem_map.1 hentry
    exact isVoid_of_check hcheck condition hcondition
  | group connective members ih =>
    intro predicates hresolve entry hentry
    obtain ⟨member, hmember, node, hnode, hown⟩ := mem_memberEntries.1 hentry
    obtain ⟨part, hpart⟩ := exists_resolve_of_mem_group hresolve hmember hnode
    exact ih member hmember node hnode hpart entry hown

end Resolving

end TableQuery.Filter
