import TableQuery.Proofs.Request
import TableQuery.Proofs.Statement.Built

/-!
# Conditions that share a node

Conditions on one field that are added one after the other share a node, while those of
a declaration have as many nodes as the declaration has objects for them.  The nodes decide how often
a field is named, and which of two faults is met first; they do not show in a statement.

`Node.apart` gives every condition a node of its own, at every depth.  What a filter resolves to is
what it resolves to apart (`matches_apart`), and its joins are those of its conditions, since a field
that is named again brings in nothing new (`joins_eq_ok_iff`).  So filters that are alike apart have
the same statements.
-/

namespace TableQuery.Filter

/-! ## Every condition in a node of its own -/

mutual

/-- The nodes that a node falls into when no two conditions share one. -/
def Node.apart : Node → List Node
  | .field path first rest => (first :: rest).map fun condition => .field path condition []
  | .group connective members => [.group connective (membersApart members)]
termination_by structural node => node

/-- The members of a group with every condition in a node of its own. -/
def membersApart : List (List Node) → List (List Node)
  | [] => []
  | member :: rest => nodesApart member :: membersApart rest
termination_by structural members => members

/-- Nodes with every condition in one of its own. -/
def nodesApart : List Node → List Node
  | [] => []
  | node :: rest => node.apart ++ nodesApart rest
termination_by structural nodes => nodes

end

theorem nodesApart_eq_flatMap (nodes : List Node) : nodesApart nodes = nodes.flatMap Node.apart := by
  induction nodes with
  | nil => rfl
  | cons node rest ih => rw [nodesApart, ih, List.flatMap_cons]

theorem membersApart_eq_map (members : List (List Node)) :
    membersApart members = members.map nodesApart := by
  induction members with
  | nil => rfl
  | cons member rest ih => rw [membersApart, ih, List.map_cons]

theorem nodesApart_append (nodes more : List Node) :
    nodesApart (nodes ++ more) = nodesApart nodes ++ nodesApart more := by
  rw [nodesApart_eq_flatMap, nodesApart_eq_flatMap, nodesApart_eq_flatMap, List.flatMap_append]

/-- The filters are the same once no two conditions share a node. -/
def Alike (filter other : Filter) : Prop :=
  nodesApart filter.nodes = nodesApart other.nodes

/-! ## The conditions -/

theorem nodeEntries_apart_of {nodes : List Node}
    (hnodes : ∀ node ∈ nodes, nodeEntries node.apart = node.entries) :
    nodeEntries (nodesApart nodes) = nodeEntries nodes := by
  induction nodes with
  | nil => rfl
  | cons node rest ih =>
    rw [List.forall_mem_cons] at hnodes
    rw [nodesApart, nodeEntries_eq_flatMap, List.flatMap_append, ← nodeEntries_eq_flatMap,
      ← nodeEntries_eq_flatMap, hnodes.1, ih hnodes.2, nodeEntries]

/-- A node has the same conditions apart. -/
theorem nodeEntries_apart (node : Node) : nodeEntries node.apart = node.entries := by
  induction node with
  | field path first rest =>
    rw [Node.apart, Node.entries, nodeEntries_eq_flatMap, List.flatMap_map, List.map_eq_flatMap]
    rfl
  | group connective members ih =>
    rw [Node.apart, nodeEntries_eq_flatMap, List.flatMap_singleton, Node.entries, Node.entries,
      memberEntries_eq_flatMap, memberEntries_eq_flatMap, membersApart_eq_map, List.flatMap_map]
    exact List.flatMap_congr fun member hmember => nodeEntries_apart_of (ih member hmember)

/-- Filters that are alike have the same conditions in the same order. -/
theorem Alike.entries_eq {filter other : Filter} (halike : filter.Alike other) :
    filter.entries = other.entries := by
  have hapart (own : Filter) : nodeEntries (nodesApart own.nodes) = own.entries :=
    nodeEntries_apart_of fun node _ => nodeEntries_apart node
  rw [← hapart filter, ← hapart other, halike]

/-! ## What is resolved -/

section Resolving

variable {schema : Schema} {root : String}

theorem resolveNodes_singleton (node : Node) :
    resolveNodes schema root [node] = node.resolve schema root := by
  rw [resolveNodes]
  cases node.resolve schema root with
  | error failure => rfl
  | ok predicates => exact congrArg Except.ok (List.append_nil predicates)

theorem resolveNodes_append (nodes more : List Node) :
    resolveNodes schema root (nodes ++ more) = (do
      let predicates ← resolveNodes schema root nodes
      return predicates ++ (← resolveNodes schema root more)) := by
  induction nodes with
  | nil =>
    rw [List.nil_append]
    show _ = (resolveNodes schema root more).map id
    cases resolveNodes schema root more <;> rfl
  | cons node rest ih =>
    rw [List.cons_append, resolveNodes, resolveNodes, ih]
    cases node.resolve schema root with
    | error failure => rfl
    | ok first =>
      cases resolveNodes schema root rest with
      | error failure => rfl
      | ok later =>
        cases resolveNodes schema root more with
        | error failure => rfl
        | ok last => exact congrArg Except.ok (List.append_assoc first later last).symm

/-- Conditions on one field resolve apart to what they resolve to together. -/
theorem resolveNodes_conditions_eq_ok {path : FieldPath} {first : Condition} {rest : List Condition}
    {predicates : List Predicate} :
    resolveNodes schema root ((first :: rest).map fun condition => .field path condition []) =
        .ok predicates ↔
      resolveField schema root path (first :: rest) = .ok predicates := by
  induction rest generalizing first predicates with
  | nil =>
    rw [List.map_singleton, resolveNodes_singleton]
    exact Iff.rfl
  | cons second rest ih =>
    rw [List.map_cons]
    constructor
    · intro hrun
      obtain ⟨own, later, hown, hlater, rfl⟩ := resolveNodes_cons_eq_ok.1 hrun
      obtain ⟨hcheck, column, hcolumn, rfl⟩ := resolveField_eq_ok.1 hown
      obtain ⟨hchecks, other, hother, rfl⟩ := resolveField_eq_ok.1 (ih.1 hlater)
      rw [hcolumn] at hother
      cases hother
      rw [Except.forM_eq_ok] at hcheck hchecks
      refine resolveField_eq_ok.2 ⟨?_, column, hcolumn, rfl⟩
      rw [Except.forM_eq_ok, List.forall_mem_cons]
      exact ⟨hcheck first List.mem_cons_self, hchecks⟩
    · intro hrun
      obtain ⟨hchecks, column, hcolumn, rfl⟩ := resolveField_eq_ok.1 hrun
      rw [Except.forM_eq_ok, List.forall_mem_cons] at hchecks
      have hown : resolveField schema root path [first] = .ok [.comparison column first] := by
        refine resolveField_eq_ok.2 ⟨?_, column, hcolumn, rfl⟩
        rw [Except.forM_eq_ok, List.forall_mem_singleton]
        exact hchecks.1
      have hlater : resolveField schema root path (second :: rest) =
          .ok ((second :: rest).map (.comparison column)) :=
        resolveField_eq_ok.2 ⟨Except.forM_eq_ok.2 hchecks.2, column, hcolumn, rfl⟩
      exact resolveNodes_cons_eq_ok.2 ⟨_, _, hown, ih.2 hlater, rfl⟩

/-- Nodes resolve apart as they do together, if so it is for each of them. -/
theorem matches_nodesApart_of {nodes : List Node} (hnodes : ∀ node ∈ nodes,
      Except.Matches id (resolveNodes schema root node.apart) (node.resolve schema root)) :
    Except.Matches id (resolveNodes schema root (nodesApart nodes))
      (resolveNodes schema root nodes) := by
  induction nodes with
  | nil => exact .refl _
  | cons node rest ih =>
    rw [List.forall_mem_cons] at hnodes
    rw [nodesApart, resolveNodes_append, resolveNodes]
    exact hnodes.1.bind fun first => (ih hnodes.2).bind fun later => .refl _

/-- A node resolves apart as it does together. -/
theorem matches_apart (node : Node) :
    Except.Matches id (resolveNodes schema root node.apart) (node.resolve schema root) := by
  induction node with
  | field path first rest =>
    rw [Node.apart, Node.resolve]
    exact .of_ok_iff fun predicates => resolveNodes_conditions_eq_ok
  | group connective members ih =>
    rw [Node.apart, resolveNodes_singleton, Node.resolve, Node.resolve]
    refine Except.Matches.bind (f := id) ?_ fun resolved => .refl _
    induction members with
    | nil => exact .refl _
    | cons member rest ihrest =>
      rw [List.forall_mem_cons] at ih
      rw [membersApart, resolveMembers, resolveMembers]
      exact (matches_nodesApart_of ih.1).bind fun first => (ihrest ih.2).bind fun later => .refl _

/-- Filters that are alike resolve to the same predicates. -/
theorem Alike.resolve_eq_ok_iff {filter other : Filter} (halike : filter.Alike other)
    {predicates : List Predicate} :
    filter.resolve schema root = .ok predicates ↔ other.resolve schema root = .ok predicates := by
  have hapart (own : Filter) : resolveNodes schema root (nodesApart own.nodes) = .ok predicates ↔
      own.resolve schema root = .ok predicates :=
    (matches_nodesApart_of fun node _ => matches_apart node).ok_iff
  rw [← hapart filter, ← hapart other, halike]

/-- Filters that are alike compile to the same text. -/
theorem Alike.compile_eq_ok_iff {filter other : Filter} (halike : filter.Alike other)
    {text : String} :
    filter.compile schema root = .ok text ↔ other.compile schema root = .ok text := by
  unfold compile
  simp only [Except.map_eq_ok, halike.resolve_eq_ok_iff]

/-! ## What is joined -/

theorem Repeats.mem_iff {α : Type} {once often : List α} (hrepeats : Repeats once often) (a : α) :
    a ∈ often ↔ a ∈ once := by
  induction hrepeats with
  | nil => exact Iff.rfl
  | next b hrest ih => rw [List.mem_cons, List.mem_cons, ih]
  | again b hrest ih => rw [List.mem_cons, ih, List.mem_cons, or_self_left]

/-- What an element brings in once more has been brought in by then. -/
theorem Repeats.eraseDups_flatMap {α β : Type} [DecidableEq β] {once often : List α}
    (hrepeats : Repeats once often) (brings : α → List β) (before after : List β) :
    (before ++ often.flatMap brings ++ after).eraseDups =
      (before ++ once.flatMap brings ++ after).eraseDups := by
  induction hrepeats generalizing before with
  | nil => rfl
  | next a hrest ih =>
    rw [List.flatMap_cons, List.flatMap_cons, ← List.append_assoc, ← List.append_assoc, ih]
  | @again a once often hrest ih =>
    have hthere : ∀ b ∈ brings a, b ∈ before ++ brings a :=
      fun b hb => List.mem_append_right before hb
    calc (before ++ (a :: often).flatMap brings ++ after).eraseDups
        = (before ++ brings a ++ often.flatMap brings ++ after).eraseDups := by
          simp only [List.flatMap_cons, List.append_assoc]
      _ = (before ++ brings a ++ brings a ++ (once.flatMap brings ++ after)).eraseDups := by
          rw [ih]
          simp only [List.flatMap_cons, List.append_assoc]
      _ = (before ++ brings a ++ (once.flatMap brings ++ after)).eraseDups :=
          Keyed.eraseDups_append_append _ hthere
      _ = (before ++ (a :: once).flatMap brings ++ after).eraseDups := by
          simp only [List.flatMap_cons, List.append_assoc]

/-- The joins of a request under a filter are decided by the fields of its conditions. -/
theorem joins_under_eq_ok {request : Request} {filter : Filter} {joins : List Join} :
    (request.under filter).joins schema root = .ok joins ↔
      let paths := request.selected ++ filter.entries.map Prod.fst ++
        (request.groupBy ++ request.orderBy.map OrderTerm.path)
      (∀ path ∈ paths, ∃ resolution, path.resolve schema root = .ok resolution) ∧
        joins = (paths.flatMap (Request.ownJoins schema root)).eraseDups := by
  have hpaths : (request.under filter).paths = request.selected ++ filter.paths ++
      (request.groupBy ++ request.orderBy.map OrderTerm.path) :=
    List.append_assoc (request.selected ++ filter.paths) request.groupBy _
  have hrepeats := repeats_paths filter
  rw [Request.joins_eq_ok_ownJoins, hpaths]
  simp only [List.flatMap_append, hrepeats.eraseDups_flatMap, List.mem_append, hrepeats.mem_iff]

/-- Filters that are alike need the same joins. -/
theorem Alike.joins_eq_ok_iff {filter other : Filter} (halike : filter.Alike other)
    {request : Request} {joins : List Join} :
    (request.under filter).joins schema root = .ok joins ↔
      (request.under other).joins schema root = .ok joins := by
  rw [joins_under_eq_ok, joins_under_eq_ok, halike.entries_eq]

/-- Filters that are alike have the same selections. -/
theorem Alike.find_eq_ok_iff {filter other : Filter} (halike : filter.Alike other)
    {request : Request} {statement : Statement} :
    Statement.find schema root (request.under filter) = .ok statement ↔
      Statement.find schema root (request.under other) = .ok statement := by
  rw [Statement.find_eq_ok, Statement.find_eq_ok]
  simp only [halike.joins_eq_ok_iff]
  -- of a request only the filter is another one
  have hresolve {predicates : List Predicate} :
      (request.under filter).filter.resolve schema root = .ok predicates ↔
        (request.under other).filter.resolve schema root = .ok predicates :=
    halike.resolve_eq_ok_iff
  simp only [hresolve]
  exact Iff.rfl

end Resolving

/-! ## Conditions that are added one after the other -/

/-- A condition that is added stands at the end, in the last node or in one of its own. -/
theorem nodesApart_addCondition (path : FieldPath) (condition : Condition) (nodes : List Node) :
    nodesApart (addCondition path condition nodes) =
      nodesApart nodes ++ [.field path condition []] := by
  induction nodes using addCondition.induct path with
  | case1 => rfl
  | case2 first rest =>
    rw [addCondition, if_pos rfl]
    simp [nodesApart, Node.apart]
  | case3 last first rest hother =>
    rw [addCondition, if_neg hother]
    exact nodesApart_append [.field last first rest] [.field path condition []]
  | case4 node rest hmore ih =>
    rw [addCondition.eq_3 path condition node rest hmore, nodesApart, nodesApart, ih,
      List.append_assoc]

/-- Adds conditions one after the other. -/
def fields (filter : Filter) (entries : List (FieldPath × Condition)) : Filter :=
  entries.foldl (fun built entry => built.field entry.1 entry.2) filter

/-- Nodes with one condition each. -/
def singles (entries : List (FieldPath × Condition)) : List Node :=
  entries.map fun entry => .field entry.1 entry.2 []

theorem nodesApart_singles (entries : List (FieldPath × Condition)) :
    nodesApart (singles entries) = singles entries := by
  induction entries with
  | nil => rfl
  | cons entry rest ih => exact congrArg (Node.field entry.1 entry.2 [] :: ·) ih

theorem nodesApart_fields (filter : Filter) (entries : List (FieldPath × Condition)) :
    nodesApart (filter.fields entries).nodes = nodesApart filter.nodes ++ singles entries := by
  induction entries generalizing filter with
  | nil => exact (List.append_nil _).symm
  | cons entry rest ih =>
    have hfirst := nodesApart_addCondition entry.1 entry.2 filter.nodes
    rw [fields, List.foldl_cons, ← fields, ih, field, hfirst, List.append_assoc]
    rfl

/-- What stands around nodes in a filter: other nodes, and the groups that they are in. -/
inductive Context where
  | among (before after : List Node)
  /-- In a member of a group, with what stands around the group. -/
  | inside (before : List Node) (connective : Connective) (earlier : List (List Node))
      (member : Context) (later : List (List Node)) (after : List Node)

/-- The nodes of a filter that has the given ones in a context. -/
def Context.fill : Context → List Node → List Node
  | .among before after, nodes => before ++ nodes ++ after
  | .inside before connective earlier member later after, nodes =>
    before ++ [.group connective (earlier ++ member.fill nodes :: later)] ++ after

theorem Context.nodesApart_fill (context : Context) {nodes others : List Node}
    (hsame : nodesApart nodes = nodesApart others) :
    nodesApart (context.fill nodes) = nodesApart (context.fill others) := by
  induction context with
  | among before after => simp only [fill, nodesApart_append, hsame]
  | inside before connective earlier member later after ih =>
    simp only [fill, nodesApart_append, nodesApart, Node.apart, membersApart_eq_map,
      List.map_append, List.map_cons, ih]

/-- Adding conditions to a filter one after the other, so that those on one field share a node, is
the same to every statement as adding a node for each of them, however deep in groups the filter
stands: both compile to the same text or to none, and under both every request has the same
selection or none. -/
theorem fields_sameStatements (schema : Schema) (root : String) (filter : Filter)
    (entries : List (FieldPath × Condition)) (context : Context) :
    let merged : Filter := ⟨context.fill (filter.fields entries).nodes⟩
    let separate : Filter := ⟨context.fill (filter.nodes ++ singles entries)⟩
    (∀ text, merged.compile schema root = .ok text ↔ separate.compile schema root = .ok text) ∧
    ∀ (request : Request) (statement : Statement),
      Statement.find schema root (request.under merged) = .ok statement ↔
        Statement.find schema root (request.under separate) = .ok statement := by
  intro merged separate
  have hsame : nodesApart (filter.fields entries).nodes =
      nodesApart (filter.nodes ++ singles entries) := by
    rw [nodesApart_fields, nodesApart_append, nodesApart_singles]
  have halike : merged.Alike separate := context.nodesApart_fill hsame
  exact ⟨fun text => halike.compile_eq_ok_iff, fun request statement => halike.find_eq_ok_iff⟩

/-- Of two faults a shared node shows the membership in nothing first, and nodes of their own show the
missing table first. -/
example :
    let entries := [(.column "id", .compare .gt (.int 1)), (.column "id", .among false [])]
    (empty.fields entries).compile Schema.empty "users" =
        .error (.invalidFilter (.noValues (.among false))) ∧
      (Filter.mk (singles entries)).compile Schema.empty "users" = .error (.unknownTable "users") :=
  ⟨rfl, rfl⟩

end TableQuery.Filter
