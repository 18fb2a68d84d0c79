import TableQuery.Proofs.Expression.Written
import TableQuery.Proofs.Filter.Node

/-!
# The meaning of a filter

A filter asks for something by its shape: all of its nodes, all conditions of a field, all or any of
the members of a group.  `Filter.holds` is that, given a truth value for every condition on a field.
What holds no condition is left out, wherever it stands.

The text that a filter compiles to has a meaning of its own, by how conditions are read.  The two
agree: the text is read to its end, and what is read holds exactly when the filter does.  Brackets
stand around groups only, so this rests on `AND` binding tighter than `OR`.
-/

namespace TableQuery.Filter

mutual

/-- Whether what a node asks for holds. -/
def Node.holds (truth : FieldPath → Condition → Bool) : Node → Bool
  | .field path first rest => (first :: rest).all (truth path)
  | .group .and members => membersHold truth members
  | .group .or members => (memberPaths members).isEmpty || someMemberHolds truth members
termination_by structural node => node

/-- Whether all members hold. -/
def membersHold (truth : FieldPath → Condition → Bool) : List (List Node) → Bool
  | [] => true
  | member :: rest => nodesHold truth member && membersHold truth rest
termination_by structural members => members

/-- Whether one of the members with a condition holds. -/
def someMemberHolds (truth : FieldPath → Condition → Bool) : List (List Node) → Bool
  | [] => false
  | member :: rest =>
    (!(nodePaths member).isEmpty && nodesHold truth member) || someMemberHolds truth rest
termination_by structural members => members

/-- Whether all nodes hold. -/
def nodesHold (truth : FieldPath → Condition → Bool) : List Node → Bool
  | [] => true
  | node :: rest => node.holds truth && nodesHold truth rest
termination_by structural nodes => nodes

end

/-- Whether a filter holds, given a truth value for every condition on a field. -/
def holds (truth : FieldPath → Condition → Bool) (filter : Filter) : Bool :=
  nodesHold truth filter.nodes

/-- The truth value of a condition on a field: the one of the comparison that it is written as. -/
def truthIn (schema : Schema) (root : String) (truth : Atom → Bool) (path : FieldPath)
    (condition : Condition) : Bool :=
  match path.columnRef schema root with
  | .ok column => truth (condition.atom column)
  | .error _ => false

end TableQuery.Filter

namespace TableQuery.Predicate

/-- Whether what a predicate is read as holds. -/
def holds (truth : Atom → Bool) (predicate : Predicate) : Bool :=
  predicate.expression.holds truth

variable (truth : Atom → Bool)

theorem holds_comparison (column : ColumnRef) (condition : Condition) :
    (comparison column condition).holds truth = truth (condition.atom column) := rfl

theorem holds_and (members : List (List Predicate)) :
    (group .and members).holds truth = members.all (fun member => member.all (holds truth)) := by
  rw [holds, expression, memberExpressions_eq_map, Expression.holds, Expression.anyHolds_eq_any,
    List.any_cons, List.any_nil, Bool.or_false, List.all_flatten, List.all_map]
  exact congrArg members.all (funext fun member => List.all_map)

theorem holds_or (members : List (List Predicate)) :
    (group .or members).holds truth = members.any (fun member => member.all (holds truth)) := by
  rw [holds, expression, memberExpressions_eq_map, Expression.holds, Expression.anyHolds_eq_any,
    List.any_map]
  exact congrArg members.any (funext fun member => List.all_map)

end TableQuery.Predicate

namespace TableQuery.Filter

section Resolving

variable {schema : Schema} {root : String} (truth : Atom → Bool)

/-- The conditions of a field hold when their comparisons do. -/
theorem all_holds_of_field {path : FieldPath} {column : ColumnRef} {conditions : List Condition}
    (hcolumn : path.columnRef schema root = .ok column) :
    (conditions.map (Predicate.comparison column)).all (Predicate.holds truth) =
      conditions.all (truthIn schema root truth path) := by
  rw [List.all_map]
  congr 1
  funext condition
  simp only [Function.comp_apply, Predicate.holds_comparison, truthIn, hcolumn]

/-- Nodes hold when what they resolve to does, if each of them does so. -/
theorem all_holds_resolveNodes_of {nodes : List Node} (hnodes : ∀ node ∈ nodes, ∀ {part},
      node.resolve schema root = .ok part →
        part.all (Predicate.holds truth) = node.holds (truthIn schema root truth))
    {predicates : List Predicate} (hresolve : resolveNodes schema root nodes = .ok predicates) :
    predicates.all (Predicate.holds truth) = nodesHold (truthIn schema root truth) nodes := by
  induction nodes generalizing predicates with
  | nil =>
    cases hresolve
    rfl
  | cons node rest ih =>
    rw [List.forall_mem_cons] at hnodes
    obtain ⟨first, later, hfirst, hlater, rfl⟩ := resolveNodes_cons_eq_ok.1 hresolve
    rw [List.all_append, nodesHold, hnodes.1 hfirst, ih hnodes.2 hlater]

/-- All members hold when what they resolve to does, if each of their nodes does so. -/
theorem all_holds_resolvedMembers_of {members : List (List Node)}
    {resolved : List (List Predicate)}
    (hresolved : List.Forall₂ (fun member part => resolveNodes schema root member = .ok part)
      members resolved)
    (hnodes : ∀ member ∈ members, ∀ node ∈ member, ∀ {part}, node.resolve schema root = .ok part →
      part.all (Predicate.holds truth) = node.holds (truthIn schema root truth)) :
    resolved.all (fun part => part.all (Predicate.holds truth)) =
      membersHold (truthIn schema root truth) members := by
  induction hresolved with
  | nil => rfl
  | cons hmember hrest ih =>
    rw [List.forall_mem_cons] at hnodes
    rw [List.all_cons, membersHold, ih hnodes.2, all_holds_resolveNodes_of truth hnodes.1 hmember]

/-- A member with a condition holds when what one resolves to does, if each of their nodes does
so. -/
theorem any_holds_resolvedMembers_of {members : List (List Node)}
    {resolved : List (List Predicate)}
    (hresolved : List.Forall₂ (fun member part => resolveNodes schema root member = .ok part)
      members resolved)
    (hnodes : ∀ member ∈ members, ∀ node ∈ member, ∀ {part}, node.resolve schema root = .ok part →
      part.all (Predicate.holds truth) = node.holds (truthIn schema root truth)) :
    resolved.any (fun part => !part.isEmpty && part.all (Predicate.holds truth)) =
      someMemberHolds (truthIn schema root truth) members := by
  induction hresolved with
  | nil => rfl
  | @cons member part _ _ hmember hrest ih =>
    rw [List.forall_mem_cons] at hnodes
    have hempty : part.isEmpty = (nodePaths member).isEmpty := by
      rw [Bool.eq_iff_iff, List.isEmpty_iff, List.isEmpty_iff]
      exact resolveNodes_eq_nil_iff hmember
    rw [List.any_cons, someMemberHolds, ih hnodes.2, hempty,
      all_holds_resolveNodes_of truth hnodes.1 hmember]

/-- A node holds when what it resolves to does. -/
theorem all_holds_resolve (node : Node) : ∀ {predicates : List Predicate},
    node.resolve schema root = .ok predicates →
      predicates.all (Predicate.holds truth) = node.holds (truthIn schema root truth) := by
  induction node with
  | field path first rest =>
    intro predicates hresolve
    obtain ⟨-, column, hcolumn, rfl⟩ := resolveField_eq_ok.1 hresolve
    exact all_holds_of_field truth hcolumn
  | group connective members ih =>
    intro predicates hresolve
    have hnone := resolve_eq_nil_iff _ hresolve
    obtain ⟨resolved, hresolved, rfl⟩ := resolve_group_eq_ok.1 hresolve
    have hall := all_holds_resolvedMembers_of truth hresolved ih
    have hany := any_holds_resolvedMembers_of truth hresolved ih
    rcases resolvedGroup_cases connective resolved with ⟨hempty, hgroup⟩ | ⟨hkept, hgroup⟩
    · have hpaths : memberPaths members = [] := hnone.1 hgroup
      rw [hgroup, List.all_nil]
      cases connective with
      | and =>
        rw [Node.holds, ← hall, eq_comm, List.all_eq_true]
        intro part hpart
        rw [hempty part hpart, List.all_nil]
      | or => rw [Node.holds, hpaths, List.isEmpty_nil, Bool.true_or]
    · have hpaths : memberPaths members ≠ [] := by
        intro hpaths
        rw [hgroup] at hnone
        exact absurd (hnone.2 hpaths) (List.cons_ne_nil _ _)
      rw [hgroup, List.all_cons, List.all_nil, Bool.and_true]
      -- Members without predicates are left out: they hold in an `AND`, and in an `OR` they do not
      -- count.
      cases connective with
      | and =>
        rw [Predicate.holds_and, Node.holds, ← hall, List.all_filter]
        congr 1
        funext part
        cases part <;> rfl
      | or =>
        rw [Predicate.holds_or, Node.holds, ← hany, List.any_filter,
          List.isEmpty_eq_false_iff.2 hpaths, Bool.false_or]

end Resolving

section Legibility

variable {schema : Schema} {root : String}

/-- A node whose operands are scalars and whose columns can be quoted resolves to predicates that
can be read. -/
theorem legible_resolve (node : Node)
    (hscalar : ∀ entry ∈ node.entries, ∀ operand ∈ entry.2.operands, operand.isScalar)
    (hquotable : ∀ path ∈ node.paths, ∀ column, path.columnRef schema root = .ok column →
      column.isQuotable) : ∀ {predicates : List Predicate},
    node.resolve schema root = .ok predicates →
      ∀ predicate ∈ predicates, predicate.Legible := by
  induction node with
  | field path first rest =>
    intro predicates hresolve
    obtain ⟨hcheck, column, hcolumn, rfl⟩ := resolveField_eq_ok.1 hresolve
    intro predicate hpredicate
    obtain ⟨condition, hcondition, rfl⟩ := List.mem_map.1 hpredicate
    refine .comparison (hquotable path List.mem_cons_self column hcolumn)
      ⟨isVoid_of_check hcheck condition hcondition, ?_⟩
    exact hscalar (path, condition) (List.mem_map_of_mem hcondition)
  | group connective members ih =>
    intro predicates hresolve
    obtain ⟨resolved, hresolved, rfl⟩ := resolve_group_eq_ok.1 hresolve
    unfold Node.entries at hscalar
    unfold Node.paths at hquotable
    rcases resolvedGroup_cases connective resolved with ⟨-, hgroup⟩ | ⟨hkept, hgroup⟩
    · rw [hgroup]
      intro predicate hpredicate
      cases hpredicate
    · rw [hgroup]
      intro predicate hpredicate
      rw [List.mem_singleton.1 hpredicate]
      refine .group hkept ?_ ?_
      · intro part hpart
        simpa using (List.mem_filter.1 hpart).2
      · intro part hpart inner hinner
        obtain ⟨member, hmember, node, hnode, own, hown, hinnerOwn⟩ :=
          exists_of_mem_resolvedMembers hresolved (List.mem_filter.1 hpart).1 hinner
        refine ih member hmember node hnode ?_ ?_ hown inner hinnerOwn
        · intro entry hentry
          exact hscalar entry (mem_memberEntries.2 ⟨member, hmember, node, hnode, hentry⟩)
        · intro path hpath
          exact hquotable path (mem_memberPaths.2 ⟨member, hmember, node, hnode, hpath⟩)

end Legibility

/-- Every field of a filter that compiles has a column.  The text of a filter without conditions is
empty, and such a filter holds always.  Any other text is read to its end, and what is read holds
exactly when the filter does, whichever comparisons hold. -/
theorem read_compile {schema : Schema} {root : String} {filter : Filter} {text : String}
    (hcompile : filter.compile schema root = .ok text)
    (hscalar : ∀ entry ∈ filter.entries, ∀ operand ∈ entry.2.operands, operand.isScalar)
    (hquotable : ∀ path ∈ filter.paths, ∀ column, path.columnRef schema root = .ok column →
      column.isQuotable) :
    (∀ path ∈ filter.paths, ∃ column, path.columnRef schema root = .ok column) ∧
      (filter.paths = [] →
        text = "" ∧ ∀ truth, filter.holds (truthIn schema root truth) = true) ∧
      (filter.paths ≠ [] → ∃ expression, Expression.read text = some expression ∧
        ∀ truth, expression.holds truth = filter.holds (truthIn schema root truth)) := by
  obtain ⟨predicates, hresolve, rfl⟩ := Except.map_eq_ok.1 hcompile
  have hnone : predicates = [] ↔ filter.paths = [] := resolveNodes_eq_nil_iff hresolve
  have hall : ∀ truth, predicates.all (Predicate.holds truth) =
      filter.holds (truthIn schema root truth) := fun truth =>
    all_holds_resolveNodes_of truth (fun node _ => all_holds_resolve truth node) hresolve
  unfold entries at hscalar
  unfold paths at hquotable hnone ⊢
  refine ⟨?_, ?_, ?_⟩
  · intro path hpath
    obtain ⟨node, hnode, hpathNode⟩ := mem_nodePaths.1 hpath
    obtain ⟨part, hpart⟩ := exists_resolve_of_mem hresolve hnode
    exact exists_columnRef_of_resolve node hpart path hpathNode
  · intro hpaths
    have hnil : predicates = [] := hnone.2 hpaths
    refine ⟨by rw [hnil]; rfl, fun truth => ?_⟩
    rw [← hall, hnil, List.all_nil]
  · intro hpaths
    have hne : predicates ≠ [] := fun h => hpaths (hnone.1 h)
    have hlegible : ∀ predicate ∈ predicates, predicate.Legible := by
      intro predicate hpredicate
      obtain ⟨node, hnode, part, hpart, hmem⟩ := exists_of_mem_resolveNodes hresolve hpredicate
      exact legible_resolve node
        (fun entry hentry => hscalar entry (mem_nodeEntries.2 ⟨node, hnode, hentry⟩))
        (fun path hpath => hquotable path (mem_nodePaths.2 ⟨node, hnode, hpath⟩))
        hpart predicate hmem
    refine ⟨_, Predicate.read_conjunctionSql hne hlegible, fun truth => ?_⟩
    rw [← hall, Expression.holds, Expression.anyHolds_eq_any, List.any_cons, List.any_nil,
      Bool.or_false, List.all_map]
    rfl

/-- A filter with a range, an empty group, and an alternative of two conditions. -/
def bracketSample : Filter :=
  ⟨[.field (.column "a") (.between false (.int 1) (.int 9)) [],
    .group .and [[]],
    .group .or [
      [.field (.column "b") (.compare .like (.text "x) OR ")) [],
        .field (.column "c") (.among true [.null, .blob [171]]) []],
      [.field (.column "*") (.compare .eq (.int (-4))) []]]]⟩

theorem read_compile_bracketSample :
    bracketSample.compile (Schema.empty.insert ⟨"t", [], []⟩) "t" = .ok ("`t`.`a` BETWEEN 1 AND 9" ++
        " AND (`t`.`b` LIKE 'x) OR ' AND `t`.`c` NOT IN (NULL, X'AB') OR `t`.* = -4)") ∧
      ∃ expression, Expression.read ("`t`.`a` BETWEEN 1 AND 9" ++
          " AND (`t`.`b` LIKE 'x) OR ' AND `t`.`c` NOT IN (NULL, X'AB') OR `t`.* = -4)") =
          some expression ∧
        ∀ truth, expression.holds truth =
          bracketSample.holds (truthIn (Schema.empty.insert ⟨"t", [], []⟩) "t" truth) := by
  have hquotable : ∀ path ∈ bracketSample.paths, ∀ column,
      path.columnRef (Schema.empty.insert ⟨"t", [], []⟩) "t" = .ok column →
        column.isQuotable := by
    have hpaths : bracketSample.paths = [.column "a", .column "b", .column "c", .column "*"] := rfl
    intro path hpath column hcolumn
    simp only [hpaths, List.mem_cons, List.not_mem_nil, or_false] at hpath
    rcases hpath with rfl | rfl | rfl | rfl <;> (cases hcolumn; rfl)
  exact ⟨rfl, (read_compile rfl (by decide) hquotable).2.2 (by decide)⟩

end TableQuery.Filter
