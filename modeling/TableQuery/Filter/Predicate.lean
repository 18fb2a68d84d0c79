import TableQuery.FieldPath.Resolution
import TableQuery.Filter

/-!
# Predicates

A predicate is a filter after its fields have been resolved to columns: a comparison of one column,
or a group of conjunctions.  It is what a statement holds, and `Predicate.sql` writes it.  Only
a group has parentheses.  A member of several comparisons inside an `OR` has none of its own; it is
read as one, since `AND` binds tighter.

Resolving drops what asks for nothing: a member without predicates, and a group without members.
So an empty conjunction stands for the absence of a condition and for nothing else.
-/

namespace TableQuery

/-- A condition on columns. -/
inductive Predicate where
  | comparison (column : ColumnRef) (condition : Condition)
  /-- Conjunctions joined by a connective. -/
  | group (connective : Connective) (members : List (List Predicate))

namespace Predicate

mutual

/-- The text of a predicate. -/
def sql : Predicate → String
  | .comparison column condition => column.sql ++ " " ++ condition.sql
  | .group connective members =>
    "(" ++ String.intercalate connective.separator (memberSqls members) ++ ")"
termination_by structural predicate => predicate

/-- The texts of the members of a group. -/
def memberSqls : List (List Predicate) → List String
  | [] => []
  | member :: rest => String.intercalate " AND " (sqls member) :: memberSqls rest
termination_by structural members => members

/-- The texts of several predicates. -/
def sqls : List Predicate → List String
  | [] => []
  | predicate :: rest => predicate.sql :: sqls rest
termination_by structural predicates => predicates

end

@[simp] theorem sqls_eq_map (predicates : List Predicate) :
    sqls predicates = predicates.map sql := by
  induction predicates with
  | nil => rfl
  | cons predicate rest ih => simp [sqls, ih]

/-- The text of predicates that all have to hold. -/
def conjunctionSql (predicates : List Predicate) : String :=
  String.intercalate " AND " (sqls predicates)

end Predicate

namespace Filter

/-- The comparisons of a field node.  A membership in no values is refused before the field is
resolved. -/
def resolveField (schema : Schema) (root : String) (path : FieldPath)
    (conditions : List Condition) : Except Error (List Predicate) := do
  conditions.forM Condition.check
  let column ← path.columnRef schema root
  return conditions.map (Predicate.comparison column)

/-- A group of the members that ask for something, if there are any. -/
def resolvedGroup (connective : Connective) (members : List (List Predicate)) : List Predicate :=
  match members.filter (fun member => !member.isEmpty) with
  | [] => []
  | kept => [.group connective kept]

mutual

/-- The predicates that a node stands for: the comparisons of a field, or one group, or none. -/
def Node.resolve (schema : Schema) (root : String) : Node → Except Error (List Predicate)
  | .field path first rest => resolveField schema root path (first :: rest)
  | .group connective members => do
    return resolvedGroup connective (← resolveMembers schema root members)
termination_by structural node => node

/-- The conjunctions that the members of a group stand for. -/
def resolveMembers (schema : Schema) (root : String) :
    List (List Node) → Except Error (List (List Predicate))
  | [] => .ok []
  | member :: rest => do
    let predicates ← resolveNodes schema root member
    return predicates :: (← resolveMembers schema root rest)
termination_by structural members => members

/-- The conjunction that a list of nodes stands for. -/
def resolveNodes (schema : Schema) (root : String) : List Node → Except Error (List Predicate)
  | [] => .ok []
  | node :: rest => do
    let predicates ← node.resolve schema root
    return predicates ++ (← resolveNodes schema root rest)
termination_by structural nodes => nodes

end

/-- The conjunction that a filter stands for. -/
def resolve (schema : Schema) (root : String) (filter : Filter) :
    Except Error (List Predicate) :=
  resolveNodes schema root filter.nodes

/-- The text of the conjunction that a filter stands for; empty when it asks for nothing. -/
def compile (schema : Schema) (root : String) (filter : Filter) : Except Error String :=
  (filter.resolve schema root).map Predicate.conjunctionSql

end Filter

end TableQuery
