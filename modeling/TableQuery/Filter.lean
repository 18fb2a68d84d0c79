import TableQuery.Condition

/-!
# Filters

A filter is an ordered list of nodes, all of which have to hold.  A node puts conditions on one
field, or is a group of filters of which all or any have to hold.  A field node has at least one
condition, by its type; a group may be empty, and then it asks for nothing.

The order of nodes, of conditions and of members is the order in which they are written into
a statement, so every operation keeps it.
-/

namespace TableQuery

/-- One node of a filter. -/
inductive Filter.Node where
  /-- Conditions on a field, one at least. -/
  | field (path : FieldPath) (first : Condition) (rest : List Condition)
  /-- A group of filters, each a list of nodes. -/
  | group (connective : Connective) (members : List (List Filter.Node))

/-- Nodes that all have to hold. -/
structure Filter where
  nodes : List Filter.Node

namespace Filter

/-- The filter that asks for nothing. -/
def empty : Filter := ⟨[]⟩

/-! ## Building -/

/-- Adds a condition to the last node if that is a field node on the same path, and a new node
otherwise. -/
def addCondition (path : FieldPath) (condition : Condition) : List Node → List Node
  | [] => [.field path condition []]
  | [.field last first rest] =>
    if last = path then [.field last first (rest ++ [condition])]
    else [.field last first rest, .field path condition []]
  | node :: rest => node :: addCondition path condition rest

/-- Adds a condition on a field.  Consecutive conditions on one field share a node. -/
def field (filter : Filter) (path : FieldPath) (condition : Condition) : Filter :=
  ⟨addCondition path condition filter.nodes⟩

/-- Adds a group. -/
def group (filter : Filter) (connective : Connective) (members : List Filter) : Filter :=
  ⟨filter.nodes ++ [.group connective (members.map nodes)]⟩

/-- Whether a node puts conditions on the given field. -/
def Node.isOn (path : FieldPath) : Node → Bool
  | .field other _ _ => other = path
  | .group _ _ => false

/-- The nodes that are not on the given field. -/
def without (path : FieldPath) (nodes : List Node) : List Node :=
  nodes.filter (fun node => !node.isOn path)

/-- Puts `node` in the place of the first node on the given field and drops the later ones; without
one, `node` goes to the end. -/
def replaceOn (path : FieldPath) (node : Node) : List Node → List Node
  | [] => [node]
  | other :: rest =>
    if other.isOn path then node :: without path rest else other :: replaceOn path node rest

/-- The filter with equality to a value as its only condition on a field outside of groups. -/
def withEquality (filter : Filter) (path : FieldPath) (value : Literal) : Filter :=
  ⟨replaceOn path (.field path (.compare .eq value) []) filter.nodes⟩

/-! ## Looking -/

mutual

/-- The fields of a node, those of a group in the order of its members. -/
def Node.paths : Node → List FieldPath
  | .field path _ _ => [path]
  | .group _ members => memberPaths members
termination_by structural node => node

/-- The fields of the members of a group. -/
def memberPaths : List (List Node) → List FieldPath
  | [] => []
  | member :: rest => nodePaths member ++ memberPaths rest
termination_by structural members => members

/-- The fields of a list of nodes. -/
def nodePaths : List Node → List FieldPath
  | [] => []
  | node :: rest => node.paths ++ nodePaths rest
termination_by structural nodes => nodes

end

/-- Every field that a filter names, in written order and as often as it is named. -/
def paths (filter : Filter) : List FieldPath :=
  nodePaths filter.nodes

end Filter

end TableQuery
