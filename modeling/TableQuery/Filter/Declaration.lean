import TableQuery.Filter

/-!
# Filters declared in JSON

A filter is declared as an object.  The keys `$and` and `$or` take an array of such objects and
stand for a group; every other key names a field and takes an object in turn.  In the object of
a field an operator key gives a condition on the field, while any other key is a filter of its own
whose fields are taken from where the field leads: `{"region": {"name": …}}` is a filter on
`region.name`.

Conditions that follow one another share a node.  A nested key between them starts a new one, so
that the order of the declaration is kept: `Part` is what one key of a field's object gives, and
`gather` puts the parts of a field together.

A key that begins with `$` and is neither an operator nor a connective is refused inside the object
of a field.  Anywhere else it is the name of a field like any other.
-/

namespace TableQuery.Filter

/-- What one key in the object of a field gives. -/
inductive Part where
  /-- A condition on the field. -/
  | condition (condition : Condition)
  /-- Nodes of a nested filter. -/
  | nodes (nodes : List Node)

/-- Whether a key is reserved for operators and connectives. -/
def isReserved (key : String) : Bool :=
  key.toList.head? = some '$'

/-- The field that a key names, taken from where the enclosing field leads. -/
def fieldPath (base : Option FieldPath) (key : String) : FieldPath :=
  match base with
  | some base => base ++ FieldPath.ofText key
  | none => FieldPath.ofText key

/-- Puts a run of conditions in front of other nodes, as one node if there are any. -/
def openWith (path : FieldPath) : List Condition → List Node → List Node
  | [], nodes => nodes
  | first :: rest, nodes => .field path first rest :: nodes

/-- The run of conditions that the parts of a field begin with, and the nodes of all that follows
it. -/
def gather (path : FieldPath) : List Part → List Condition × List Node
  | [] => ([], [])
  | .condition condition :: rest =>
    let (run, nodes) := gather path rest
    (condition :: run, nodes)
  | .nodes nested :: rest =>
    let (run, nodes) := gather path rest
    ([], nested ++ openWith path run nodes)

/-- The nodes that the parts of a field stand for. -/
def ofParts (path : FieldPath) (parts : List Part) : List Node :=
  let (run, nodes) := gather path parts
  openWith path run nodes

mutual

/-- The nodes that one key of a filter stands for, below the field `base` if there is one. -/
def entryNodes (base : Option FieldPath) (key : String) (value : Json) :
    Except Error (List Node) :=
  match Connective.ofKey? key with
  | some connective =>
    match value with
    | .arr items => do return [.group connective (← members base items)]
    | other => .error (.invalidFilter (.groupNotAnArray other))
  | none =>
    match value with
    | .obj fields => do
      return ofParts (fieldPath base key) (← parts (fieldPath base key) fields)
    | other => .error (.invalidFilter (.conditionsNotAnObject (fieldPath base key) other))
termination_by structural value

/-- The members of a group. -/
def members (base : Option FieldPath) : List Json → Except Error (List (List Node))
  | [] => .ok []
  | .obj fields :: rest => do
    let member ← nodesOf base fields
    return member :: (← members base rest)
  | other :: _ => .error (.invalidFilter (.memberNotAnObject other))
termination_by structural items => items

/-- The nodes of a filter, below the field `base` if there is one. -/
def nodesOf (base : Option FieldPath) : List (String × Json) → Except Error (List Node)
  | [] => .ok []
  | (key, value) :: rest => do
    let nodes ← entryNodes base key value
    return nodes ++ (← nodesOf base rest)
termination_by structural fields => fields

/-- The parts of the object of a field. -/
def parts (path : FieldPath) : List (String × Json) → Except Error (List Part)
  | [] => .ok []
  | (key, value) :: rest =>
    match Operator.ofKey? key with
    | some operator => do
      let condition ← Condition.ofOperand operator (Literal.ofJson value)
      return .condition condition :: (← parts path rest)
    | none =>
      if isReserved key ∧ Connective.ofKey? key = none then
        .error (.invalidFilter (.unknownOperator key path))
      else do
        let nested ← entryNodes (some path) key value
        return .nodes nested :: (← parts path rest)
termination_by structural fields => fields

end

/-- The filter that a JSON value declares; null declares the empty one. -/
def ofJson : Json → Except Error Filter
  | .null => .ok empty
  | .obj fields => (nodesOf none fields).map Filter.mk
  | other => .error (.invalidFilter (.notAnObject other))

end TableQuery.Filter
