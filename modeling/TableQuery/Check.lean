import TableQuery.Item
import TableQuery.Request

/-!
# Checking requests

Statements are built leniently: a hop that is no relation and a column that is not declared pass
through into the text.  A caller that wants them refused checks the request first.  The checks here
walk the same relations as `FieldPath.resolve` and report the first hop that is no relation, the
first target that is not declared, or a last segment that is neither `*` nor a column.
-/

namespace TableQuery

namespace FieldPath

/-- Checks a path from a table of the schema. -/
def checkFrom (schema : Schema) (table : Table) : FieldPath → Except Error Unit
  | .column name =>
    if name = wildcard ∨ (table.column? name).isSome then .ok ()
    else .error (.unknownColumn table.name name)
  | .via hop rest =>
    match table.relation? hop with
    | none => .error (.unknownRelation table.name hop)
    | some relation => do checkFrom schema (← schema.table relation.target) rest

/-- Checks a path from a root table. -/
def check (schema : Schema) (root : String) (path : FieldPath) : Except Error Unit := do
  checkFrom schema (← schema.table root) path

end FieldPath

/-- Checks every field that a request names. -/
def Request.check (schema : Schema) (root : String) (request : Request) : Except Error Unit := do
  let _ ← schema.table root
  request.paths.forM (FieldPath.check schema root)

/-- Checks that every column of an item is declared on its table. -/
def Item.check (schema : Schema) (root : String) (item : Item) : Except Error Unit := do
  let table ← schema.table root
  item.columns.forM (fun column =>
    if (table.column? column).isSome then .ok () else .error (.unknownColumn root column))

end TableQuery
