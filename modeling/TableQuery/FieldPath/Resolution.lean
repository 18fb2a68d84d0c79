import TableQuery.FieldPath
import TableQuery.Join
import TableQuery.Schema

/-!
# Resolving field paths

A path is resolved by walking its hops along the relations of a schema, from a root table to the
table that holds the column.  Resolution is lenient: at the first hop that is no relation of the
table reached so far the walk stops, and the path means its last segment as a column of that table.
A hop that is `*` stops it too, and then the path means all columns of the table.  Columns are not
looked up at all.  The strict counterpart is `FieldPath.check`.

The one failure is a table that is not declared: the root, or the target of a relation on the way.
-/

namespace TableQuery.FieldPath

/-- What a path stands for: a column, and the joins that bring its table in. -/
structure Resolution where
  column : ColumnRef
  joins : List Join
  deriving DecidableEq

/-- The join that follows a relation away from the table that declares it. -/
def hopJoin (table : Table) (relation : Relation) : Join :=
  ⟨table.name, relation.fromKey, relation.target, relation.toKey⟩

/-- Resolves a path from a table of the schema. -/
def resolveFrom (schema : Schema) (table : Table) : FieldPath → Except Error Resolution
  | .column name => .ok ⟨⟨table.name, name⟩, []⟩
  | .via hop rest =>
    if hop = wildcard then .ok ⟨⟨table.name, wildcard⟩, []⟩
    else match table.relation? hop with
      | none => .ok ⟨⟨table.name, rest.terminal⟩, []⟩
      | some relation => do
        let target ← schema.table relation.target
        let resolved ← resolveFrom schema target rest
        return { resolved with joins := hopJoin table relation :: resolved.joins }

/-- Resolves a path from a root table. -/
def resolve (schema : Schema) (root : String) (path : FieldPath) : Except Error Resolution := do
  resolveFrom schema (← schema.table root) path

/-- The column that a path stands for. -/
def columnRef (schema : Schema) (root : String) (path : FieldPath) : Except Error ColumnRef :=
  (path.resolve schema root).map Resolution.column

/-- The columns that a list of paths stands for; no paths stand for all columns of the root. -/
def columnRefs (schema : Schema) (root : String) (paths : List FieldPath) :
    Except Error (List ColumnRef) := do
  if paths.isEmpty then
    let _ ← schema.table root
    return [⟨root, wildcard⟩]
  else paths.mapM (columnRef schema root)

end TableQuery.FieldPath

namespace TableQuery.ColumnRef

/-- The texts of several column references, separated by commas. -/
def listSql (refs : List ColumnRef) : String :=
  String.intercalate ", " (refs.map sql)

end TableQuery.ColumnRef
