import TableQuery.Schema

/-!
# Checking a schema

A schema is consistent when every table has a name and every relation leads from a column of its
own table to a column of a declared table.  `Schema.check` goes through tables and relations in
declared order and reports the first defect.
-/

namespace TableQuery.Schema

/-- Checks one relation of a table: its target, its key on the table, its key on the target. -/
def checkRelation (schema : Schema) (table : Table) (relation : Relation) : Except Error Unit := do
  let target ← schema.table relation.target
  if (table.column? relation.fromKey).isNone then
    throw (.unknownColumn table.name relation.fromKey)
  if (target.column? relation.toKey).isNone then
    throw (.unknownColumn target.name relation.toKey)

/-- Checks the name and the relations of one table. -/
def checkTable (schema : Schema) (table : Table) : Except Error Unit := do
  if table.name = "" then throw (.invalidSchema .unnamedTable)
  table.relations.forM (schema.checkRelation table)

/-- Checks every table. -/
def check (schema : Schema) : Except Error Unit :=
  schema.tables.forM schema.checkTable

end TableQuery.Schema
