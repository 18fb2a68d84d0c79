import TableQuery.Error
import TableQuery.Literal

/-!
# Schemas

A schema declares tables, each with its columns and with the relations that lead from it to other
tables.  Declaration order is kept throughout, and every look-up takes the first match.

No two tables of a schema share a name: `Schema.insert` replaces a table of the same name where it
stands, and a schema carries the proof.  Columns and relations of a table are kept as given, and
a relation may name a table or a key that is not declared; `Schema.check` finds such relations.
-/

namespace TableQuery

/-- The types that a column can have. -/
inductive DataType where
  | text | float4 | boolean | date | json | int4 | int8 | timestamptz | uuid | varchar | timestamp
  | numeric
  deriving DecidableEq, Repr

/-- A column of a table. -/
structure Column where
  name : String
  type : DataType
  primaryKey : Bool
  unique : Bool
  notNull : Bool
  default : Option Literal

/-- A relation from the table that declares it to a target table: rows belong together when the
value of `fromKey` in the one equals the value of `toKey` in the other. -/
structure Relation where
  name : String
  target : String
  fromKey : String
  toKey : String
  deriving DecidableEq, Repr

/-- A table with its columns and relations in declared order. -/
structure Table where
  name : String
  columns : List Column
  relations : List Relation

/-- Tables in declared order, no two of one name. -/
structure Schema where
  tables : List Table
  distinct : (tables.map Table.name).Nodup

/-! ## Data types -/

namespace DataType

/-- The name in a declaration. -/
def name : DataType → String
  | text => "text"
  | float4 => "float4"
  | boolean => "boolean"
  | date => "date"
  | json => "json"
  | int4 => "int4"
  | int8 => "int8"
  | timestamptz => "timestamptz"
  | uuid => "uuid"
  | varchar => "varchar"
  | timestamp => "timestamp"
  | numeric => "numeric"

/-- Every data type. -/
def all : List DataType :=
  [text, float4, boolean, date, json, int4, int8, timestamptz, uuid, varchar, timestamp, numeric]

theorem mem_all (type : DataType) : type ∈ all := by
  cases type <;> decide

end DataType

/-! ## Tables -/

namespace Table

/-- The first column of the given name. -/
def column? (table : Table) (name : String) : Option Column :=
  table.columns.find? (fun column => column.name = name)

/-- The first relation of the given name. -/
def relation? (table : Table) (name : String) : Option Relation :=
  table.relations.find? (fun relation => relation.name = name)

/-- The name of the first column that is flagged as primary key. -/
def primaryKey? (table : Table) : Option String :=
  (table.columns.find? Column.primaryKey).map Column.name

end Table

/-! ## Schemas -/

namespace Schema

/-- The schema without tables. -/
def empty : Schema := ⟨[], List.nodup_nil⟩

/-- Declares a table.  A table of the same name is replaced and keeps its place. -/
def insert (schema : Schema) (table : Table) : Schema :=
  ⟨Keyed.put Table.name table schema.tables,
    Keyed.nodup_put Table.name table schema.tables schema.distinct⟩

/-- The table of the given name. -/
def table? (schema : Schema) (name : String) : Option Table :=
  Keyed.get? Table.name name schema.tables

/-- The table of the given name, which has to be declared. -/
def table (schema : Schema) (name : String) : Except Error Table :=
  match schema.table? name with
  | some table => .ok table
  | none => .error (.unknownTable name)

/-- The names of the tables in declared order. -/
def tableNames (schema : Schema) : List String :=
  schema.tables.map Table.name

/-- A column of a declared table. -/
def column? (schema : Schema) (table column : String) : Except Error (Option Column) := do
  return (← schema.table table).column? column

/-- A relation of a declared table. -/
def relation? (schema : Schema) (table relation : String) : Except Error (Option Relation) := do
  return (← schema.table table).relation? relation

/-- The primary key of a declared table. -/
def primaryKey? (schema : Schema) (table : String) : Except Error (Option String) := do
  return (← schema.table table).primaryKey?

/-- The primary key of a declared table, which has to have one. -/
def primaryKey (schema : Schema) (table : String) : Except Error String := do
  match ← schema.primaryKey? table with
  | some key => return key
  | none => throw (.missingPrimaryKey table)

/-! ## Looking a table up -/

/-- The table declared last under a name is the one that is found. -/
@[simp] theorem table?_insert_self (schema : Schema) (table : Table) :
    (schema.insert table).table? table.name = some table :=
  Keyed.get?_put_self Table.name table schema.tables

/-- Declaring a table leaves all others as they were. -/
theorem table?_insert_of_ne (schema : Schema) (table : Table) (name : String)
    (hother : name ≠ table.name) : (schema.insert table).table? name = schema.table? name :=
  Keyed.get?_put_of_ne Table.name table schema.tables name hother

/-- A table is found under its own name. -/
theorem name_of_table? {schema : Schema} {name : String} {table : Table}
    (hfound : schema.table? name = some table) : table.name = name := by
  simpa using List.find?_some hfound

end Schema

end TableQuery
