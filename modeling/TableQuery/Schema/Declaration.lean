import TableQuery.Schema

/-!
# Schemas declared in JSON

A schema is declared as an object keyed by table names.  A table declares its columns and, if it
has any, its relations, each as an object keyed by name; the order of the keys is the order of
declaration.

A column needs a type; its flags are off and it has no default unless given.  A relation needs its
target and both keys.  Tables are decoded one after the other, and within a table first the table
itself, then its columns, then its relations.
-/

namespace TableQuery.Schema

open Json (DecodeFault RecordShape)

/-- The entries of a table, before the columns and relations are decoded. -/
structure TableEntries where
  columns : List (String × Json)
  relations : List (String × Json)

def tableShape : RecordShape TableEntries where
  name := "struct RawTable"
  fields :=
    [.decoded "columns" true Json.asMap (fun columns table => { table with columns }),
      .decoded "relations" false Json.asMap (fun relations table => { table with relations })]
  blank := ⟨[], []⟩

/-- A default as it is declared; null declares none. -/
def defaultLiteral (value : Json) : Option Literal :=
  if value.isNull then none else some (Literal.ofJson value)

def columnShape (name : String) : RecordShape Column where
  name := "struct RawColumn"
  fields :=
    [.decoded "type" true (Json.asVariant (DataType.all.map (fun type => (type.name, type))))
        (fun type column => { column with type }),
      .decoded "primaryKey" false Json.asBool (fun primaryKey column => { column with primaryKey }),
      .decoded "unique" false Json.asBool (fun unique column => { column with unique }),
      .decoded "notNull" false Json.asBool (fun notNull column => { column with notNull }),
      .decoded "default" false (fun value => .ok (defaultLiteral value))
        (fun default column => { column with default })]
  blank := ⟨name, .text, false, false, false, none⟩

def relationShape (name : String) : RecordShape Relation where
  name := "struct RawRelation"
  fields :=
    [.decoded "table" true Json.asString (fun target relation => { relation with target }),
      .decoded "fromKey" true Json.asString (fun fromKey relation => { relation with fromKey }),
      .decoded "toKey" true Json.asString (fun toKey relation => { relation with toKey })]
  blank := ⟨name, "", "", ""⟩

/-- The table declared under a name. -/
def tableOfJson (name : String) (declaration : Json) : Except DecodeFault Table := do
  let entries ← tableShape.decode declaration
  let columns ← entries.columns.mapM (fun (column, declared) => (columnShape column).decode declared)
  let relations ← entries.relations.mapM
    (fun (relation, declared) => (relationShape relation).decode declared)
  return ⟨name, columns, relations⟩

/-- Adds the table that an entry of the declaration stands for. -/
def insertEntry (schema : Schema) (entry : String × Json) : Except Error Schema :=
  match tableOfJson entry.1 entry.2 with
  | .ok table => .ok (schema.insert table)
  | .error fault => .error (.undecodable fault)

/-- The schema that a JSON value declares. -/
def ofJson : Json → Except Error Schema
  | .obj tables => tables.foldlM insertEntry empty
  | _ => .error (.invalidSchema .notAnObject)

/-- The schema that a JSON text declares. -/
def ofText (text : String) : Except Error Schema :=
  match Json.read text with
  | .ok declaration => ofJson declaration
  | .error fault => .error (.unreadable fault)

end TableQuery.Schema
