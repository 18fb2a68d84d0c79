import TableQuery.Json
import TableQuery.Text.Quoted

/-!
# Decoding JSON into records

A record is decoded from an object, whose entries are taken in written order and may come in any
order, or from an array, whose items are taken by position.  A `RecordShape` lists the fields of a
record in declared order, each with the reader that puts a JSON value into the record being built;
`RecordShape.decode` is the whole rule.

The first fault wins: the value of a field fails as soon as it is met, a missing field only after
all entries have been read.
-/

namespace TableQuery.Json

/-- Why a JSON value is not of the wanted form. -/
inductive DecodeFault where
  /-- A value of one kind stands where another is wanted. -/
  | wrongType (found : Json) (wanted : String)
  /-- A value of the right kind is not one of those that are wanted. -/
  | wrongValue (found : Json) (wanted : String)
  /-- An array has too few or too many items. -/
  | wrongLength (length : Nat) (wanted : String)
  /-- A required field has no entry. -/
  | missingField (key : String)
  /-- A name is none of the known ones. -/
  | unknownVariant (name : String) (known : List String)

/-- A value as a message names it: by kind, and with its content when that is short. -/
def description : Json → String
  | .null => "null"
  | .bool value => "boolean `" ++ text (.bool value) ++ "`"
  | .whole value => "integer `" ++ text (.whole value) ++ "`"
  | .real value => "floating point `" ++ text (.real value) ++ "`"
  | .str value => "string " ++ Text.quoted value
  | .arr _ => "sequence"
  | .obj _ => "map"

/-- The wording of a fault. -/
def DecodeFault.message : DecodeFault → String
  | .wrongType found wanted => "invalid type: " ++ found.description ++ ", expected " ++ wanted
  | .wrongValue found wanted => "invalid value: " ++ found.description ++ ", expected " ++ wanted
  | .wrongLength length wanted => "invalid length " ++ toString length ++ ", expected " ++ wanted
  | .missingField key => "missing field `" ++ key ++ "`"
  | .unknownVariant name known =>
    "unknown variant `" ++ name ++ "`, expected one of " ++
      String.intercalate ", " (known.map (fun variant => "`" ++ variant ++ "`"))

/-! ## Plain values -/

def asBool : Json → Except DecodeFault Bool
  | .bool value => .ok value
  | other => .error (.wrongType other "a boolean")

def asString : Json → Except DecodeFault String
  | .str value => .ok value
  | other => .error (.wrongType other "a string")

def asMap : Json → Except DecodeFault (List (String × Json))
  | .obj fields => .ok fields
  | other => .error (.wrongType other "a map")

/-- A whole number of 32 bits without a sign.  A real is refused even when it is whole. -/
def asUInt32 : Json → Except DecodeFault UInt32
  | .whole n =>
    if 0 ≤ n.val ∧ n.val < 0x100000000 then .ok (UInt32.ofNat n.val.toNat)
    else .error (.wrongValue (.whole n) "u32")
  | other => .error (.wrongType other "u32")

/-- One of a list of named variants without content: its name, or an object with the name as the
only key and null as its value. -/
def asVariant {α : Type} (variants : List (String × α)) (value : Json) : Except DecodeFault α :=
  let named (name : String) : Except DecodeFault α :=
    match Keyed.get? Prod.fst name variants with
    | some (_, variant) => .ok variant
    | none => .error (.unknownVariant name (variants.map Prod.fst))
  match value with
  | .str name => named name
  | .obj [(name, content)] => do
    let variant ← named name
    if content.isNull then return variant else throw (.wrongType content "unit")
  | .obj fields => .error (.wrongValue (.obj fields) "map with a single key")
  | other => .error (.wrongType other "string or map")

/-! ## Records -/

/-- One field of a record of type `α`. -/
structure RecordField (α : Type) where
  key : String
  required : Bool
  /-- Puts the value of the field into the record. -/
  read : Json → α → Except DecodeFault α

/-- A field that is read by `decode` and put in place by `store`. -/
def RecordField.decoded {α β : Type} (key : String) (required : Bool)
    (decode : Json → Except DecodeFault β) (store : β → α → α) : RecordField α where
  key := key
  required := required
  read value record := (decode value).map (fun content => store content record)

/-- How a record of type `α` is decoded. -/
structure RecordShape (α : Type) where
  /-- What a message calls the record. -/
  name : String
  /-- The fields in declared order. -/
  fields : List (RecordField α)
  /-- The record before any field is read: every optional field has its default, and what stands
  in a required one never comes out. -/
  blank : α

namespace RecordShape

variable {α : Type}

/-- Puts one entry of an object into the record.  An unknown key is passed over. -/
def readEntry (shape : RecordShape α) (record : α) (entry : String × Json) :
    Except DecodeFault α :=
  match shape.fields.find? (fun field => field.key = entry.1) with
  | some field => field.read entry.2 record
  | none => .ok record

/-- The first required field without an entry. -/
def missing? (shape : RecordShape α) (entries : List (String × Json)) :
    Option (RecordField α) :=
  shape.fields.find? (fun field => field.required && !(entries.map Prod.fst).contains field.key)

/-- Decodes the entries of an object. -/
def ofEntries (shape : RecordShape α) (entries : List (String × Json)) : Except DecodeFault α := do
  let record ← entries.foldlM shape.readEntry shape.blank
  match shape.missing? entries with
  | some field => throw (.missingField field.key)
  | none => return record

/-- Decodes the items of an array, of which the first belongs to the field at `position`. -/
def ofItems (shape : RecordShape α) (position : Nat) (record : α) :
    List (RecordField α) → List Json → Except DecodeFault α
  | [], [] => .ok record
  | [], item :: rest =>
    .error (.wrongLength (position + (item :: rest).length) "fewer elements in array")
  | field :: fields, [] =>
    if field.required then
      .error (.wrongLength position
        (shape.name ++ " with " ++ toString shape.fields.length ++ " elements"))
    else ofItems shape (position + 1) record fields []
  | field :: fields, item :: rest => do
    let record ← field.read item record
    ofItems shape (position + 1) record fields rest

/-- Decodes a record from an object or an array. -/
def decode (shape : RecordShape α) : Json → Except DecodeFault α
  | .obj entries => shape.ofEntries entries
  | .arr items => shape.ofItems 0 shape.blank shape.fields items
  | other => .error (.wrongType other shape.name)

end RecordShape

end TableQuery.Json
