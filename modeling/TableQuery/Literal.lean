import TableQuery.Json
import TableQuery.Text.Hex

/-!
# Literals

A `Literal` is a value that is written into a statement.  Statements have no parameters, so
`Literal.sql` is the only way by which a caller's data reaches the text of a statement.

A text is put between single quotes as it is, with no escaping of quotes inside: what comes from an
untrusted place must not become a literal.  A list has no brackets of its own; its elements are
separated by commas, and a list inside a list adds its elements to the outer one.

`Literal.ofJson` and the instances of `ToLiteral` say which literal a value of each other type
becomes.  A whole number is a signed word whenever it fits one, and an unsigned word otherwise, so
a number has the same literal from wherever it comes.
-/

namespace TableQuery

/-- A value written into a statement. -/
inductive Literal where
  | null
  | bool (value : Bool)
  | int (value : Int64)
  | uint (value : UInt64)
  | real (value : Binary64)
  | text (value : String)
  | blob (bytes : List UInt8)
  | list (items : List Literal)

namespace Literal

/-- Reals in a statement: always positional, and a whole one without a point. -/
def realLayout : Layout where
  positional _ := true
  afterWhole := ""
  tie := .up

/-- The text of a real, with words for those that are no numbers. -/
def realSql (x : Binary64) : String :=
  match x.magnitude with
  | .nan => "NaN"
  | .infinite => if x.negative then "-inf" else "inf"
  | .finite .. => (realLayout.text? x).getD "NaN"

mutual

/-- The text of a literal in a statement. -/
def sql : Literal → String
  | .null => "NULL"
  | .bool value => if value then "true" else "false"
  | .int value => toString value.toInt
  | .uint value => toString value.toNat
  | .real value => realSql value
  | .text value => "'" ++ value ++ "'"
  | .blob bytes => "X'" ++ Text.upperHex bytes ++ "'"
  | .list items => String.intercalate ", " (sqls items)
termination_by structural literal => literal

/-- The texts of several literals. -/
def sqls : List Literal → List String
  | [] => []
  | literal :: rest => literal.sql :: sqls rest
termination_by structural literals => literals

end

@[simp] theorem sqls_eq_map (literals : List Literal) : sqls literals = literals.map sql := by
  induction literals with
  | nil => rfl
  | cons literal rest ih => simp [sqls, ih]

/-- The elements of a list, and any other literal as the only element. -/
def elements : Literal → List Literal
  | .list items => items
  | literal => [literal]

/-- The literal of a whole number. -/
def ofWhole (n : Json.Whole) : Literal :=
  if n.val < 0x8000000000000000 then .int (Int64.ofInt n.val) else .uint (UInt64.ofNat n.val.toNat)

mutual

/-- The literal of a JSON value.  An object has no literal form of its own and becomes its compact
JSON text. -/
def ofJson : Json → Literal
  | .null => .null
  | .bool value => .bool value
  | .whole value => ofWhole value
  | .real value => .real value
  | .str value => .text value
  | .arr items => .list (ofJsons items)
  | .obj fields => .text (Json.obj fields).text
termination_by structural value => value

/-- The literals of several JSON values. -/
def ofJsons : List Json → List Literal
  | [] => []
  | value :: rest => ofJson value :: ofJsons rest
termination_by structural values => values

end

@[simp] theorem ofJsons_eq_map (values : List Json) : ofJsons values = values.map ofJson := by
  induction values with
  | nil => rfl
  | cons value rest ih => simp [ofJsons, ih]

end Literal

/-- The types whose values can be written into a statement. -/
class ToLiteral (α : Type) where
  toLiteral : α → Literal

export ToLiteral (toLiteral)

namespace ToLiteral

instance : ToLiteral Literal := ⟨id⟩

instance : ToLiteral Bool := ⟨.bool⟩

instance : ToLiteral Int64 := ⟨.int⟩

instance : ToLiteral Int32 := ⟨fun n => .int n.toInt64⟩

instance : ToLiteral UInt32 := ⟨fun n => .int (Int64.ofNat n.toNat)⟩

/-- An unsigned word is written as a signed one when it fits. -/
instance : ToLiteral UInt64 :=
  ⟨fun n => if n.toNat < 0x8000000000000000 then .int (Int64.ofNat n.toNat) else .uint n⟩

instance : ToLiteral Binary64 := ⟨.real⟩

/-- A 32-bit real is written with the digits of the same number in 64 bits. -/
instance : ToLiteral Binary32 := ⟨fun x => .real x.widen⟩

instance : ToLiteral String := ⟨.text⟩

instance : ToLiteral ByteArray := ⟨fun bytes => .blob bytes.toList⟩

instance {α : Type} [ToLiteral α] : ToLiteral (Option α) :=
  ⟨fun
    | some value => toLiteral value
    | none => .null⟩

instance {α : Type} [ToLiteral α] : ToLiteral (List α) :=
  ⟨fun values => .list (values.map toLiteral)⟩

instance : ToLiteral Json := ⟨Literal.ofJson⟩

end ToLiteral

end TableQuery
