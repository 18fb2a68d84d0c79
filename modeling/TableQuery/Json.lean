import TableQuery.Decimal.Layout
import TableQuery.Keyed

/-!
# JSON values

A JSON value keeps the entries of an object in the order in which they were written, because that
order is the order of columns, conditions and clauses in everything built from it.  Numbers come in
two kinds: whole numbers that fit a 64-bit word, and floating point numbers for all others.

`Json.text` is the compact text of a value: no blanks, and only the escapes that a string needs.
-/

namespace TableQuery

/-- A whole number that fits a signed or an unsigned 64-bit word. -/
structure Json.Whole where
  val : Int
  lower : -0x8000000000000000 ≤ val
  upper : val < 0x10000000000000000
  deriving DecidableEq

namespace Json.Whole

/-- The whole number with the given value, if it fits. -/
def ofInt? (n : Int) : Option Whole :=
  if h : -0x8000000000000000 ≤ n ∧ n < 0x10000000000000000 then some ⟨n, h.1, h.2⟩ else none

/-- A signed word as a whole number. -/
def ofInt64 (n : Int64) : Whole :=
  ⟨n.toInt, n.le_toInt, Int.lt_trans n.toInt_lt (by decide)⟩

/-- An unsigned word as a whole number. -/
def ofUInt64 (n : UInt64) : Whole :=
  ⟨n.toNat, by omega, by have := n.toNat_lt; omega⟩

end Json.Whole

/-- A JSON value.  The entries of an object are in written order; `Json.Reader` gives each key
once. -/
inductive Json where
  | null
  | bool (value : Bool)
  | whole (value : Json.Whole)
  | real (value : Binary64)
  | str (value : String)
  | arr (items : List Json)
  | obj (fields : List (String × Json))
  deriving Inhabited

namespace Json

/-- Floating point numbers in JSON text: positional while the leading digit stands between the
fifth place after the point and the sixteenth before it, and always recognisable as no whole
number. -/
def realLayout : Layout where
  positional exponent := -5 ≤ exponent && exponent < 16
  afterWhole := ".0"
  tie := .toEven

/-- A digit of a base up to sixteen, in lower case. -/
def hexDigit (n : Nat) : Char :=
  Nat.digitChar n

/-- A character as it stands inside a quoted string: itself, unless it is a quote, a backslash or a
control character. -/
def escape (c : Char) : List Char :=
  match c with
  | '"' => ['\\', '"']
  | '\\' => ['\\', '\\']
  | '\x08' => ['\\', 'b']
  | '\x0c' => ['\\', 'f']
  | '\n' => ['\\', 'n']
  | '\r' => ['\\', 'r']
  | '\t' => ['\\', 't']
  | c =>
    if c.toNat < 0x20 then
      ['\\', 'u', '0', '0', hexDigit (c.toNat / 16), hexDigit (c.toNat % 16)]
    else [c]

/-- A string in quotes. -/
def quote (s : String) : String :=
  "\"" ++ String.ofList (s.toList.flatMap escape) ++ "\""

mutual

/-- The compact text of a value.  A real that is no number is written as null. -/
def text : Json → String
  | .null => "null"
  | .bool value => if value then "true" else "false"
  | .whole value => toString value.val
  | .real value => (realLayout.text? value).getD "null"
  | .str value => quote value
  | .arr items => "[" ++ String.intercalate "," (itemTexts items) ++ "]"
  | .obj fields => "\x7b" ++ String.intercalate "," (fieldTexts fields) ++ "\x7d"
termination_by structural value => value

/-- The texts of the items of an array. -/
def itemTexts : List Json → List String
  | [] => []
  | item :: rest => item.text :: itemTexts rest
termination_by structural items => items

/-- The texts of the entries of an object. -/
def fieldTexts : List (String × Json) → List String
  | [] => []
  | (key, value) :: rest => (quote key ++ ":" ++ value.text) :: fieldTexts rest
termination_by structural fields => fields

end

/-- The value of a key of an object. -/
def get? : Json → String → Option Json
  | .obj fields, key => (Keyed.get? Prod.fst key fields).map Prod.snd
  | _, _ => none

/-- Whether the value is null. -/
def isNull : Json → Bool
  | .null => true
  | _ => false

end Json

end TableQuery
