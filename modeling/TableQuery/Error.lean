import TableQuery.FieldPath
import TableQuery.Json.Decode
import TableQuery.Json.Reader
import TableQuery.Operator

/-!
# Errors

Everything that can go wrong between a schema, a request and a statement, by cause.  The wording is
in one place, `Error.message`; the faults of one kind of input share the words that introduce them.
-/

namespace TableQuery

/-- What makes a schema unusable. -/
inductive SchemaFault where
  /-- The declaration is not an object keyed by table names. -/
  | notAnObject
  /-- A table has no name. -/
  | unnamedTable

/-- What makes a filter unusable. -/
inductive FilterFault where
  | notAnObject (found : Json)
  /-- The members of a group are not in an array. -/
  | groupNotAnArray (found : Json)
  | memberNotAnObject (found : Json)
  | conditionsNotAnObject (path : FieldPath) (found : Json)
  | unknownOperator (key : String) (path : FieldPath)
  /-- A membership has no values. -/
  | noValues (operator : Operator)
  /-- A range has another number of bounds than two. -/
  | notTwoValues (operator : Operator) (count : Nat)

/-- What makes a request or an item unusable. -/
inductive RequestFault where
  | notAnObject (found : Json)
  | itemNotAnObject (found : Json)
  | notTexts (key : String)
  | notACount (key : String)
  | unknownKey (key : String)

/-- Why something could not be decoded, checked or compiled. -/
inductive Error where
  | unknownTable (table : String)
  | unknownColumn (table column : String)
  | unknownRelation (table relation : String)
  | invalidSchema (fault : SchemaFault)
  /-- The declaration of a schema is JSON of another form. -/
  | undecodable (fault : Json.DecodeFault)
  /-- The declaration of a schema is not JSON. -/
  | unreadable (fault : Json.ReadFault)
  /-- A statement for one row is wanted of a table without a primary key. -/
  | missingPrimaryKey (table : String)
  | invalidFilter (fault : FilterFault)
  | invalidRequest (fault : RequestFault)

def SchemaFault.message : SchemaFault → String
  | .notAnObject => "schema must be an object keyed by table name"
  | .unnamedTable => "table names must not be empty"

def FilterFault.message : FilterFault → String
  | .notAnObject found => "expected an object, got " ++ found.text
  | .groupNotAnArray found => "logical group expects an array, got " ++ found.text
  | .memberNotAnObject found => "logical group member must be an object, got " ++ found.text
  | .conditionsNotAnObject path found =>
    "conditions for '" ++ path.text ++ "' must be an object, got " ++ found.text
  | .unknownOperator key path => "unknown operator '" ++ key ++ "' on '" ++ path.text ++ "'"
  | .noValues operator => operator.key ++ " expects at least one value"
  | .notTwoValues operator count => operator.key ++ " expects two values, got " ++ toString count

def RequestFault.message : RequestFault → String
  | .notAnObject found => "expected an object, got " ++ found.text
  | .itemNotAnObject found => "item must be an object, got " ++ found.text
  | .notTexts key => "'" ++ key ++ "' must be an array of strings"
  | .notACount key => "'" ++ key ++ "' must be a non-negative integer"
  | .unknownKey key => "unknown request key '" ++ key ++ "'"

/-- The wording of an error. -/
def Error.message : Error → String
  | .unknownTable table => "unknown table: " ++ table
  | .unknownColumn table column => "unknown column '" ++ column ++ "' on table '" ++ table ++ "'"
  | .unknownRelation table relation =>
    "unknown relation '" ++ relation ++ "' on table '" ++ table ++ "'"
  | .invalidSchema fault => "invalid schema: " ++ fault.message
  | .undecodable fault => "schema decoding error: " ++ fault.message
  | .unreadable .unfinished => "schema decoding error: the text ends too early"
  | .unreadable .malformed => "schema decoding error: the text is not JSON"
  | .missingPrimaryKey table => "primary key not found for table " ++ table
  | .invalidFilter fault => "invalid filter: " ++ fault.message
  | .invalidRequest fault => "invalid request: " ++ fault.message

end TableQuery
