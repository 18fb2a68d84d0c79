import TableQuery.Json
import TableQuery.Keyed

/-!
# Result rows

A row of a result is a list of column names with JSON values, in the order of the result's columns.
A database hands values back in one of five storage forms; `Cell.toJson` turns one into JSON, and
`Row.ofCells` a whole row.  A column name that comes up again keeps its first place and takes the
later value.
-/

namespace TableQuery

/-- Column names with their values, in result order. -/
abbrev Row := List (String × Json)

/-- A value as a database hands it back. -/
inductive Cell where
  | null
  | integer (value : Int64)
  | real (value : Binary64)
  /-- A text by its encoded bytes, which need not be valid. -/
  | text (bytes : ByteArray)
  | blob (bytes : List UInt8)

/-- The reason for which a cell has no JSON form: the bytes of a text are not valid UTF-8. -/
inductive CellFault where
  | invalidText
  deriving DecidableEq, Repr

/-- The JSON form of a cell.  A real that is no finite number becomes null, and bytes become the
array of their values. -/
def Cell.toJson : Cell → Except CellFault Json
  | .null => .ok .null
  | .integer value => .ok (.whole (.ofInt64 value))
  | .real value => .ok (if value.isFinite then .real value else .null)
  | .text bytes =>
    match String.fromUTF8? bytes with
    | some decoded => .ok (.str decoded)
    | none => .error .invalidText
  | .blob bytes => .ok (.arr (bytes.map (fun byte => .whole (.ofUInt64 byte.toUInt64))))

namespace Row

/-- Adds the value of the next column. -/
def set (row : Row) (column : String) (value : Json) : Row :=
  Keyed.put Prod.fst (column, value) row

/-- The row of named cells. -/
def ofCells (cells : List (String × Cell)) : Except CellFault Row :=
  cells.foldlM (fun row (column, cell) => return row.set column (← cell.toJson)) []

/-- The rows of a result with the given columns. -/
def ofResult (columns : List String) (rows : List (List Cell)) : Except CellFault (List Row) :=
  rows.mapM (fun cells => ofCells (columns.zip cells))

end Row

end TableQuery
