import TableQuery.Filter.Declaration
import TableQuery.Filter.Predicate

/-!
# Requests

A request says what is wanted of a table: which fields, under which filter, grouped and ordered
how, and which slice of the result.  Each kind of statement uses the parts that it has a clause
for.

`Request.paths` is every field that a request names, which is what joins are collected from and
what the strict check goes through.
-/

namespace TableQuery

/-- The direction of an ordering. -/
inductive Direction where
  | ascending | descending
  deriving DecidableEq, Repr

/-- A field to order by. -/
structure OrderTerm where
  path : FieldPath
  direction : Direction
  deriving DecidableEq, Repr

/-- What is wanted of a table. -/
structure Request where
  /-- The fields to select; none, or an empty list, selects every column of the table. -/
  columns : Option (List FieldPath)
  filter : Filter
  orderBy : List OrderTerm
  groupBy : List FieldPath
  limit : Option UInt64
  offset : Option UInt64

/-- The word of a direction in a statement. -/
def Direction.sql : Direction → String
  | .ascending => "ASC"
  | .descending => "DESC"

namespace OrderTerm

/-- Reads an ordering: a field path, descending when a minus stands in front of it. -/
def ofText (text : String) : OrderTerm :=
  match text.toList with
  | '-' :: path => ⟨FieldPath.ofText (String.ofList path), .descending⟩
  | _ => ⟨FieldPath.ofText text, .ascending⟩

end OrderTerm

namespace Request

/-- The request for all of a table. -/
def empty : Request := ⟨none, .empty, [], [], none, none⟩

/-! ## Building -/

/-- Selects the given fields, and no others. -/
def select (request : Request) (columns : List String) : Request :=
  { request with columns := some (columns.map FieldPath.ofText) }

/-- Puts the request under a filter, in place of the one it had. -/
def under (request : Request) (filter : Filter) : Request :=
  { request with filter }

/-- Adds an ordering behind those that the request has. -/
def thenOrderBy (request : Request) (term : String) : Request :=
  { request with orderBy := request.orderBy ++ [OrderTerm.ofText term] }

/-- Adds a field to group by. -/
def thenGroupBy (request : Request) (path : String) : Request :=
  { request with groupBy := request.groupBy ++ [FieldPath.ofText path] }

/-- Asks for at most so many rows. -/
def take (request : Request) (count : UInt64) : Request :=
  { request with limit := some count }

/-- Passes over so many rows. -/
def skip (request : Request) (count : UInt64) : Request :=
  { request with offset := some count }

/-! ## Fields and joins -/

/-- The fields to select; none stand for every column of the table. -/
def selected (request : Request) : List FieldPath :=
  request.columns.getD []

/-- Every field that the request names: selected, filtered, grouped, ordered. -/
def paths (request : Request) : List FieldPath :=
  request.selected ++ request.filter.paths ++ request.groupBy ++
    request.orderBy.map OrderTerm.path

/-- Collects the joins that one more field needs. -/
def collectJoins (schema : Schema) (root : String) (collection : Join.Collection)
    (path : FieldPath) : Except Error Join.Collection := do
  let resolution ← path.resolve schema root
  return collection.takeAll resolution.joins

/-- The joins that the fields of a request need, each once, where it is needed first. -/
def joins (schema : Schema) (root : String) (request : Request) : Except Error (List Join) := do
  let collection ← request.paths.foldlM (collectJoins schema root) .empty
  return collection.joins

/-! ## Declaration in JSON -/

/-- The texts of an array of strings. -/
def textsOfJson (key : String) : Json → Except Error (List String)
  | .arr items => items.mapM (fun item =>
      match item with
      | .str text => .ok text
      | _ => .error (.invalidRequest (.notTexts key)))
  | _ => .error (.invalidRequest (.notTexts key))

/-- A whole number that is not negative. -/
def countOfJson (key : String) : Json → Except Error UInt64
  | .whole n =>
    if 0 ≤ n.val then .ok (UInt64.ofNat n.val.toNat)
    else .error (.invalidRequest (.notACount key))
  | _ => .error (.invalidRequest (.notACount key))

/-- The parts of a request that a declaration may name. -/
inductive Part where
  | columns | filter | orderBy | groupBy | limit | offset
  deriving DecidableEq, Repr

/-- The part that a key names. -/
def Part.ofKey? (key : String) : Option Part :=
  if key = "columns" then some .columns
  else if key = "where" then some .filter
  else if key = "orderBy" then some .orderBy
  else if key = "groupBy" then some .groupBy
  else if key = "limit" then some .limit
  else if key = "offset" then some .offset
  else none

/-- Sets the part that a key names.  A part given as null is left as it is. -/
def setEntry (request : Request) (entry : String × Json) : Except Error Request :=
  let (key, value) := entry
  if value.isNull then .ok request
  else match Part.ofKey? key with
    | some .columns => do
      return { request with columns := some ((← textsOfJson key value).map FieldPath.ofText) }
    | some .filter => do return { request with filter := ← Filter.ofJson value }
    | some .orderBy => do
      return { request with orderBy := (← textsOfJson key value).map OrderTerm.ofText }
    | some .groupBy => do
      return { request with groupBy := (← textsOfJson key value).map FieldPath.ofText }
    | some .limit => do return { request with limit := some (← countOfJson key value) }
    | some .offset => do return { request with offset := some (← countOfJson key value) }
    | none => .error (.invalidRequest (.unknownKey key))

/-- The request that a JSON value declares. -/
def ofJson : Json → Except Error Request
  | .obj entries => entries.foldlM setEntry empty
  | other => .error (.invalidRequest (.notAnObject other))

end Request

end TableQuery
