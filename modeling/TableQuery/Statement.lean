import TableQuery.Item
import TableQuery.Request

/-!
# Statements

A statement is built in two steps.  First a request is resolved against the schema, which gives
a `Statement`: tables, column references, joins, predicates and values, with all names settled.
Then `Statement.sql` writes it, clause by clause in a fixed order with single spaces between.  All
errors arise in the first step.

`Statement.find` and its companions `update` and `remove` concern all rows under a filter.  The
three that end in `One` concern the row with a given key: they put equality of the primary key into
the filter, and `findOne` then uses of a request only its columns and its filter.

A clause that would be empty is left out, and blanks at the end of a clause are dropped; they arise
only from a list without elements, which has no text.
-/

namespace TableQuery

/-- A statement with all names settled. -/
inductive Statement where
  /-- Selects columns of a table and of those joined to it. -/
  | selection (columns : List ColumnRef) (source : String) (joins : List Join)
      (predicates : List Predicate) (groupBy : List ColumnRef)
      (orderBy : List (ColumnRef × Direction)) (limit offset : Option UInt64)
  /-- Adds one row. -/
  | insertion (target : String) (entries : List (String × Literal))
  /-- Sets columns of the rows that satisfy the predicates. -/
  | assignment (target : String) (entries : List (String × Literal)) (predicates : List Predicate)
  /-- Removes the rows that satisfy the predicates. -/
  | deletion (target : String) (predicates : List Predicate)

namespace Statement

/-! ## Text -/

/-- A text without the blanks at its end. -/
def dropFinalBlanks (text : String) : String :=
  String.ofList (text.toList.reverse.dropWhile (· = ' ')).reverse

/-- The clause of a filter, if it has predicates. -/
def whereClause (predicates : List Predicate) : List String :=
  if predicates.isEmpty then [] else ["WHERE " ++ Predicate.conjunctionSql predicates]

/-- The clause of a grouping, if there is one. -/
def groupClause (columns : List ColumnRef) : List String :=
  if columns.isEmpty then [] else ["GROUP BY " ++ ColumnRef.listSql columns]

/-- A column with the direction in which it orders. -/
def orderTermSql (ordering : ColumnRef × Direction) : String :=
  ordering.1.sql ++ " " ++ ordering.2.sql

/-- The clause of an ordering, if there is one. -/
def orderClause (orderings : List (ColumnRef × Direction)) : List String :=
  if orderings.isEmpty then []
  else ["ORDER BY " ++ String.intercalate ", " (orderings.map orderTermSql)]

/-- A clause that holds a number, if there is one. -/
def countClause (word : String) : Option UInt64 → List String
  | some count => [word ++ " " ++ toString count.toNat]
  | none => []

/-- A column with the value that it is set to. -/
def assignmentSql (entry : String × Literal) : String :=
  quoteIdentifier entry.1 ++ " = " ++ entry.2.sql

/-- The columns of a new row and its values, both in brackets. -/
def rowSql (entries : List (String × Literal)) : String :=
  "(" ++ String.intercalate ", " (entries.map (fun entry => quoteIdentifier entry.1)) ++
    ") VALUES (" ++ String.intercalate ", " (entries.map (fun entry => entry.2.sql)) ++ ")"

/-- The clauses of a statement in order. -/
def clauses : Statement → List String
  | .selection columns source joins predicates groupBy orderBy limit offset =>
    ["SELECT " ++ ColumnRef.listSql columns, "FROM " ++ quoteIdentifier source] ++
      joins.map Join.sql ++ whereClause predicates ++ groupClause groupBy ++
      orderClause orderBy ++ countClause "LIMIT" limit ++ countClause "OFFSET" offset
  | .insertion target entries => ["INSERT INTO " ++ quoteIdentifier target, rowSql entries]
  | .assignment target entries predicates =>
    ["UPDATE " ++ quoteIdentifier target,
      "SET " ++ String.intercalate ", " (entries.map assignmentSql)] ++ whereClause predicates
  | .deletion target predicates =>
    ["DELETE FROM " ++ quoteIdentifier target] ++ whereClause predicates

/-- The text of a statement. -/
def sql (statement : Statement) : String :=
  String.intercalate " " (statement.clauses.map dropFinalBlanks)

/-! ## Many rows -/

/-- A column of an ordering, resolved. -/
def resolveOrderTerm (schema : Schema) (root : String) (ordering : OrderTerm) :
    Except Error (ColumnRef × Direction) := do
  return (← ordering.path.columnRef schema root, ordering.direction)

/-- Selects what a request asks for. -/
def find (schema : Schema) (root : String) (request : Request) : Except Error Statement := do
  let columns ← FieldPath.columnRefs schema root request.selected
  let source ← schema.table root
  let joins ← request.joins schema root
  let predicates ← request.filter.resolve schema root
  let groupBy ← request.groupBy.mapM (FieldPath.columnRef schema root)
  let orderBy ← request.orderBy.mapM (resolveOrderTerm schema root)
  return .selection columns source.name joins predicates groupBy orderBy request.limit request.offset

/-- Updates the rows under the filter of a request. -/
def update (schema : Schema) (root : String) (item : Item) (request : Request) :
    Except Error Statement := do
  let target ← schema.table root
  let predicates ← request.filter.resolve schema root
  return .assignment target.name item.entries predicates

/-- Removes the rows under the filter of a request. -/
def remove (schema : Schema) (root : String) (request : Request) : Except Error Statement := do
  let target ← schema.table root
  let predicates ← request.filter.resolve schema root
  return .deletion target.name predicates

/-! ## One row -/

/-- Adds a row. -/
def createOne (schema : Schema) (root : String) (item : Item) : Except Error Statement := do
  let target ← schema.table root
  return .insertion target.name item.entries

/-- The request narrowed to the row with the given key. -/
def keyed (schema : Schema) (root : String) (key : Literal) (request : Request) :
    Except Error Request := do
  let primaryKey ← schema.primaryKey root
  return { request with filter := request.filter.withEquality (FieldPath.ofText primaryKey) key }

/-- Selects the row with the given key.  Only the columns and the filter of the request are used. -/
def findOne (schema : Schema) (root : String) (key : Literal) (request : Request) :
    Except Error Statement := do
  let narrowed ← keyed schema root key request
  let kept : Request := { Request.empty with columns := narrowed.columns, filter := narrowed.filter }
  let columns ← FieldPath.columnRefs schema root kept.selected
  let source ← schema.table root
  let joins ← kept.joins schema root
  let predicates ← kept.filter.resolve schema root
  return .selection columns source.name joins predicates [] [] none none

/-- Updates the row with the given key. -/
def updateOne (schema : Schema) (root : String) (key : Literal) (item : Item) (request : Request) :
    Except Error Statement := do
  let narrowed ← keyed schema root key request
  let target ← schema.table root
  let predicates ← narrowed.filter.resolve schema root
  return .assignment target.name item.entries predicates

/-- Removes the row with the given key. -/
def removeOne (schema : Schema) (root : String) (key : Literal) (request : Request) :
    Except Error Statement := do
  let narrowed ← keyed schema root key request
  let target ← schema.table root
  let predicates ← narrowed.filter.resolve schema root
  return .deletion target.name predicates

end Statement

end TableQuery
