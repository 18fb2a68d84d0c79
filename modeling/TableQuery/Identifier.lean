/-!
# Names in statements

Names of tables and columns are put between backticks as they are; a backtick inside a name is not
escaped, so names have to come from a trusted schema.

A `ColumnRef` is a column together with the table that it is read from, the only form in which
a statement refers to a column outside the list of columns that it writes.  The column `*` stands
for all columns of its table and is not quoted.
-/

namespace TableQuery

/-- The column name that stands for every column of a table. -/
def wildcard : String := "*"

/-- A name between backticks. -/
def quoteIdentifier (name : String) : String :=
  "`" ++ name ++ "`"

/-- A column of a table, as a statement refers to it. -/
structure ColumnRef where
  table : String
  column : String
  deriving DecidableEq, Repr

/-- The text of a column reference: both names quoted, or the quoted table and a star. -/
def ColumnRef.sql (ref : ColumnRef) : String :=
  if ref.column = wildcard then quoteIdentifier ref.table ++ ".*"
  else quoteIdentifier ref.table ++ "." ++ quoteIdentifier ref.column

end TableQuery
