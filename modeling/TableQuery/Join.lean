import TableQuery.Identifier

/-!
# Joins

A join brings the rows of one more table into a selection, matched by equality of one key on either
side.  Two joins are the same only when all four names agree, and a list of joins is rendered in
the order in which the tables have to be brought in.

`Join.Collection` is a list of joins as it grows: a join that has been seen is not taken again, so
the first place where it is needed is the one that it keeps.
-/

namespace TableQuery

/-- An inner join of `toTable` onto `fromTable`. -/
structure Join where
  fromTable : String
  fromKey : String
  toTable : String
  toKey : String
  deriving DecidableEq, Repr

namespace Join

/-- The key on the side that is already in the selection. -/
def fromRef (join : Join) : ColumnRef := ⟨join.fromTable, join.fromKey⟩

/-- The key on the side that is brought in. -/
def toRef (join : Join) : ColumnRef := ⟨join.toTable, join.toKey⟩

/-- The text of a join. -/
def sql (join : Join) : String :=
  "INNER JOIN " ++ quoteIdentifier join.toTable ++ " ON " ++ join.toRef.sql ++ " = " ++
    join.fromRef.sql

/-- The texts of several joins, one after the other. -/
def listSql (joins : List Join) : String :=
  String.intercalate " " (joins.map sql)

/-! ## Collecting joins -/

/-- The joins that have been taken, in order, and those that have been seen. -/
structure Collection where
  joins : List Join
  seen : List Join

namespace Collection

def empty : Collection := ⟨[], []⟩

/-- Takes a join, unless it has been seen before. -/
def take (collection : Collection) (join : Join) : Collection :=
  if join ∈ collection.seen then collection
  else ⟨collection.joins ++ [join], join :: collection.seen⟩

/-- Takes several joins one after the other. -/
def takeAll (collection : Collection) (joins : List Join) : Collection :=
  joins.foldl take collection

end Collection

end Join

end TableQuery
