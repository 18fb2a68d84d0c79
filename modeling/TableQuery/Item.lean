import TableQuery.Error
import TableQuery.Literal

/-!
# Items

An item is what is written to one row: columns with their values, in the order in which the columns
were first set.  No column stands in it twice, and an item carries the proof.

There are two ways in: `Item.set` sets one column, and `Item.ofJson` takes all entries of a JSON
object in their order.
-/

namespace TableQuery

/-- Columns with their values, each column once. -/
structure Item where
  entries : List (String × Literal)
  distinct : (entries.map Prod.fst).Nodup

namespace Item

/-- The item without columns. -/
def empty : Item := ⟨[], List.nodup_nil⟩

/-- Sets the value of a column.  A column that is set again keeps its place. -/
def set (item : Item) (column : String) (value : Literal) : Item :=
  ⟨Keyed.put Prod.fst (column, value) item.entries,
    Keyed.nodup_put Prod.fst (column, value) item.entries item.distinct⟩

/-- The columns in order. -/
def columns (item : Item) : List String :=
  item.entries.map Prod.fst

/-- The values in the order of their columns. -/
def values (item : Item) : List Literal :=
  item.entries.map Prod.snd

/-- An entry of a JSON object as a column with its value. -/
def literalEntry (field : String × Json) : String × Literal :=
  (field.1, Literal.ofJson field.2)

/-- The item with all entries of a JSON object at once.  In an object no key stands twice. -/
def ofFields (fields : List (String × Json)) : Item :=
  ⟨(fields.foldl (fun kept field => Keyed.put Prod.fst field kept) []).map literalEntry, by
    have hdistinct := Keyed.nodup_foldl_put Prod.fst fields [] List.nodup_nil
    rw [List.map_map]
    exact hdistinct⟩

/-- The item that a JSON value declares. -/
def ofJson : Json → Except Error Item
  | .obj fields => .ok (ofFields fields)
  | other => .error (.invalidRequest (.itemNotAnObject other))

end Item

end TableQuery
