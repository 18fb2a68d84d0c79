import TableQuery.Proofs.Json.Record
import TableQuery.Proofs.Statement.Values

/-!
# What is written of the columns that are set

An item is filled by setting columns one after the other, the first ones perhaps all at once from
a JSON object, and a column may be set again at any time.  `Item.MadeOf` is every way in which an
item is made, together with all that was set on that way.

`keepsLast_of_madeOf` says what is left: each column once, where it was set first, with the value
that was set last.  `foldl_set_eq_ofFields` says that the two ways in agree.  The statements that
write an item read it from front to back, so `writes_of_madeOf` finds the same columns and values in
their texts.
-/

namespace TableQuery

namespace Item

/-- Items with all that was set in them, in order. -/
inductive MadeOf : List (String × Literal) → Item → Prop where
  | empty : MadeOf [] empty
  | ofJson {value : Json} {fields : List (String × Json)} {item : Item}
      (hobject : value.IsObject fields) (hitem : ofJson value = .ok item) :
      MadeOf (fields.map literalEntry) item
  | set {given : List (String × Literal)} {item : Item} (column : String) (value : Literal)
      (hmade : MadeOf given item) : MadeOf (given ++ [(column, value)]) (item.set column value)

/-- The entries of an object are taken over one by one. -/
theorem entries_ofFields {fields : List (String × Json)}
    (hdistinct : (fields.map Prod.fst).Nodup) :
    (ofFields fields).entries = fields.map literalEntry := by
  show (fields.foldl _ []).map literalEntry = _
  rw [Keyed.foldl_put_eq_self Prod.fst hdistinct]

theorem eq_of_entries_eq {item other : Item} (hentries : item.entries = other.entries) :
    item = other := by
  cases item
  cases other
  cases hentries
  rfl

/-- Setting the entries of an object one after the other makes the item of the object. -/
theorem foldl_set_eq_ofFields (fields : List (String × Json)) :
    fields.foldl (fun item field => item.set field.1 (Literal.ofJson field.2)) empty =
      ofFields fields := by
  apply eq_of_entries_eq
  calc
    _ = fields.foldl (fun kept field => Keyed.put Prod.fst (literalEntry field) kept)
          ([].map literalEntry) := (List.foldl_hom entries fun _ _ => rfl).symm
    _ = (fields.foldl (fun kept field => Keyed.put Prod.fst field kept) []).map literalEntry :=
        List.foldl_hom (List.map literalEntry) fun kept field =>
          (Keyed.map_put literalEntry (fun _ => rfl) field kept).symm

/-- However an item is made, it has the value that was set last for each column, in the order in
which the columns were set first. -/
theorem keepsLast_of_madeOf {given : List (String × Literal)} {item : Item}
    (hmade : MadeOf given item) : Keyed.KeepsLast Prod.fst given item.entries := by
  induction hmade with
  | empty => exact .nil Prod.fst
  | @ofJson value fields item hobject hitem =>
    obtain ⟨rfl, hdistinct⟩ := hobject
    cases hitem
    have hkeys : ((fields.map literalEntry).map Prod.fst).Nodup := by
      rw [List.map_map]
      exact hdistinct
    have hkept := Keyed.keepsLast_foldl Prod.fst (fields.map literalEntry)
    rw [entries_ofFields hdistinct]
    rwa [Keyed.foldl_put_eq_self Prod.fst hkeys] at hkept
  | set column value _ ih => exact ih.concat (column, value)

/-- The assignments of an item pair its columns with its values. -/
theorem assignments_eq_zipWith (item : Item) :
    item.assignments =
      List.zipWith (fun column value => quoteIdentifier column ++ " = " ++ value.sql)
        item.columns item.values := by
  rw [assignments_eq_map, columns, values, List.zipWith_map, List.zipWith_self]
  rfl

end Item

namespace Statement

/-- What is in an item to which columns were set, and what statements write of it. -/
structure Writes (given : List (String × Literal)) (item : Item) : Prop where
  /-- Every column stands where it was set first. -/
  columns : item.columns = (given.map Prod.fst).eraseDups
  distinct : item.columns.Nodup
  /-- Beside each column is the value that was set last. -/
  values : List.Forall₂ (fun column value => Keyed.IsLast Prod.fst (column, value) given)
    item.columns item.values
  /-- A new row lists each column once, and each value. -/
  created : ∀ schema root table, schema.table? root = some table →
    ∃ statement, createOne schema root item = .ok statement ∧
      statement.sql = "INSERT INTO " ++ quoteIdentifier root ++ " (" ++
        String.intercalate ", " (item.columns.map quoteIdentifier) ++ ") VALUES (" ++
        String.intercalate ", " (item.values.map Literal.sql) ++ ")"
  /-- An update assigns to each column once.  Blanks are dropped behind the last value. -/
  assigned : ∀ schema root request statement,
    (update schema root item request = .ok statement ∨
        ∃ key, updateOne schema root key item request = .ok statement) →
      statement.sql = String.intercalate " " (("UPDATE " ++ quoteIdentifier root) ::
        dropFinalBlanks ("SET " ++ String.intercalate ", " (List.zipWith
          (fun column value => quoteIdentifier column ++ " = " ++ value.sql)
          item.columns item.values)) ::
        (whereClause statement.predicates).map dropFinalBlanks)

/-- An item is an ordered map of columns, whatever is set in it in whatever order and whether it
starts from a JSON object or from nothing; setting the entries of an object one by one comes to the
same as taking them over.  So a new row and an update name every column once, where it was set first,
with the value that was set last. -/
theorem writes_of_madeOf :
    (∀ value fields, value.IsObject fields → Item.ofJson value = .ok
      (fields.foldl (fun item field => item.set field.1 (Literal.ofJson field.2)) Item.empty)) ∧
    ∀ given item, Item.MadeOf given item → Writes given item := by
  constructor
  · intro value fields hobject
    obtain ⟨rfl, -⟩ := hobject
    rw [Item.foldl_set_eq_ofFields]
    rfl
  · intro given item hmade
    have hkept := Item.keepsLast_of_madeOf hmade
    refine ⟨hkept.keys, hkept.nodup, ?_, ?_, ?_⟩
    · rw [Item.columns, Item.values, List.forall₂_map_left_iff, List.forall₂_map_right_iff,
        List.forall₂_same]
      exact fun entry hentry => hkept.isLast_of_mem hentry
    · intro schema root table htable
      refine ⟨_, createOne_of_table? htable item, ?_⟩
      rw [sql_of_insertion, rowSql, Item.columns, Item.values, List.map_map, List.map_map]
      apply String.toList_injective
      simp [Function.comp_def]
    · intro schema root request statement hbuilt
      rw [sql_of_update hbuilt, Item.assignments_eq_zipWith]

/-- Ships have a name and a crew. -/
def shipsSchema : Schema :=
  Schema.empty.insert ⟨"ships", [⟨"id", .int8, true, true, true, none⟩,
    ⟨"name", .text, false, false, true, none⟩, ⟨"crew", .int4, false, false, false, none⟩], []⟩

/-- A ship as it is given in JSON. -/
def shipFields : List (String × Json) :=
  [("name", .str "Vega"), ("crew", .null)]

/-- The ship with a number and another name. -/
def shipItem : Item :=
  ((Item.ofFields shipFields).set "id" (.int 7)).set "name" (.text "Lyra")

theorem writes_of_madeOf_shipItem :
    Item.MadeOf ([("name", .text "Vega"), ("crew", .null)] ++ [("id", .int 7)] ++
        [("name", .text "Lyra")]) shipItem ∧
      shipItem.columns = ["name", "crew", "id"] ∧
      (createOne shipsSchema "ships" shipItem).map sql =
        .ok "INSERT INTO `ships` (`name`, `crew`, `id`) VALUES ('Lyra', NULL, 7)" ∧
      ∃ updated, updateOne shipsSchema "ships" (.int 3) shipItem Request.empty = .ok updated ∧
        updated.sql = "UPDATE `ships` SET `name` = 'Lyra', `crew` = NULL, `id` = 7 " ++
          "WHERE `ships`.`id` = 3" := by
  have hobject : (Json.obj shipFields).IsObject shipFields := ⟨rfl, by simp [shipFields]⟩
  have hstart : Item.MadeOf [("name", .text "Vega"), ("crew", .null)] (Item.ofFields shipFields) :=
    .ofJson hobject rfl
  have hmade : Item.MadeOf _ shipItem := (hstart.set "id" (.int 7)).set "name" (.text "Lyra")
  have hwrites := writes_of_madeOf.2 _ shipItem hmade
  obtain ⟨inserted, hcreate, hsql⟩ := hwrites.created shipsSchema "ships" _ rfl
  obtain ⟨updated, hupdate⟩ :
      ∃ updated, updateOne shipsSchema "ships" (.int 3) shipItem Request.empty = .ok updated :=
    ⟨_, rfl⟩
  refine ⟨hmade, hwrites.columns, ?_, updated, hupdate, ?_⟩
  · rw [hcreate]
    exact congrArg Except.ok hsql
  · rw [hwrites.assigned shipsSchema "ships" Request.empty updated (.inr ⟨.int 3, hupdate⟩)]
    cases hupdate
    rfl

end Statement

end TableQuery
