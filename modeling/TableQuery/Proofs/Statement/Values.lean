import TableQuery.Proofs.Literal
import TableQuery.Proofs.Statement.Key

/-!
# The values that a statement writes

A new row is written as two lists, one of columns and one of values, and an update as assignments.
A value may be a list, and a list has no brackets of its own: it is written as its leaves, among
those of the values around it.  So the two lists of a new row go together, and an assignment has one
value, only as long as every value is single.

`sql_of_createOne` and `sql_of_update` say what is written leaf by leaf, and `writes_iff_single` for
which items each column then has one literal.
-/

namespace TableQuery

namespace Item

/-- The literals in the second list of a new row, from left to right. -/
def tuple (item : Item) : List Literal :=
  item.values.flatMap Literal.leaves

/-- The assignments of an update, each with the literals that its value is written as. -/
def assignments (item : Item) : List String :=
  item.entries.map fun entry =>
    quoteIdentifier entry.1 ++ " = " ++ String.intercalate ", " (entry.2.leaves.map Literal.sql)

theorem assignments_eq_map (item : Item) :
    item.assignments = item.entries.map Statement.assignmentSql := by
  refine List.map_congr_left fun entry _ => ?_
  rw [Statement.assignmentSql, ← Literal.sql_eq_intercalate_leaves]

end Item

namespace Statement

variable {schema : Schema} {root : String} {table : Table}

theorem endsSolid_quoteIdentifier (name : String) : EndsSolid (quoteIdentifier name) :=
  EndsSolid.append _ ⟨[], '`', by decide, by decide⟩

/-- An insertion is written as the clause that names its table and the row. -/
theorem sql_of_insertion (target : String) (entries : List (String × Literal)) :
    (insertion target entries).sql =
      "INSERT INTO " ++ quoteIdentifier target ++ " " ++ rowSql entries := by
  have hrow : EndsSolid (rowSql entries) := .append _ ⟨[], ')', by decide, by decide⟩
  rw [sql, clauses, List.map_cons, List.map_singleton, dropFinalBlanks_of_endsSolid hrow,
    dropFinalBlanks_of_endsSolid ((endsSolid_quoteIdentifier target).append _),
    String.intercalate_cons_cons, String.intercalate_singleton]

theorem createOne_of_table? (htable : schema.table? root = some table) (item : Item) :
    createOne schema root item = .ok (.insertion root item.entries) := by
  rw [createOne, Schema.table_eq_ok.2 htable]
  show Except.ok (Statement.insertion table.name item.entries) = _
  rw [Schema.name_of_table? htable]

/-- A row is added to every table that is declared, and what is written are the columns of the item
and the leaves of its values. -/
theorem sql_of_createOne (htable : schema.table? root = some table) (item : Item) :
    ∃ statement, createOne schema root item = .ok statement ∧
      statement.sql = "INSERT INTO " ++ quoteIdentifier root ++ " (" ++
        String.intercalate ", " (item.columns.map quoteIdentifier) ++ ") VALUES (" ++
        String.intercalate ", " (item.tuple.map Literal.sql) ++ ")" := by
  refine ⟨.insertion root item.entries, createOne_of_table? htable item, ?_⟩
  rw [sql_of_insertion, Item.tuple, ← Literal.intercalate_sql, rowSql, Item.columns, Item.values,
    List.map_map, List.map_map]
  apply String.toList_injective
  simp [Function.comp_def]

/-- An update is written with the leaves of the value of each column.  Blanks are dropped behind the
last of them. -/
theorem sql_of_update {item : Item} {request : Request} {statement : Statement}
    (hbuilt : update schema root item request = .ok statement ∨
      ∃ key, updateOne schema root key item request = .ok statement) :
    statement.sql = String.intercalate " " (("UPDATE " ++ quoteIdentifier root) ::
      dropFinalBlanks ("SET " ++ String.intercalate ", " item.assignments) ::
      (whereClause statement.predicates).map dropFinalBlanks) := by
  obtain ⟨predicates, rfl⟩ : ∃ predicates, statement = .assignment root item.entries predicates := by
    rcases hbuilt with hupdate | ⟨key, hupdateOne⟩
    · obtain ⟨-, predicates, -, rfl⟩ := update_eq_ok.1 hupdate
      exact ⟨predicates, rfl⟩
    · obtain ⟨narrowed, -, hupdate⟩ := updateOne_eq_ok.1 hupdateOne
      obtain ⟨-, predicates, -, rfl⟩ := update_eq_ok.1 hupdate
      exact ⟨predicates, rfl⟩
  rw [Item.assignments_eq_map, sql, clauses, List.map_append, List.map_cons, List.map_singleton,
    dropFinalBlanks_of_endsSolid ((endsSolid_quoteIdentifier root).append _)]
  rfl

/-- Single values leave no blank at the end of an update's assignments. -/
theorem dropFinalBlanks_assignments {item : Item} (hne : item.entries ≠ [])
    (hsingle : ∀ value ∈ item.values, value.IsSingle) :
    dropFinalBlanks ("SET " ++ String.intercalate ", " item.assignments) =
      "SET " ++ String.intercalate ", " item.assignments := by
  have hsolid : ∀ text ∈ item.assignments, EndsSolid text := by
    rw [Item.assignments_eq_map, List.forall_mem_map]
    intro entry hentry
    obtain ⟨leaf, -, hrenders⟩ := (hsingle entry.2 (List.mem_map_of_mem hentry)).exists_leaf
    rw [assignmentSql, ← hrenders.sql_eq]
    exact (Literal.endsSolid_sql hrenders.scalar).append _
  have hassignments : item.assignments ≠ [] := fun h => hne (List.map_eq_nil_iff.1 h)
  obtain ⟨front, last, heq⟩ : ∃ front last, item.assignments = front ++ [last] :=
    ⟨_, _, (List.dropLast_append_getLast hassignments).symm⟩
  rw [dropFinalBlanks_intercalate _ _ hassignments]
  · rw [heq, List.modifyLast_concat, dropFinalBlanks_of_endsSolid]
    exact hsolid last (heq ▸ List.mem_append_right _ List.mem_cons_self)
  · intro text htext
    obtain ⟨init, c, hchars, hc⟩ := hsolid text htext
    exact ⟨c, hchars ▸ List.mem_append_right _ List.mem_cons_self, hc⟩

/-- A row can be added to every table that is declared.  What stands between the brackets behind
`VALUES` are the leaves of the values, and they are one literal for each column, written as the value
of that column, exactly when every value is single.  What stands behind the `=` of an assignment are
the leaves of its value, and they are one literal for every column exactly when every value is
single; no blank is then dropped behind them. -/
theorem writes_iff_single (htable : schema.table? root = some table) (item : Item) :
    (∃ statement, createOne schema root item = .ok statement ∧
      statement.sql = "INSERT INTO " ++ quoteIdentifier root ++ " (" ++
        String.intercalate ", " (item.columns.map quoteIdentifier) ++ ") VALUES (" ++
        String.intercalate ", " (item.tuple.map Literal.sql) ++ ")") ∧
    (List.Forall₂ Literal.Renders item.values item.tuple ↔
      ∀ value ∈ item.values, value.IsSingle) ∧
    (∀ request statement, (update schema root item request = .ok statement ∨
        ∃ key, updateOne schema root key item request = .ok statement) →
      statement.sql = String.intercalate " " (("UPDATE " ++ quoteIdentifier root) ::
        dropFinalBlanks ("SET " ++ String.intercalate ", " item.assignments) ::
        (whereClause statement.predicates).map dropFinalBlanks)) ∧
    ((∀ entry ∈ item.entries, ∃ literal, entry.2.leaves = [literal] ∧
        Literal.Renders entry.2 literal) ↔ ∀ value ∈ item.values, value.IsSingle) ∧
    (item.entries ≠ [] → (∀ value ∈ item.values, value.IsSingle) →
      dropFinalBlanks ("SET " ++ String.intercalate ", " item.assignments) =
        "SET " ++ String.intercalate ", " item.assignments) := by
  refine ⟨sql_of_createOne htable item, Literal.forall₂_renders_iff, ?_, ?_,
    dropFinalBlanks_assignments⟩
  · intro request statement hbuilt
    exact sql_of_update hbuilt
  · rw [Item.values, List.forall_mem_map]
    simp only [Literal.isSingle_iff]

/-- Posts have a title and tags. -/
def postsSchema : Schema :=
  Schema.empty.insert ⟨"posts", [⟨"title", .text, false, false, true, none⟩,
    ⟨"tags", .json, false, false, false, none⟩], []⟩

/-- A post whose tags are a list of one tag within a list, beside a list of none. -/
def taggedPost : Item :=
  (Item.empty.set "tags" (.list [.list [.text "logic"], .list []])).set "title" (.text "Lean")

theorem writes_iff_single_taggedPost :
    (createOne postsSchema "posts" taggedPost).map sql =
        .ok "INSERT INTO `posts` (`tags`, `title`) VALUES ('logic', , 'Lean')" ∧
      taggedPost.tuple.map Literal.sql = ["'logic'", "", "'Lean'"] ∧
      ¬List.Forall₂ Literal.Renders taggedPost.values taggedPost.tuple ∧
      ¬Literal.IsSingle (.list [.list [.text "logic"], .list []]) := by
  have htable : postsSchema.table? "posts" = some _ := rfl
  obtain ⟨⟨statement, hcreate, hsql⟩, hpairs, -⟩ := writes_iff_single htable taggedPost
  have hmany : ¬Literal.IsSingle (.list [.list [.text "logic"], .list []]) := by
    intro hsingle
    cases hsingle with
    | scalar hscalar => exact hscalar _ rfl
  refine ⟨?_, rfl, ?_, hmany⟩
  · rw [hcreate]
    exact congrArg Except.ok hsql
  · intro hall
    exact hmany (hpairs.1 hall _ List.mem_cons_self)

/-- The tags of a post are written as a value each, and there are more values than columns. -/
theorem sql_of_twoTags : ∃ item inserted updated,
    Item.ofJson (.obj [("title", .str "Lean"), ("tags", .arr [.str "logic", .str "proof"])]) =
        .ok item ∧ item.columns = ["title", "tags"] ∧
      createOne postsSchema "posts" item = .ok inserted ∧
      inserted.sql = "INSERT INTO `posts` (`title`, `tags`) VALUES ('Lean', 'logic', 'proof')" ∧
      update postsSchema "posts" item Request.empty = .ok updated ∧
      updated.sql = "UPDATE `posts` SET `title` = 'Lean', `tags` = 'logic', 'proof'" := by
  have htable : postsSchema.table? "posts" = some _ := rfl
  obtain ⟨inserted, hcreate, hinserted⟩ := sql_of_createOne htable
    ((Item.empty.set "title" (.text "Lean")).set "tags" (.list [.text "logic", .text "proof"]))
  refine ⟨_, inserted, _, rfl, rfl, hcreate, hinserted, rfl, ?_⟩
  rfl

end Statement

end TableQuery
