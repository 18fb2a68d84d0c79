import TableQuery.Proofs.Schema.Declaration

/-!
# What a schema keeps of the tables that are added to it

Tables come into a schema one after the other.  The first ones may come from a declaration in JSON,
and a name may come up again at any time.  `Schema.MadeOf` is every way in which a schema is made,
together with all tables that were added on that way.

`keepsLast_of_madeOf` says what is left of them: each name once, where it was added first, with the
table that was added last.  `keeps_of_madeOf` says the same of what a schema is asked for: the names
in order, the table of a name, and what one more table does to those that are there.
-/

namespace TableQuery.Schema

/-- Schemas with the tables that were added to them, in order. -/
inductive MadeOf : List Table → Schema → Prop where
  | empty : MadeOf [] empty
  | ofJson {entries : List (String × Json)} {tables : List Table} {schema : Schema}
      (hread : List.Forall₂ (fun entry table => tableOfJson entry.1 entry.2 = .ok table)
        entries tables)
      (hschema : ofJson (.obj entries) = .ok schema) : MadeOf tables schema
  | insert {added : List Table} {schema : Schema} (table : Table) (hmade : MadeOf added schema) :
      MadeOf (added ++ [table]) (schema.insert table)

/-- The schema of a declaration has the tables of its entries, added one after the other. -/
theorem ofJson_obj_eq_ok {entries : List (String × Json)} {schema : Schema} :
    ofJson (.obj entries) = .ok schema ↔ ∃ tables,
      List.Forall₂ (fun entry table => tableOfJson entry.1 entry.2 = .ok table) entries tables ∧
        tables.foldl insert empty = schema := by
  rw [ofJson_obj, Except.map_eq_ok]
  simp only [Except.mapM_eq_ok, Except.mapError_eq_ok]

/-- Every schema that is declared in JSON is made of the tables of its declaration. -/
theorem exists_madeOf_of_ofJson {value : Json} {schema : Schema}
    (hschema : ofJson value = .ok schema) : ∃ declared, MadeOf declared schema := by
  cases value with
  | obj entries =>
    obtain ⟨tables, hread, -⟩ := ofJson_obj_eq_ok.1 hschema
    exact ⟨tables, .ofJson hread hschema⟩
  | null | bool | whole | real | str | arr => cases hschema

/-- However a schema is made, it has the table that was added last under each name, in the order in
which the names were added first. -/
theorem keepsLast_of_madeOf {added : List Table} {schema : Schema} (hmade : MadeOf added schema) :
    Keyed.KeepsLast Table.name added schema.tables := by
  induction hmade with
  | empty => exact .nil Table.name
  | @ofJson entries tables schema hread hschema =>
    obtain ⟨tables', hread', rfl⟩ := ofJson_obj_eq_ok.1 hschema
    have hsame : tables' = tables := by
      have hall := Except.mapM_eq_ok.2 hread
      rw [Except.mapM_eq_ok.2 hread'] at hall
      exact Except.ok.inj hall
    rw [tables_foldl_insert, hsame]
    exact Keyed.keepsLast_foldl Table.name tables
  | insert table _ ih => exact ih.concat table

/-- What is found in a schema to which tables were added. -/
structure Keeps (added : List Table) (schema : Schema) : Prop where
  /-- Every name stands where it was added first. -/
  names : schema.tableNames = (added.map Table.name).eraseDups
  distinct : schema.tableNames.Nodup
  /-- Under a name is the table that was added last under it. -/
  found : ∀ name table, schema.table? name = some table ↔
    table.name = name ∧ Keyed.IsLast Table.name table added
  /-- Nothing is under a name that was never added, and only there. -/
  missing : ∀ name, schema.table? name = none ↔ name ∉ added.map Table.name
  required : ∀ name table, schema.table name = .ok table ↔
    table.name = name ∧ Keyed.IsLast Table.name table added
  refused : ∀ name failure, schema.table name = .error failure ↔
    name ∉ added.map Table.name ∧ failure = .unknownTable name
  /-- A table of a name that is there takes the place of the one that has it. -/
  replaced : ∀ table, table.name ∈ added.map Table.name → ∃ before old after,
    schema.tables = before ++ old :: after ∧ old.name = table.name ∧
      (schema.insert table).tables = before ++ table :: after
  /-- A table of a new name goes behind all others. -/
  appended : ∀ table, table.name ∉ added.map Table.name →
    (schema.insert table).tables = schema.tables ++ [table]

theorem table_eq_error {schema : Schema} {name : String} {failure : Error} :
    schema.table name = .error failure ↔
      schema.table? name = none ∧ failure = .unknownTable name := by
  unfold table
  cases schema.table? name with
  | none => simp [eq_comm]
  | some table => simp

/-- A schema is an ordered map of tables, whatever is declared and added in whatever order: no name
is there twice, a name that was added leads to the table that was added last under it, and a name
that was never added leads nowhere.  One more table stays where its name is already and moves
nothing. -/
theorem keeps_of_madeOf :
    (∀ value schema, ofJson value = .ok schema → ∃ declared, MadeOf declared schema) ∧
      ∀ added schema, MadeOf added schema → Keeps added schema := by
  refine ⟨fun value schema => exists_madeOf_of_ofJson, fun added schema hmade => ?_⟩
  have hkept := keepsLast_of_madeOf hmade
  have hpresent : ∀ table : Table, table.name ∈ added.map Table.name ↔
      table.name ∈ schema.tables.map Table.name := by
    intro table
    rw [hkept.keys, List.mem_eraseDups]
  exact {
    names := hkept.keys
    distinct := hkept.nodup
    found := fun name table => hkept.get?_eq_some_iff
    missing := fun name => hkept.get?_eq_none_iff
    required := fun name table => table_eq_ok.trans hkept.get?_eq_some_iff
    refused := fun name failure =>
      table_eq_error.trans (and_congr_left fun _ => hkept.get?_eq_none_iff)
    replaced := fun table hmem => Keyed.exists_put_eq_of_mem ((hpresent table).1 hmem)
    appended := fun table hnew =>
      Keyed.put_of_notMem Table.name table schema.tables fun hmem => hnew ((hpresent table).2 hmem)
  }

/-! ### A zoo -/

/-- Animals and keepers, as they are declared. -/
def zooJson : Json :=
  .obj [("animals", .obj [("columns", .obj [("id", .obj [("type", .str "int4")])])]),
    ("keepers", .obj [("columns", .obj [])])]

def animals : Table := ⟨"animals", [⟨"id", .int4, false, false, false, none⟩], []⟩

def keepers : Table := ⟨"keepers", [], []⟩

/-- Animals with a key. -/
def keyedAnimals : Table := ⟨"animals", [⟨"id", .int8, true, false, false, none⟩], []⟩

def cages : Table := ⟨"cages", [], []⟩

theorem keeps_of_madeOf_zooJson : ∃ schema,
    MadeOf ([animals, keepers] ++ [cages] ++ [keyedAnimals]) schema ∧
      schema.tableNames = ["animals", "keepers", "cages"] ∧
      schema.table? "animals" = some keyedAnimals ∧
      schema.table "lions" = .error (.unknownTable "lions") := by
  obtain ⟨declared, hschema⟩ : ∃ declared, ofJson zooJson = .ok declared := ⟨_, rfl⟩
  have hmade : MadeOf ([animals, keepers] ++ [cages] ++ [keyedAnimals])
      ((declared.insert cages).insert keyedAnimals) :=
    .insert keyedAnimals (.insert cages (.ofJson (.cons rfl (.cons rfl .nil)) hschema))
  have hkeeps := keeps_of_madeOf.2 _ _ hmade
  refine ⟨_, hmade, hkeeps.names, ?_, ?_⟩
  · exact (hkeeps.found _ _).2 ⟨rfl, _, [], rfl, by simp⟩
  · exact (hkeeps.refused _ _).2 ⟨by decide, rfl⟩

end TableQuery.Schema
