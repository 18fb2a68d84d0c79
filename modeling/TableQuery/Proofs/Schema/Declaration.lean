import TableQuery.Proofs.FieldPath
import TableQuery.Proofs.Json.Record
import TableQuery.Schema.Declaration

/-!
# What a declaration in JSON declares

A `SchemaDeclaration` is what somebody declares: tables with their columns and relations, no name
twice in one place.  There are many ways to write it, and `SchemaDeclaration.WrittenAs` is all of
them: entries of a column, a relation or a table come in any order with unknown ones among them, and
what says nothing may be left out, which is a flag that is off, a default that is null and relations
that are none.

Every way is read the same (`ofJson_of_writtenAs`), as a schema with what was declared in the order
in which it was declared.  `decode_column`, `decode_relation` and `tableOfJson_of_writtenAs` are the
levels of it, and `mapM_of_writtenInOrder` is the step from one to the next.
-/

namespace TableQuery

open Json (DecodeFault RecordField RecordShape)

/-! ## What is declared -/

/-- A column as it is declared, with a default other than null if it has one. -/
structure ColumnDeclaration where
  name : String
  type : DataType
  primaryKey : Bool
  unique : Bool
  notNull : Bool
  default : Option Json
  default_ne_null : default ≠ some .null

/-- A table as it is declared, with columns of distinct names and relations of distinct names. -/
structure TableDeclaration where
  name : String
  columns : List ColumnDeclaration
  relations : List Relation
  distinctColumns : (columns.map ColumnDeclaration.name).Nodup
  distinctRelations : (relations.map Relation.name).Nodup

/-- Tables as they are declared, with distinct names. -/
structure SchemaDeclaration where
  tables : List TableDeclaration
  distinct : (tables.map TableDeclaration.name).Nodup

def ColumnDeclaration.column (declared : ColumnDeclaration) : Column :=
  ⟨declared.name, declared.type, declared.primaryKey, declared.unique, declared.notNull,
    declared.default.map Literal.ofJson⟩

def TableDeclaration.table (declared : TableDeclaration) : Table :=
  ⟨declared.name, declared.columns.map ColumnDeclaration.column, declared.relations⟩

theorem SchemaDeclaration.map_name_table (declared : SchemaDeclaration) :
    (declared.tables.map TableDeclaration.table).map Table.name =
      declared.tables.map TableDeclaration.name :=
  List.map_map

/-- The schema with all that is declared, in declared order. -/
def SchemaDeclaration.schema (declared : SchemaDeclaration) : Schema :=
  ⟨declared.tables.map TableDeclaration.table, declared.map_name_table ▸ declared.distinct⟩

/-! ## How it is written -/

/-- A flag is written as it is.  One that is off may be left out. -/
def WritesFlag (flag : Bool) (found : Option Json) : Prop :=
  found = some (.bool flag) ∨ flag = false ∧ found = none

/-- A default is written as it is.  Null may stand for none. -/
def WritesDefault (default found : Option Json) : Prop :=
  found = default ∨ default = none ∧ found = some .null

/-- Elements are written in their order, each under its name. -/
def WrittenInOrder {α : Type} (name : α → String) (written : α → Json → Prop) (elements : List α)
    (value : Json) : Prop :=
  ∃ entries, value.IsObject entries ∧
    List.Forall₂ (fun element entry => entry.1 = name element ∧ written element entry.2) elements
      entries

/-- The value is an object that declares the column. -/
structure ColumnDeclaration.WrittenAs (declared : ColumnDeclaration) (value : Json) : Prop where
  isObject : ∃ entries, value.IsObject entries
  type : value.get? "type" = some (.str declared.type.name)
  primaryKey : WritesFlag declared.primaryKey (value.get? "primaryKey")
  unique : WritesFlag declared.unique (value.get? "unique")
  notNull : WritesFlag declared.notNull (value.get? "notNull")
  default : WritesDefault declared.default (value.get? "default")

/-- The value is an object that declares the relation. -/
structure Relation.WrittenAs (declared : Relation) (value : Json) : Prop where
  isObject : ∃ entries, value.IsObject entries
  target : value.get? "table" = some (.str declared.target)
  fromKey : value.get? "fromKey" = some (.str declared.fromKey)
  toKey : value.get? "toKey" = some (.str declared.toKey)

/-- The value is an object that declares the table. -/
structure TableDeclaration.WrittenAs (declared : TableDeclaration) (value : Json) : Prop where
  isObject : ∃ entries, value.IsObject entries
  columns : ∃ columns, value.get? "columns" = some columns ∧
    WrittenInOrder ColumnDeclaration.name ColumnDeclaration.WrittenAs declared.columns columns
  relations :
    (∃ relations, value.get? "relations" = some relations ∧
      WrittenInOrder Relation.name Relation.WrittenAs declared.relations relations) ∨
    declared.relations = [] ∧ value.get? "relations" = none

/-- The value is an object that declares all tables. -/
def SchemaDeclaration.WrittenAs (declared : SchemaDeclaration) (value : Json) : Prop :=
  WrittenInOrder TableDeclaration.name TableDeclaration.WrittenAs declared.tables value

/-! ### One way to write it -/

def ColumnDeclaration.json (declared : ColumnDeclaration) : Json :=
  .obj [("type", .str declared.type.name), ("primaryKey", .bool declared.primaryKey),
    ("unique", .bool declared.unique), ("notNull", .bool declared.notNull),
    ("default", declared.default.getD .null)]

def Relation.json (declared : Relation) : Json :=
  .obj [("table", .str declared.target), ("fromKey", .str declared.fromKey),
    ("toKey", .str declared.toKey)]

def TableDeclaration.json (declared : TableDeclaration) : Json :=
  .obj [("columns", .obj (declared.columns.map fun column => (column.name, column.json))),
    ("relations", .obj (declared.relations.map fun relation => (relation.name, relation.json)))]

/-- The declaration with nothing left out. -/
def SchemaDeclaration.json (declared : SchemaDeclaration) : Json :=
  .obj (declared.tables.map fun table => (table.name, table.json))

theorem writtenInOrder_obj {α : Type} {name : α → String} {written : α → Json → Prop}
    {json : α → Json} {elements : List α} (hdistinct : (elements.map name).Nodup)
    (hwritten : ∀ element, written element (json element)) :
    WrittenInOrder name written elements
      (.obj (elements.map fun element => (name element, json element))) := by
  refine ⟨_, ⟨rfl, ?_⟩, ?_⟩
  · rw [List.map_map]
    exact hdistinct
  · rw [List.forall₂_map_right_iff, List.forall₂_same]
    exact fun element _ => ⟨rfl, hwritten element⟩

theorem ColumnDeclaration.writtenAs_json (declared : ColumnDeclaration) :
    declared.WrittenAs declared.json where
  isObject := ⟨_, rfl, by simp⟩
  type := rfl
  primaryKey := .inl rfl
  unique := .inl rfl
  notNull := .inl rfl
  default := by
    rw [json]
    cases declared.default with
    | none => exact .inr ⟨rfl, rfl⟩
    | some value => exact .inl rfl

theorem Relation.writtenAs_json (declared : Relation) : declared.WrittenAs declared.json :=
  ⟨⟨_, rfl, by simp⟩, rfl, rfl, rfl⟩

theorem TableDeclaration.writtenAs_json (declared : TableDeclaration) :
    declared.WrittenAs declared.json where
  isObject := ⟨_, rfl, by simp⟩
  columns := ⟨_, rfl,
    writtenInOrder_obj declared.distinctColumns ColumnDeclaration.writtenAs_json⟩
  relations := .inl ⟨_, rfl, writtenInOrder_obj declared.distinctRelations Relation.writtenAs_json⟩

/-- Everything that can be declared can be written. -/
theorem SchemaDeclaration.writtenAs_json (declared : SchemaDeclaration) :
    declared.WrittenAs declared.json :=
  writtenInOrder_obj declared.distinct TableDeclaration.writtenAs_json

namespace Schema

/-! ## Columns and relations -/

theorem asVariant_type (type : DataType) :
    Json.asVariant (DataType.all.map fun type => (type.name, type)) (.str type.name) = .ok type := by
  cases type <;> rfl

theorem defaultLiteral_of_ne_null {value : Json} (hne : value ≠ .null) :
    defaultLiteral value = some (Literal.ofJson value) := by
  cases value <;> first | rfl | exact absurd rfl hne

theorem regular_columnShape (name : String) : (columnShape name).Regular where
  keys := by
    show ["type", "primaryKey", "unique", "notNull", "default"].Nodup
    decide
  independent := by
    simp only [columnShape, List.pairwise_cons, List.forall_mem_cons, List.not_mem_nil,
      false_implies, implies_true, List.Pairwise.nil, and_true]
    repeat' apply And.intro
    all_goals exact RecordField.independent_decoded fun _ _ _ => rfl

theorem regular_relationShape (name : String) : (relationShape name).Regular where
  keys := by
    show ["table", "fromKey", "toKey"].Nodup
    decide
  independent := by
    simp only [relationShape, List.pairwise_cons, List.forall_mem_cons, List.not_mem_nil,
      false_implies, implies_true, List.Pairwise.nil, and_true]
    repeat' apply And.intro
    all_goals exact RecordField.independent_decoded fun _ _ _ => rfl

theorem regular_tableShape : tableShape.Regular where
  keys := by
    show ["columns", "relations"].Nodup
    decide
  independent := List.pairwise_pair.2 (RecordField.independent_decoded fun _ _ _ => rfl)

section

variable {α : Type} {record : α} {value : Json} {key : String}

/-- A value that is there is read. -/
theorem readField_of_get? {β : Type} {required : Bool} {decode : Json → Except DecodeFault β}
    {store : β → α → α} {found : Json} {content : β} (hget : value.get? key = some found)
    (hdecode : decode found = .ok content) :
    RecordShape.readField value record (.decoded key required decode store) =
      .ok (store content record) := by
  refine RecordShape.readField_decoded ?_ fun hnone => ?_
  · intro other hother
    rw [← Option.some.inj (hget.symm.trans hother), hdecode]
  · cases hget.symm.trans hnone

/-- A flag is read from where it is written.  In a record in which it is off, it may be left out. -/
theorem readField_flag {store : Bool → α → α} {flag : Bool}
    (hwritten : WritesFlag flag (value.get? key)) (hoff : store false record = record) :
    RecordShape.readField value record (.decoded key false Json.asBool store) =
      .ok (store flag record) := by
  rcases hwritten with hgiven | ⟨rfl, habsent⟩
  · exact readField_of_get? hgiven rfl
  · refine RecordShape.readField_decoded (fun found hfound => ?_) fun _ => hoff
    cases habsent.symm.trans hfound

/-- A default is read from where it is written, if it is not null.  In a record without one, none may
be written. -/
theorem readField_default {store : Option Literal → α → α} {default : Option Json}
    (hne : default ≠ some .null) (hwritten : WritesDefault default (value.get? key))
    (hnone : store none record = record) :
    RecordShape.readField value record
        (.decoded key false (fun value => .ok (defaultLiteral value)) store) =
      .ok (store (default.map Literal.ofJson) record) := by
  rcases hwritten with hgiven | ⟨rfl, hnull⟩
  · cases default with
    | none =>
      refine RecordShape.readField_decoded (fun found hfound => ?_) fun _ => hnone
      cases hgiven.symm.trans hfound
    | some declared =>
      have hliteral := defaultLiteral_of_ne_null fun hnull => hne (congrArg some hnull)
      exact readField_of_get? hgiven (congrArg Except.ok hliteral)
  · exact readField_of_get? hnull rfl

end

/-- A column is decoded to what was declared, in whatever way it is written. -/
theorem decode_column {declared : ColumnDeclaration} {value : Json}
    (hwritten : declared.WrittenAs value) :
    (columnShape declared.name).decode value = .ok declared.column := by
  obtain ⟨entries, hobject⟩ := hwritten.isObject
  rw [RecordShape.decode_eq_ok_iff (regular_columnShape declared.name) hobject]
  constructor
  · intro field hfield hrequired
    simp only [columnShape, List.mem_cons, List.not_mem_nil, or_false] at hfield
    rcases hfield with rfl | rfl | rfl | rfl | rfl
    · exact Option.isSome_iff_exists.2 ⟨_, hwritten.type⟩
    all_goals cases hrequired
  · simp only [columnShape, List.foldlM_cons, List.foldlM_nil]
    refine Except.bind_eq_ok.2 ⟨_, readField_of_get? hwritten.type (asVariant_type _), ?_⟩
    refine Except.bind_eq_ok.2 ⟨_, readField_flag hwritten.primaryKey rfl, ?_⟩
    refine Except.bind_eq_ok.2 ⟨_, readField_flag hwritten.unique rfl, ?_⟩
    refine Except.bind_eq_ok.2 ⟨_, readField_flag hwritten.notNull rfl, ?_⟩
    refine Except.bind_eq_ok.2
      ⟨_, readField_default declared.default_ne_null hwritten.default rfl, ?_⟩
    rfl

/-- A relation is decoded to itself, in whatever way it is written. -/
theorem decode_relation {declared : Relation} {value : Json} (hwritten : declared.WrittenAs value) :
    (relationShape declared.name).decode value = .ok declared := by
  obtain ⟨entries, hobject⟩ := hwritten.isObject
  rw [RecordShape.decode_eq_ok_iff (regular_relationShape declared.name) hobject]
  constructor
  · intro field hfield _
    simp only [relationShape, List.mem_cons, List.not_mem_nil, or_false] at hfield
    rcases hfield with rfl | rfl | rfl
    · exact Option.isSome_iff_exists.2 ⟨_, hwritten.target⟩
    · exact Option.isSome_iff_exists.2 ⟨_, hwritten.fromKey⟩
    · exact Option.isSome_iff_exists.2 ⟨_, hwritten.toKey⟩
  · simp only [relationShape, List.foldlM_cons, List.foldlM_nil]
    refine Except.bind_eq_ok.2 ⟨_, readField_of_get? hwritten.target rfl, ?_⟩
    refine Except.bind_eq_ok.2 ⟨_, readField_of_get? hwritten.fromKey rfl, ?_⟩
    refine Except.bind_eq_ok.2 ⟨_, readField_of_get? hwritten.toKey rfl, ?_⟩
    rfl

/-! ## Tables -/

/-- Elements that are each read to their images are read so in their order. -/
theorem mapM_of_writtenInOrder {ε α β : Type} {name : α → String} {written : α → Json → Prop}
    (read : String → Json → Except ε β) (image : α → β)
    (hread : ∀ element value, written element value → read (name element) value = .ok (image element))
    {elements : List α} {entries : List (String × Json)}
    (hall : List.Forall₂ (fun element entry => entry.1 = name element ∧ written element entry.2)
      elements entries) :
    entries.mapM (fun entry => read entry.1 entry.2) = .ok (elements.map image) := by
  rw [Except.mapM_eq_ok, List.forall₂_map_right_iff]
  refine hall.flip.imp fun entry element hentry => ?_
  rw [hentry.1]
  exact hread element entry.2 hentry.2

/-- Behind the keys of a table are the entries of its columns and of its relations. -/
theorem tableEntries_of_writtenAs {declared : TableDeclaration} {value : Json}
    (hwritten : declared.WrittenAs value) :
    ∃ columns relations, tableShape.decode value = .ok ⟨columns, relations⟩ ∧
      List.Forall₂ (fun column entry => entry.1 = ColumnDeclaration.name column ∧
        column.WrittenAs entry.2) declared.columns columns ∧
      List.Forall₂ (fun relation entry => entry.1 = Relation.name relation ∧
        relation.WrittenAs entry.2) declared.relations relations := by
  obtain ⟨entries, hobject⟩ := hwritten.isObject
  obtain ⟨_, hget, columns, ⟨rfl, -⟩, hcolumns⟩ := hwritten.columns
  obtain ⟨relations, hread, hrelations⟩ : ∃ relations,
      RecordShape.readField value (TableEntries.mk columns [])
          (.decoded "relations" false Json.asMap fun relations table => { table with relations }) =
        .ok ⟨columns, relations⟩ ∧
      List.Forall₂ (fun relation entry => entry.1 = Relation.name relation ∧
        relation.WrittenAs entry.2) declared.relations relations := by
    rcases hwritten.relations with ⟨_, hgiven, relations, ⟨rfl, -⟩, hall⟩ | ⟨hnone, habsent⟩
    · exact ⟨relations, readField_of_get? hgiven rfl, hall⟩
    · refine ⟨[], RecordShape.readField_decoded (fun found hfound => ?_) fun _ => rfl, hnone ▸ .nil⟩
      cases habsent.symm.trans hfound
  refine ⟨columns, relations, ?_, hcolumns, hrelations⟩
  rw [RecordShape.decode_eq_ok_iff regular_tableShape hobject]
  constructor
  · intro field hfield hrequired
    simp only [tableShape, List.mem_cons, List.not_mem_nil, or_false] at hfield
    rcases hfield with rfl | rfl
    · exact Option.isSome_iff_exists.2 ⟨_, hget⟩
    · cases hrequired
  · simp only [tableShape, List.foldlM_cons, List.foldlM_nil]
    refine Except.bind_eq_ok.2 ⟨_, readField_of_get? hget rfl, ?_⟩
    exact Except.bind_eq_ok.2 ⟨_, hread, rfl⟩

/-- A table is read to what was declared, in whatever way it is written. -/
theorem tableOfJson_of_writtenAs {declared : TableDeclaration} {value : Json}
    (hwritten : declared.WrittenAs value) :
    tableOfJson declared.name value = .ok declared.table := by
  obtain ⟨columns, relations, hdecode, hcolumns, hrelations⟩ := tableEntries_of_writtenAs hwritten
  refine Except.bind_eq_ok.2 ⟨_, hdecode, ?_⟩
  refine Except.bind_eq_ok.2 ⟨declared.columns.map ColumnDeclaration.column, ?_, ?_⟩
  · exact mapM_of_writtenInOrder (fun name => (columnShape name).decode) ColumnDeclaration.column
      (fun _ _ hcolumn => decode_column hcolumn) hcolumns
  refine Except.bind_eq_ok.2 ⟨declared.relations, ?_, rfl⟩
  have hread := mapM_of_writtenInOrder (fun name => (relationShape name).decode) id
    (fun _ _ hrelation => decode_relation hrelation) hrelations
  rwa [List.map_id] at hread

/-! ## Schemas -/

/-- An entry of a declaration is read before its table is added. -/
theorem insertEntry_eq_map (schema : Schema) (entry : String × Json) :
    insertEntry schema entry =
      ((tableOfJson entry.1 entry.2).mapError Error.undecodable).map schema.insert := by
  rw [insertEntry]
  cases tableOfJson entry.1 entry.2 <;> rfl

theorem tables_foldl_insert (schema : Schema) (tables : List Table) :
    (tables.foldl insert schema).tables =
      tables.foldl (fun kept table => Keyed.put Table.name table kept) schema.tables :=
  (List.foldl_hom Schema.tables (fun _ _ => rfl)).symm

/-- Tables of distinct names are kept in the order in which they are added. -/
theorem foldl_insert_empty (schema : Schema) : schema.tables.foldl insert empty = schema := by
  have htables : (schema.tables.foldl insert empty).tables = schema.tables := by
    rw [tables_foldl_insert]
    exact Keyed.foldl_put_eq_self Table.name schema.distinct
  cases hfold : schema.tables.foldl insert empty
  rw [hfold] at htables
  cases schema
  cases htables
  rfl

/-- The tables of a declaration may all be read before the first of them is added. -/
theorem ofJson_obj (entries : List (String × Json)) :
    ofJson (.obj entries) =
      (entries.mapM fun entry => (tableOfJson entry.1 entry.2).mapError Error.undecodable).map
        (List.foldl insert empty) := by
  rw [← Except.foldlM_eq_map_mapM, ofJson]
  congr 1
  funext schema entry
  exact insertEntry_eq_map schema entry

/-- A declaration is read to what was declared, in whatever way it is written. -/
theorem ofJson_of_writtenAs {declared : SchemaDeclaration} {value : Json}
    (hwritten : declared.WrittenAs value) : ofJson value = .ok declared.schema := by
  obtain ⟨entries, ⟨rfl, -⟩, hall⟩ := hwritten
  have hread : entries.mapM (fun entry =>
      (tableOfJson entry.1 entry.2).mapError Error.undecodable) = .ok declared.schema.tables := by
    refine mapM_of_writtenInOrder
      (fun name value => (tableOfJson name value).mapError Error.undecodable)
      TableDeclaration.table (fun table value htable => ?_) hall
    rw [tableOfJson_of_writtenAs htable]
    rfl
  rw [ofJson_obj, hread]
  exact congrArg Except.ok (foldl_insert_empty declared.schema)

/-- A table that was declared has the first column that was declared as primary key for its own. -/
theorem primaryKey?_of_mem {declared : SchemaDeclaration} {table : TableDeclaration}
    (hmem : table ∈ declared.tables) :
    declared.schema.primaryKey? table.name =
      .ok ((table.columns.find? ColumnDeclaration.primaryKey).map ColumnDeclaration.name) := by
  have htable : declared.schema.table? table.name = some table.table :=
    (Keyed.get?_eq_some_iff declared.schema.distinct).2 ⟨List.mem_map_of_mem hmem, rfl⟩
  rw [primaryKey?_of_table? htable, Table.primaryKey?, TableDeclaration.table, List.find?_map,
    Option.map_map]
  rfl

/-- Whatever is declared can be written in JSON, and however it is written, it is read as the schema
of what was declared: the tables, their columns and their relations in declared order, with their
types, flags, defaults and keys.  So the primary key of a table is the first of its columns that was
declared as one. -/
theorem ofJson_declaration (declared : SchemaDeclaration) :
    declared.WrittenAs declared.json ∧
      ∀ value, declared.WrittenAs value → ofJson value = .ok declared.schema ∧
        ∀ table ∈ declared.tables, declared.schema.primaryKey? table.name =
          .ok ((table.columns.find? ColumnDeclaration.primaryKey).map ColumnDeclaration.name) :=
  ⟨declared.writtenAs_json, fun _ hwritten =>
    ⟨ofJson_of_writtenAs hwritten, fun _ hmem => primaryKey?_of_mem hmem⟩⟩

/-! ### A library -/

/-- Books with two columns that are flagged as primary key, neither of them the first column. -/
def booksDeclaration : TableDeclaration where
  name := "books"
  columns :=
    [⟨"title", .text, false, false, true, some (.str "untitled"), nofun⟩,
      ⟨"isbn", .varchar, true, true, false, none, nofun⟩,
      ⟨"id", .int8, true, false, false, some (.arr []), nofun⟩]
  relations := [⟨"shelf", "shelves", "shelf_id", "id"⟩]
  distinctColumns := by decide
  distinctRelations := by decide

/-- Books and shelves. -/
def libraryDeclaration : SchemaDeclaration where
  tables := [booksDeclaration,
    ⟨"shelves", [⟨"id", .int4, false, false, false, none, nofun⟩], [], by decide, by decide⟩]
  distinct := by decide

/-- The columns of books as somebody may write them. -/
def booksColumnsJson : Json :=
  .obj [("title", .obj [("default", .str "untitled"), ("notNull", .bool true),
      ("type", .str "text")]),
    ("isbn", .obj [("primaryKey", .bool true), ("default", .null), ("Type", .str "int4"),
      ("type", .str "varchar"), ("notNull", .bool false), ("unique", .bool true)]),
    ("id", .obj [("type", .str "int8"), ("default", .arr []), ("primaryKey", .bool true)])]

/-- Books and shelves as somebody may write them. -/
def libraryJson : Json :=
  .obj [("books", .obj [("relations", .obj [("shelf", .obj [("toKey", .str "id"), ("note", .null),
        ("fromKey", .str "shelf_id"), ("table", .str "shelves")])]),
      ("primaryKey", .str "id"), ("columns", booksColumnsJson)]),
    ("shelves", .obj [("columns", .obj [("id", .obj [("type", .str "int4")])])])]

theorem ofJson_declaration_libraryJson :
    libraryDeclaration.WrittenAs libraryJson ∧
      (ofJson libraryJson).map Schema.tables = .ok
        [⟨"books", [⟨"title", .text, false, false, true, some (.text "untitled")⟩,
            ⟨"isbn", .varchar, true, true, false, none⟩,
            ⟨"id", .int8, true, false, false, some (.list [])⟩],
            [⟨"shelf", "shelves", "shelf_id", "id"⟩]⟩,
          ⟨"shelves", [⟨"id", .int4, false, false, false, none⟩], []⟩] ∧
      libraryDeclaration.schema.primaryKey? "books" = .ok (some "isbn") ∧
      libraryDeclaration.schema.primaryKey? "shelves" = .ok none := by
  have hcolumns : WrittenInOrder ColumnDeclaration.name ColumnDeclaration.WrittenAs
      booksDeclaration.columns booksColumnsJson := by
    refine ⟨_, ⟨rfl, by simp⟩, .cons ⟨rfl, ?_⟩ (.cons ⟨rfl, ?_⟩ (.cons ⟨rfl, ?_⟩ .nil))⟩
    · exact ⟨⟨_, rfl, by simp⟩, rfl, .inr ⟨rfl, rfl⟩, .inr ⟨rfl, rfl⟩, .inl rfl, .inl rfl⟩
    · exact ⟨⟨_, rfl, by simp⟩, rfl, .inl rfl, .inl rfl, .inl rfl, .inr ⟨rfl, rfl⟩⟩
    · exact ⟨⟨_, rfl, by simp⟩, rfl, .inl rfl, .inr ⟨rfl, rfl⟩, .inr ⟨rfl, rfl⟩, .inl rfl⟩
  have hwritten : libraryDeclaration.WrittenAs libraryJson := by
    refine ⟨_, ⟨rfl, by simp⟩, .cons ⟨rfl, ?_⟩ (.cons ⟨rfl, ?_⟩ .nil)⟩
    · refine ⟨⟨_, rfl, by simp⟩, ⟨_, rfl, hcolumns⟩, .inl ⟨_, rfl, _, ⟨rfl, by simp⟩, ?_⟩⟩
      exact .cons ⟨rfl, ⟨_, rfl, by simp⟩, rfl, rfl, rfl⟩ .nil
    · refine ⟨⟨_, rfl, by simp⟩, ⟨_, rfl, _, ⟨rfl, by simp⟩, ?_⟩, .inr ⟨rfl, rfl⟩⟩
      refine .cons ⟨rfl, ⟨_, rfl, by simp⟩, rfl, ?_, ?_, ?_, .inl rfl⟩ .nil <;> exact .inr ⟨rfl, rfl⟩
  obtain ⟨hread, hkeys⟩ := (ofJson_declaration libraryDeclaration).2 libraryJson hwritten
  refine ⟨hwritten, ?_, hkeys _ List.mem_cons_self, hkeys _ (.tail _ List.mem_cons_self)⟩
  rw [hread]
  rfl

end Schema

end TableQuery
