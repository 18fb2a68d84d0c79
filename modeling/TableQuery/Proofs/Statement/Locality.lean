import Mathlib.Logic.Relation
import TableQuery.Proofs.Filter.Node
import TableQuery.Proofs.Keyed
import TableQuery.Proofs.Request
import TableQuery.Proofs.Statement.Built
import TableQuery.Session

/-!
# What of a schema a statement depends on

A statement on a table is built from the relations that can be followed from it, and from its
primary key.  `Schema.LeadsTo` says which tables these are, and `Schema.AgreesFrom` that two schemas
agree there: under each of their names both declare a table or neither does, and a relation found in
the one is found in the other.

Every path then resolves alike in both schemas, by induction on the path with the agreement carried
to the target of each hop (`resolve_eq_of_agree`).  All that a statement takes from a schema are
resolutions, whether its own table is declared, and the primary key (`Schema.SameFrom`), so every
call gives the same statement or the same error.  The order of tables, what is declared of tables
that are not reached and what is declared of columns do not count.
-/

namespace TableQuery

namespace Schema

/-! ## Tables that relations lead to -/

/-- A relation that is found on a table leads from its name to the target. -/
def Hop (schema : Schema) (name target : String) : Prop :=
  ∃ table hop relation, schema.table? name = some table ∧ table.relation? hop = some relation ∧
    target = relation.target

/-- Relations lead from a root to a name, of a table that is declared or of one that is not. -/
def LeadsTo (schema : Schema) (root name : String) : Prop :=
  Relation.ReflTransGen schema.Hop root name

/-- Names that no relation leads out of hold all that a root among them leads to. -/
theorem LeadsTo.mem_of_closed {schema : Schema} {root name : String} {names : List String}
    (hclosed : ∀ inner ∈ names, ∀ table, schema.table? inner = some table →
      ∀ relation ∈ table.relations, relation.target ∈ names)
    (hroot : root ∈ names) (hleads : schema.LeadsTo root name) : name ∈ names := by
  induction hleads with
  | refl => exact hroot
  | tail _ hhop ih =>
    obtain ⟨table, hop, relation, htable, hrelation, rfl⟩ := hhop
    exact hclosed _ ih table htable relation (List.mem_of_find?_eq_some hrelation)

/-! ## Agreement -/

/-- Two schemas agree on whether a table is declared and on the relations that are found on it. -/
structure AgreesAt (schema other : Schema) (name : String) : Prop where
  declared : (schema.table? name).isSome = (other.table? name).isSome
  relations : ∀ hop, (schema.table? name).bind (fun table => table.relation? hop) =
    (other.table? name).bind (fun table => table.relation? hop)

/-- Two schemas agree on every table that relations of the first one lead to from a root, and on the
primary key of the root. -/
structure AgreesFrom (schema other : Schema) (root : String) : Prop where
  at_name : ∀ name, schema.LeadsTo root name → schema.AgreesAt other name
  primaryKey : (schema.table? root).bind Table.primaryKey? =
    (other.table? root).bind Table.primaryKey?

variable {schema other : Schema} {root name : String}

/-- A table on which schemas agree is declared in neither, or in both with the same relations. -/
theorem AgreesAt.cases (hagree : schema.AgreesAt other name) :
    (schema.table? name = none ∧ other.table? name = none) ∨
      ∃ table otherTable, schema.table? name = some table ∧ other.table? name = some otherTable ∧
        ∀ hop, table.relation? hop = otherTable.relation? hop := by
  obtain ⟨hdeclared, hrelations⟩ := hagree
  cases htable : schema.table? name with
  | none =>
    left
    rw [htable] at hdeclared
    exact ⟨rfl, by simpa using hdeclared.symm⟩
  | some table =>
    right
    rw [htable] at hdeclared hrelations
    obtain ⟨otherTable, hother⟩ := Option.isSome_iff_exists.1 hdeclared.symm
    rw [hother] at hrelations
    exact ⟨table, otherTable, rfl, hother, hrelations⟩

/-- A table that is found alike is one on which schemas agree. -/
theorem AgreesAt.of_table?_eq (hsame : schema.table? name = other.table? name) :
    schema.AgreesAt other name := by
  constructor <;> simp only [hsame, implies_true]

/-- Schemas that find the same tables agree. -/
theorem AgreesFrom.of_table?_eq
    (hsame : ∀ name, schema.LeadsTo root name → schema.table? name = other.table? name) :
    schema.AgreesFrom other root := by
  refine ⟨fun name hleads => .of_table?_eq (hsame name hleads), ?_⟩
  rw [hsame root .refl]

end Schema

namespace FieldPath

variable {schema other : Schema} {root : String}

/-- A path resolves alike in schemas that agree on every table that the root leads to. -/
theorem resolve_eq_of_agree {path : FieldPath}
    (hagree : ∀ name, schema.LeadsTo root name → schema.AgreesAt other name) :
    path.resolve schema root = path.resolve other root := by
  induction path generalizing root with
  | column name =>
    rcases (hagree root .refl).cases with ⟨hmissing, hmissing'⟩ | ⟨table, otherTable, htable, hother, -⟩
    · rw [resolve_of_missing hmissing, resolve_of_missing hmissing']
    · rw [resolve_column htable, resolve_column hother]
  | via hop rest ih =>
    rcases (hagree root .refl).cases with
      ⟨hmissing, hmissing'⟩ | ⟨table, otherTable, htable, hother, hrelations⟩
    · rw [resolve_of_missing hmissing, resolve_of_missing hmissing']
    · by_cases hhop : hop = wildcard
      · rw [hhop, resolve_all htable, resolve_all hother]
      · cases hrelation : table.relation? hop with
        | none => rw [resolve_stray htable hhop hrelation,
            resolve_stray hother hhop ((hrelations hop).symm.trans hrelation)]
        | some relation =>
          have hstep : schema.Hop root relation.target :=
            ⟨table, hop, relation, htable, hrelation, rfl⟩
          -- the target leads on to nothing that the root does not lead to
          have hrest : rest.resolve schema relation.target = rest.resolve other relation.target :=
            ih fun name hleads => hagree name (.head hstep hleads)
          have hjoin : hopJoin table relation = hopJoin otherTable relation := by
            rw [hopJoin, hopJoin, Schema.name_of_table? htable, Schema.name_of_table? hother]
          rw [resolve_hop htable hhop hrelation,
            resolve_hop hother hhop ((hrelations hop).symm.trans hrelation), hrest, hjoin]

end FieldPath

/-! ## What statements take from a schema -/

/-- From a root, two schemas resolve every path alike, and have the root and its primary key
alike. -/
structure Schema.SameFrom (schema other : Schema) (root : String) : Prop where
  name : (schema.table root).map Table.name = (other.table root).map Table.name
  primaryKey : schema.primaryKey root = other.primaryKey root
  resolve : ∀ path : FieldPath, path.resolve schema root = path.resolve other root

/-- Schemas that agree on what a root leads to are the same from there. -/
theorem Schema.AgreesFrom.sameFrom {schema other : Schema} {root : String}
    (hagree : schema.AgreesFrom other root) : schema.SameFrom other root := by
  have hresolve : ∀ path : FieldPath, path.resolve schema root = path.resolve other root :=
    fun path => FieldPath.resolve_eq_of_agree hagree.at_name
  have hprimary := hagree.primaryKey
  rcases (hagree.at_name root .refl).cases with
    ⟨hmissing, hmissing'⟩ | ⟨table, otherTable, htable, hother, -⟩
  · refine ⟨?_, ?_, hresolve⟩
    · rw [Schema.table, Schema.table, hmissing, hmissing']
    · rw [Schema.primaryKey, Schema.primaryKey, Schema.primaryKey?, Schema.primaryKey?, Schema.table,
        Schema.table, hmissing, hmissing']
  · rw [htable, hother] at hprimary
    have hkey : table.primaryKey? = otherTable.primaryKey? := hprimary
    refine ⟨?_, ?_, hresolve⟩
    · rw [Schema.table_eq_ok.2 htable, Schema.table_eq_ok.2 hother]
      exact congrArg Except.ok ((Schema.name_of_table? htable).trans (Schema.name_of_table? hother).symm)
    · have hfound : schema.primaryKey? root = other.primaryKey? root := by
        rw [Schema.primaryKey?_of_table? htable, Schema.primaryKey?_of_table? hother, hkey]
      rw [Schema.primaryKey, Schema.primaryKey, hfound]

namespace Schema.SameFrom

variable {schema other : Schema} {root : String} (hsame : schema.SameFrom other root)

include hsame

/-- What is made of the name of the root is the same. -/
theorem bind_table {β : Type} {next : Table → Except Error β}
    (hnext : ∀ table otherTable : Table, table.name = otherTable.name →
      next table = next otherTable) :
    (schema.table root >>= next) = (other.table root >>= next) := by
  have hname := hsame.name
  cases htable : schema.table root with
  | error failure =>
    cases hother : other.table root with
    | error failure' =>
      rw [htable, hother] at hname
      cases hname
      rfl
    | ok otherTable =>
      rw [htable, hother] at hname
      cases hname
  | ok table =>
    cases hother : other.table root with
    | error failure =>
      rw [htable, hother] at hname
      cases hname
    | ok otherTable =>
      rw [htable, hother] at hname
      exact hnext table otherTable (Except.ok.inj hname)

theorem columnRef_eq : FieldPath.columnRef schema root = FieldPath.columnRef other root := by
  funext path
  rw [FieldPath.columnRef, FieldPath.columnRef, hsame.resolve]

theorem columnRefs_eq : FieldPath.columnRefs schema root = FieldPath.columnRefs other root := by
  funext paths
  unfold FieldPath.columnRefs
  rw [hsame.columnRef_eq]
  split
  · exact hsame.bind_table fun _ _ _ => rfl
  · rfl

theorem joins_eq (request : Request) : request.joins schema root = request.joins other root := by
  have hresolve : FieldPath.resolve schema root = FieldPath.resolve other root :=
    funext hsame.resolve
  rw [Request.joins_eq_map, Request.joins_eq_map, hresolve]

theorem resolveNode_eq (node : Filter.Node) : node.resolve schema root = node.resolve other root := by
  induction node with
  | field path first rest =>
    rw [Filter.Node.resolve, Filter.Node.resolve, Filter.resolveField, Filter.resolveField,
      hsame.columnRef_eq]
  | group connective members ih =>
    have hmembers : members.mapM (Filter.resolveNodes schema root) =
        members.mapM (Filter.resolveNodes other root) := by
      refine Except.mapM_congr fun member hmember => ?_
      rw [Filter.resolveNodes_eq_mapM, Filter.resolveNodes_eq_mapM,
        Except.mapM_congr (ih member hmember)]
    rw [Filter.Node.resolve, Filter.Node.resolve, Filter.resolveMembers_eq_mapM,
      Filter.resolveMembers_eq_mapM, hmembers]

theorem resolveFilter_eq (filter : Filter) : filter.resolve schema root = filter.resolve other root := by
  rw [Filter.resolve, Filter.resolve, Filter.resolveNodes_eq_mapM, Filter.resolveNodes_eq_mapM,
    Except.mapM_congr fun node _ => hsame.resolveNode_eq node]

theorem find_eq (request : Request) :
    Statement.find schema root request = Statement.find other root request := by
  unfold Statement.find Statement.resolveOrderTerm
  rw [hsame.columnRefs_eq, hsame.columnRef_eq, hsame.joins_eq, hsame.resolveFilter_eq]
  refine bind_congr fun columns => ?_
  refine hsame.bind_table fun table otherTable hname => ?_
  rw [hname]

theorem createOne_eq (item : Item) :
    Statement.createOne schema root item = Statement.createOne other root item := by
  refine hsame.bind_table fun table otherTable hname => ?_
  rw [hname]

theorem update_eq (item : Item) (request : Request) :
    Statement.update schema root item request = Statement.update other root item request := by
  unfold Statement.update
  rw [hsame.resolveFilter_eq]
  refine hsame.bind_table fun table otherTable hname => ?_
  rw [hname]

theorem remove_eq (request : Request) :
    Statement.remove schema root request = Statement.remove other root request := by
  unfold Statement.remove
  rw [hsame.resolveFilter_eq]
  refine hsame.bind_table fun table otherTable hname => ?_
  rw [hname]

theorem keyed_eq (key : Literal) (request : Request) :
    Statement.keyed schema root key request = Statement.keyed other root key request := by
  rw [Statement.keyed, Statement.keyed, hsame.primaryKey]

/-- Every call gives the same statement or fails with the same error. -/
theorem statement_eq (call : Call) : call.statement schema root = call.statement other root := by
  cases call with
  | find request => exact hsame.find_eq request
  | createOne item => exact hsame.createOne_eq item
  | update item request => exact hsame.update_eq item request
  | remove request => exact hsame.remove_eq request
  | findOne key request =>
    show Statement.findOne schema root key request = Statement.findOne other root key request
    rw [Statement.findOne_eq_bind, Statement.findOne_eq_bind, hsame.keyed_eq]
    exact bind_congr fun narrowed => hsame.find_eq _
  | updateOne key item request =>
    show Statement.updateOne schema root key item request =
      Statement.updateOne other root key item request
    rw [Statement.updateOne_eq_bind, Statement.updateOne_eq_bind, hsame.keyed_eq]
    exact bind_congr fun narrowed => hsame.update_eq item narrowed
  | removeOne key request =>
    show Statement.removeOne schema root key request = Statement.removeOne other root key request
    rw [Statement.removeOne_eq_bind, Statement.removeOne_eq_bind, hsame.keyed_eq]
    exact bind_congr fun narrowed => hsame.remove_eq narrowed

end Schema.SameFrom

/-! ## Schemas with the same statements -/

/-- The tables have the same name and the same relations. -/
def Table.SameButColumns (table other : Table) : Prop :=
  table.name = other.name ∧ table.relations = other.relations

namespace Schema

/-- Every call on a table gives the same statement in both schemas, or fails with the same error. -/
def SameStatements (schema other : Schema) (root : String) : Prop :=
  ∀ call : Call, call.statement schema root = call.statement other root

/-- Schemas whose tables differ in their columns only agree, if the primary key of the root is the
same. -/
theorem agreesFrom_of_sameButColumns {schema other : Schema} {root : String}
    (htables : List.Forall₂ Table.SameButColumns schema.tables other.tables)
    (hprimary : (schema.table? root).bind Table.primaryKey? =
      (other.table? root).bind Table.primaryKey?) : schema.AgreesFrom other root := by
  refine ⟨fun name _ => ?_, hprimary⟩
  have hfound : Option.Rel Table.SameButColumns (schema.table? name) (other.table? name) :=
    Keyed.get?_rel (fun _ _ hsame => hsame.1) htables name
  generalize htable : schema.table? name = found at hfound
  generalize hother : other.table? name = otherFound at hfound
  cases hfound with
  | none => exact .of_table?_eq (htable.trans hother.symm)
  | @some table otherTable hsame =>
    constructor
    · rw [htable, hother]
      rfl
    · intro hop
      rw [htable, hother]
      show table.relation? hop = otherTable.relation? hop
      rw [Table.relation?, Table.relation?, hsame.2]

/-- Statements on a table are the same in schemas that agree on what relations lead to from it, and
on its primary key.  So the order of the tables does not count; nor does what is declared, or
declared anew, under a name that the table does not lead to; nor do columns, as long as the primary
key of the table is the same. -/
theorem sameStatements_of_agreesFrom (schema : Schema) (root : String) :
    (∀ other, schema.AgreesFrom other root → schema.SameStatements other root) ∧
    (∀ other, schema.tables.Perm other.tables → schema.SameStatements other root) ∧
    (∀ table, ¬schema.LeadsTo root table.name →
      schema.SameStatements (schema.insert table) root) ∧
    ∀ other, List.Forall₂ Table.SameButColumns schema.tables other.tables →
      (schema.table? root).bind Table.primaryKey? = (other.table? root).bind Table.primaryKey? →
      schema.SameStatements other root := by
  have hgeneral : ∀ other, schema.AgreesFrom other root → schema.SameStatements other root :=
    fun other hagree => hagree.sameFrom.statement_eq
  refine ⟨hgeneral, ?_, ?_, ?_⟩
  · intro other hperm
    refine hgeneral other (.of_table?_eq fun name _ => ?_)
    exact Keyed.get?_perm hperm schema.distinct name
  · intro table hunreached
    refine hgeneral _ (.of_table?_eq fun name hleads => ?_)
    refine (schema.table?_insert_of_ne table name ?_).symm
    rintro rfl
    exact hunreached hleads
  · intro other htables hprimary
    exact hgeneral other (agreesFrom_of_sameButColumns htables hprimary)

/-! ### A hotel -/

/-- Guests have a room. -/
def guestsTable : Table :=
  ⟨"guests", [⟨"id", .int4, true, true, true, none⟩], [⟨"room", "rooms", "room_id", "id"⟩]⟩

/-- Rooms have guests, and lie in hotels that are not declared. -/
def roomsTable : Table :=
  ⟨"rooms", [], [⟨"guest", "guests", "id", "room_id"⟩, ⟨"hotel", "hotels", "hotel_id", "id"⟩]⟩

/-- Bills go to guests, and no relation leads to them. -/
def hotelSchema : Schema :=
  List.foldl insert empty
    [guestsTable, ⟨"bills", [], [⟨"guest", "guests", "guest_id", "id"⟩]⟩, roomsTable]

/-- The same tables the other way round. -/
def reversedHotelSchema : Schema :=
  List.foldl insert empty
    [roomsTable, ⟨"bills", [], [⟨"guest", "guests", "guest_id", "id"⟩]⟩, guestsTable]

/-- Guests and rooms without bills. -/
def billlessSchema : Schema :=
  List.foldl insert empty [guestsTable, roomsTable]

/-- Guests with a name in front of the primary key, and with a second one behind it. -/
def namedGuestsSchema : Schema :=
  hotelSchema.insert ⟨"guests", [⟨"name", .text, false, false, true, none⟩,
    ⟨"id", .uuid, true, true, true, none⟩, ⟨"card", .text, true, false, false, none⟩],
    guestsTable.relations⟩

theorem leadsTo_guests {name : String} (hleads : hotelSchema.LeadsTo "guests" name) :
    name ∈ ["guests", "rooms", "hotels"] := by
  refine hleads.mem_of_closed ?_ List.mem_cons_self
  simp only [List.forall_mem_cons]
  refine ⟨?_, ?_, ?_, nofun⟩
  · intro table htable
    cases htable
    simp [guestsTable]
  · intro table htable
    cases htable
    simp [roomsTable]
  · intro table htable
    cases htable

theorem sameStatements_of_agreesFrom_hotelSchema :
    hotelSchema.SameStatements billlessSchema "guests" ∧
    hotelSchema.SameStatements reversedHotelSchema "guests" ∧
    hotelSchema.SameStatements
      (hotelSchema.insert ⟨"bills", [], [⟨"guest", "rooms", "room_id", "id"⟩]⟩) "guests" ∧
    hotelSchema.SameStatements namedGuestsSchema "guests" := by
  obtain ⟨hgeneral, hreordered, hunreached, hcolumns⟩ :=
    sameStatements_of_agreesFrom hotelSchema "guests"
  refine ⟨hgeneral _ (.of_table?_eq ?_), hreordered _ ?_, hunreached _ ?_, hcolumns _ ?_ rfl⟩
  · intro name hleads
    have hname := leadsTo_guests hleads
    simp only [List.mem_cons, List.not_mem_nil, or_false] at hname
    rcases hname with rfl | rfl | rfl <;> rfl
  · exact (List.reverse_perm hotelSchema.tables).symm
  · intro hleads
    exact absurd (leadsTo_guests hleads) (by decide)
  · exact .cons ⟨rfl, rfl⟩ (.cons ⟨rfl, rfl⟩ (.cons ⟨rfl, rfl⟩ .nil))

end Schema

end TableQuery
