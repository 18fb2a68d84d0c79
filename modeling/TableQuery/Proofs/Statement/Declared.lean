import TableQuery.Check
import TableQuery.Proofs.Schema
import TableQuery.Proofs.Statement.Tables

/-!
# Statements that name declared things only

Resolution is lenient, so a statement may name a column that no table declares.  The two checks
together rule that out.  The check of a request follows every field to a column that is declared
(`namesDeclared_of_check`), while the check of the schema has seen both keys of every relation that
a field can hop along (`namesDeclared_joins`).
-/

namespace TableQuery

/-- A reference to a declared column of a declared table, or to all columns of one. -/
def ColumnRef.NamesDeclared (schema : Schema) (ref : ColumnRef) : Prop :=
  ∃ table, schema.table? ref.table = some table ∧
    (ref.column = wildcard ∨ (table.column? ref.column).isSome = true)

namespace FieldPath

variable {schema : Schema}

/-- A walk of a field that passes its check ends in something declared. -/
theorem Walk.namesDeclared {path : FieldPath} {table : Table} {resolution : Resolution}
    (hwalk : Walk schema table path resolution) (htable : schema.table? table.name = some table)
    (hcheck : path.checkFrom schema table = .ok ()) : resolution.column.NamesDeclared schema := by
  induction hwalk with
  | column table name =>
    have hname : name = wildcard ∨ (table.column? name).isSome = true := by
      by_contra hmissing
      rw [checkFrom, if_neg hmissing] at hcheck
      cases hcheck
    exact ⟨table, htable, hname⟩
  | all table rest =>
    -- The check may go on along a relation named `*`, but the walk has stopped.
    exact ⟨table, htable, .inl rfl⟩
  | stray rest hhop hrelation =>
    rw [checkFrom, hrelation] at hcheck
    cases hcheck
  | hop hhop hrelation htarget hrest ih =>
    rw [checkFrom, hrelation] at hcheck
    obtain ⟨target, htarget', hcheckRest⟩ := Except.bind_eq_ok.1 hcheck
    rw [htarget] at htarget'
    cases htarget'
    exact ih (Schema.table?_name_of_table htarget) hcheckRest

/-- A field that passes its check stands for something declared. -/
theorem namesDeclared_of_check {path : FieldPath} {root : String}
    (hcheck : path.check schema root = .ok ()) {ref : ColumnRef}
    (hcolumn : path.columnRef schema root = .ok ref) : ref.NamesDeclared schema := by
  obtain ⟨resolution, hresolution, rfl⟩ := Except.map_eq_ok.1 hcolumn
  obtain ⟨table, htable, hwalk⟩ := exists_walk_of_resolve hresolution
  rw [check, htable] at hcheck
  exact hwalk.namesDeclared (Schema.table?_name_of_table htable) hcheck

section Joins

variable (hcheck : schema.check = .ok ())

include hcheck

/-- Both sides of a hop along a relation are declared. -/
theorem namesDeclared_hopJoin {table : Table} {relation : Relation} {hop : String}
    (htable : schema.table? table.name = some table)
    (hrelation : table.relation? hop = some relation) :
    ∀ ref ∈ (hopJoin table relation).references, ref.NamesDeclared schema := by
  obtain ⟨target, htarget, hfromKey, htoKey⟩ :=
    Schema.checkRelation_eq_ok.1 (Schema.checkRelation_of_check hcheck htable hrelation)
  have hto : (hopJoin table relation).toRef.NamesDeclared schema :=
    ⟨target, htarget, .inr htoKey⟩
  have hfrom : (hopJoin table relation).fromRef.NamesDeclared schema :=
    ⟨table, htable, .inr hfromKey⟩
  simp [Join.references, hto, hfrom]

/-- Every join of a walk has both sides declared. -/
theorem Walk.namesDeclared_joins {path : FieldPath} {table : Table} {resolution : Resolution}
    (hwalk : Walk schema table path resolution) (htable : schema.table? table.name = some table) :
    ∀ join ∈ resolution.joins, ∀ ref ∈ join.references, ref.NamesDeclared schema := by
  induction hwalk with
  | column table name => simp
  | all table rest => simp
  | stray rest hhop hrelation => simp
  | hop hhop hrelation htarget hrest ih =>
    rw [List.forall_mem_cons]
    exact ⟨namesDeclared_hopJoin hcheck htable hrelation, ih (Schema.table?_name_of_table htarget)⟩

/-- Every join of a field has both sides declared. -/
theorem namesDeclared_joins {path : FieldPath} {root : String} {resolution : Resolution}
    (hresolve : path.resolve schema root = .ok resolution) :
    ∀ join ∈ resolution.joins, ∀ ref ∈ join.references, ref.NamesDeclared schema := by
  obtain ⟨table, htable, hwalk⟩ := exists_walk_of_resolve hresolve
  exact hwalk.namesDeclared_joins hcheck (Schema.table?_name_of_table htable)

end Joins

end FieldPath

namespace Statement

variable {schema : Schema} {root : String} {request : Request} {statement : Statement}

/-- A selection names declared things only, if its schema and its request have passed their
checks. -/
theorem namesDeclared_of_checks (hschema : schema.check = .ok ())
    (hrequest : request.check schema root = .ok ())
    (hfind : find schema root request = .ok statement) :
    ∀ ref ∈ statement.references, ref.NamesDeclared schema := by
  intro ref hmem
  obtain ⟨table, htable, hpaths⟩ := Except.bind_eq_ok.1 hrequest
  have hfields := Except.forM_eq_ok.1 hpaths
  rcases references_of_find hfind hmem with rfl | ⟨path, hpath, hcolumn⟩ |
    ⟨path, hpath, resolution, hresolve, join, hjoin, hside⟩
  · exact ⟨table, Schema.table_eq_ok.1 htable, .inl rfl⟩
  · exact FieldPath.namesDeclared_of_check (hfields path hpath) hcolumn
  · refine FieldPath.namesDeclared_joins hschema hresolve join hjoin ref ?_
    simpa [Join.references] using hside

/-- Ships with a flagship of their own kind and a port, whose relation `*` leads to the ships that
are in it. -/
def harbourSchema : Schema :=
  (Schema.empty.insert ⟨"ships", [⟨"id", .int4, true, true, true, none⟩,
      ⟨"name", .text, false, false, true, none⟩, ⟨"port_id", .int4, false, false, false, none⟩,
      ⟨"flagship_id", .int4, false, false, false, none⟩],
    [⟨"port", "ports", "port_id", "id"⟩, ⟨"flagship", "ships", "flagship_id", "id"⟩]⟩).insert
      ⟨"ports", [⟨"id", .int4, true, true, true, none⟩, ⟨"depth", .float4, false, false, false, none⟩],
        [⟨"*", "ships", "id", "port_id"⟩]⟩

/-- Ships whose flagship is in a deep port, with a field that hops along `*`. -/
def harbourRequest : Request :=
  { Request.empty with
    columns := some [.column "name", .via "port" (.via "*" (.column "name"))]
    filter := ⟨[.group .or [[.field (.via "flagship" (.via "port" (.column "depth")))
      (.compare .gt (.int 12)) []], [.field (.column "name") (.compare .like (.text "S%")) []]]]⟩
    groupBy := [.via "port" (.column "*")]
    orderBy := [⟨.via "flagship" (.column "name"), .descending⟩] }

theorem namesDeclared_of_checks_harbourRequest :
    let selection := Statement.selection [⟨"ships", "name"⟩, ⟨"ports", "*"⟩] "ships"
      [⟨"ships", "port_id", "ports", "id"⟩, ⟨"ships", "flagship_id", "ships", "id"⟩]
      [.group .or [[.comparison ⟨"ports", "depth"⟩ (.compare .gt (.int 12))],
        [.comparison ⟨"ships", "name"⟩ (.compare .like (.text "S%"))]]]
      [⟨"ports", "*"⟩] [(⟨"ships", "name"⟩, .descending)] none none
    harbourSchema.check = .ok () ∧ harbourRequest.check harbourSchema "ships" = .ok () ∧
      find harbourSchema "ships" harbourRequest = .ok selection ∧
      ∀ ref ∈ selection.references, ref.NamesDeclared harbourSchema := by
  intro selection
  have hschema : harbourSchema.check = .ok () := rfl
  have hrequest : harbourRequest.check harbourSchema "ships" = .ok () := rfl
  have hfind : find harbourSchema "ships" harbourRequest = .ok selection := rfl
  exact ⟨hschema, hrequest, hfind, namesDeclared_of_checks hschema hrequest hfind⟩

end Statement

end TableQuery
