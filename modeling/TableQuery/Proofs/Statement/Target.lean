import TableQuery.Proofs.Statement.Tables
import TableQuery.Proofs.Statement.Where

/-!
# What updates and removals refer to

An update or a removal introduces one table, its target, and has no joins.  Its conditions are made
from fields in the same way as those of a selection, so a field that ends on another table gives
a reference to a table that the statement does not introduce.

`refersBy` says when that happens.  A field whose first segment is no relation of the target stays
on the target, and so does one whose hops lead back to it; every other field leaves a reference
behind that no database can resolve (`exists_foreign_reference`).
-/

namespace TableQuery

namespace FieldPath

/-- The first segment of the field is a hop along a relation of the table. -/
def Leaves (table : Table) : FieldPath → Prop
  | .column _ => False
  | .via hop _ => hop ≠ wildcard ∧ (table.relation? hop).isSome = true

/-- The hops of the field, if there are any, lead from the root back to it. -/
def EndsOnRoot (schema : Schema) (root : String) (path : FieldPath) : Prop :=
  ∃ resolution, path.resolve schema root = .ok resolution ∧
    (Join.tables root resolution.joins).getLast? = some root

variable {schema : Schema} {root : String} {path : FieldPath}

/-- A field stands for a column of the root exactly when it ends on the root. -/
theorem table_eq_iff {ref : ColumnRef} (hcolumn : path.columnRef schema root = .ok ref) :
    ref.table = root ↔ path.EndsOnRoot schema root := by
  obtain ⟨resolution, hresolve, rfl⟩ := Except.map_eq_ok.1 hcolumn
  have hlast := (chain_of_resolve hresolve).getLast?_tables
  constructor
  · intro htable
    rw [htable] at hlast
    exact ⟨resolution, hresolve, hlast⟩
  · intro hends
    obtain ⟨other, hother, hroot⟩ := hends
    rw [hresolve] at hother
    cases hother
    rw [hroot] at hlast
    exact (Option.some.inj hlast).symm

/-- A walk has no joins if its first segment is no hop. -/
theorem Walk.joins_eq_nil {table : Table} {resolution : Resolution}
    (hwalk : Walk schema table path resolution) (hstays : ¬path.Leaves table) :
    resolution.joins = [] := by
  cases hwalk with
  | column table name => rfl
  | all table rest => rfl
  | stray rest hhop hrelation => rfl
  | hop hhop hrelation htarget hrest =>
    exact absurd ⟨hhop, by rw [hrelation, Option.isSome_some]⟩ hstays

/-- A field that does not leave the root ends on it. -/
theorem endsOnRoot_of_not_leaves {table : Table} {ref : ColumnRef}
    (htable : schema.table? root = some table)
    (hcolumn : path.columnRef schema root = .ok ref) (hstays : ¬path.Leaves table) :
    path.EndsOnRoot schema root := by
  obtain ⟨resolution, hresolve, -⟩ := Except.map_eq_ok.1 hcolumn
  obtain ⟨first, hfirst, hwalk⟩ := exists_walk_of_resolve hresolve
  rw [Schema.table_eq_ok, htable] at hfirst
  cases hfirst
  refine ⟨resolution, hresolve, ?_⟩
  rw [hwalk.joins_eq_nil hstays]
  rfl

end FieldPath

/-- Whether a call changes or removes rows that are there. -/
def Call.isChange : Call → Bool
  | .update .. | .updateOne .. | .remove .. | .removeOne .. => true
  | .find .. | .findOne .. | .createOne .. => false

namespace Statement

variable {schema : Schema} {root : String} {statement : Statement}

theorem references_of_update {request : Request} {item : Item}
    (hupdate : update schema root item request = .ok statement) :
    statement.references = Predicate.conjunctionColumns statement.predicates := by
  obtain ⟨-, predicates, -, rfl⟩ := update_eq_ok.1 hupdate
  rfl

theorem references_of_remove {request : Request}
    (hremove : remove schema root request = .ok statement) :
    statement.references = Predicate.conjunctionColumns statement.predicates := by
  obtain ⟨-, predicates, -, rfl⟩ := remove_eq_ok.1 hremove
  rfl

/-- The statement of a change refers to the columns of its conditions only. -/
theorem references_of_isChange {call : Call} (hchange : call.isChange = true)
    (hbuilt : call.statement schema root = .ok statement) :
    statement.references = Predicate.conjunctionColumns statement.predicates := by
  cases call with
  | update item request => exact references_of_update hbuilt
  | remove request => exact references_of_remove hbuilt
  | updateOne key item request =>
    obtain ⟨narrowed, -, hupdate⟩ := updateOne_eq_ok.1 hbuilt
    exact references_of_update hupdate
  | removeOne key request =>
    obtain ⟨narrowed, -, hremove⟩ := removeOne_eq_ok.1 hbuilt
    exact references_of_remove hremove
  | find request | findOne key request | createOne item => cases hchange

/-- A statement refers to what the fields of a filter stand for, in their order.  So it keeps to the
root exactly when each of them ends there, as all do that do not leave the root. -/
structure RefersBy (schema : Schema) (root : String) (table : Table) (filter : Filter)
    (statement : Statement) : Prop where
  references : List.Forall₂ (fun entry ref => entry.1.columnRef schema root = .ok ref)
    filter.entries statement.references
  own_iff : (∀ ref ∈ statement.references, ref.table = root) ↔
    ∀ path ∈ filter.paths, path.EndsOnRoot schema root
  ends : ∀ path ∈ filter.paths, ¬path.Leaves table → path.EndsOnRoot schema root

/-- The statement of a change refers to what the fields of its filter stand for. -/
theorem refersBy (call : Call) {table : Table} (htable : schema.table? root = some table)
    (hchange : call.isChange = true) (hbuilt : call.statement schema root = .ok statement) :
    ∃ filter, call.filter schema root = .ok filter ∧
      RefersBy schema root table filter statement := by
  obtain ⟨filter, hfilter, hresolve⟩ := Call.exists_filter_of_statement hbuilt
  have hreferences := Filter.columnRefs_of_resolve hresolve
  rw [← references_of_isChange hchange hbuilt] at hreferences
  have hcolumns : ∀ path ∈ filter.paths, ∃ ref ∈ statement.references,
      path.columnRef schema root = .ok ref := by
    intro path hpath
    obtain ⟨condition, hentry⟩ := Filter.mem_paths_iff.1 hpath
    exact Except.exists_of_mem_left hreferences hentry
  refine ⟨filter, hfilter, hreferences, ⟨?_, ?_⟩, ?_⟩
  · intro hown path hpath
    obtain ⟨ref, hmem, hcolumn⟩ := hcolumns path hpath
    exact (FieldPath.table_eq_iff hcolumn).1 (hown ref hmem)
  · intro hends ref hmem
    obtain ⟨entry, hentry, hcolumn⟩ := Except.exists_of_mem hreferences hmem
    have hpath : entry.1 ∈ filter.paths := Filter.mem_paths_iff.2 ⟨entry.2, hentry⟩
    exact (FieldPath.table_eq_iff hcolumn).2 (hends entry.1 hpath)
  · intro path hpath hstays
    obtain ⟨ref, -, hcolumn⟩ := hcolumns path hpath
    exact FieldPath.endsOnRoot_of_not_leaves htable hcolumn hstays

/-- Clerks with a superior of their own kind, in offices that have a head. -/
def clerksTable : Table :=
  ⟨"clerks", [⟨"id", .int4, true, true, true, none⟩, ⟨"name", .text, false, false, true, none⟩],
    [⟨"superior", "clerks", "superior_id", "id"⟩, ⟨"office", "offices", "office_id", "id"⟩]⟩

/-- The schema of clerks and their offices. -/
def clerksSchema : Schema :=
  (Schema.empty.insert clerksTable).insert
    ⟨"offices", [⟨"id", .int4, true, true, true, none⟩], [⟨"head", "clerks", "head_id", "id"⟩]⟩

/-- Fields that leave the clerks and come back, and one that names no relation. -/
def clerksRequest : Request :=
  { Request.empty with
    filter := ⟨[.group .or [[.field (.via "superior" (.column "id")) (.compare .lt (.int 3)) []],
      [.field (.via "office" (.via "head" (.column "id"))) (.compare .eq (.int 5)) []]],
      .field (.via "desk" (.column "name")) (.compare .ne .null) []]⟩ }

theorem refersBy_clerksRequest : ∃ statement,
    Statement.removeOne clerksSchema "clerks" (.int 7) clerksRequest = .ok statement ∧
      statement.references = [⟨"clerks", "id"⟩, ⟨"clerks", "id"⟩, ⟨"clerks", "name"⟩,
        ⟨"clerks", "id"⟩] ∧
      ∃ filter, (Call.removeOne (.int 7) clerksRequest).filter clerksSchema "clerks" = .ok filter ∧
        RefersBy clerksSchema "clerks" clerksTable filter statement := by
  refine ⟨_, rfl, rfl, ?_⟩
  exact refersBy (.removeOne (.int 7) clerksRequest) rfl rfl rfl

/-- Countries, each in a region. -/
def countriesSchema : Schema :=
  (Schema.empty.insert ⟨"countries", [⟨"id", .int4, true, true, true, none⟩,
      ⟨"region", .int4, false, false, false, none⟩], [⟨"region", "regions", "region", "id"⟩]⟩).insert
    ⟨"regions", [⟨"id", .int4, true, true, true, none⟩, ⟨"name", .text, false, false, false, none⟩],
      []⟩

/-- A request for the countries of one region. -/
def asiaRequest : Request :=
  { Request.empty with
    filter := ⟨[.field (.via "region" (.column "name")) (.compare .eq (.text "Asia")) []]⟩ }

/-- The statement that removes the countries of a region refers to the regions, which it does not
introduce. -/
theorem exists_foreign_reference : ∃ statement,
    remove countriesSchema "countries" asiaRequest = .ok statement ∧
      statement.sql = "DELETE FROM `countries` WHERE `regions`.`name` = 'Asia'" ∧
      ∃ ref ∈ statement.references, ref.table ≠ "countries" :=
  ⟨_, rfl, by decide, ⟨"regions", "name"⟩, List.mem_cons_self, by decide⟩

end Statement

end TableQuery
