import TableQuery.Proofs.FieldPath
import TableQuery.Schema.Check

/-!
# What the check of a schema establishes

In a schema that passes its check every relation of a declared table leads to a declared table
(`exists_target_of_check`).  So a walk along relations that starts from a declared table never
leaves the schema, and every path resolves (`exists_resolve_of_check`), whether its hops are
relations or not, and though relations may lead in circles.
-/

namespace TableQuery.Schema

variable {schema : Schema}

/-- A relation passes the check when its target and both of its keys are declared. -/
theorem checkRelation_eq_ok {table : Table} {relation : Relation} :
    schema.checkRelation table relation = .ok () ↔
      ∃ target, schema.table? relation.target = some target ∧
        (table.column? relation.fromKey).isSome = true ∧
        (target.column? relation.toKey).isSome = true := by
  unfold checkRelation
  rw [Except.bind_eq_ok]
  simp only [table_eq_ok]
  refine exists_congr fun target => and_congr_right fun _ => ?_
  cases table.column? relation.fromKey <;> cases target.column? relation.toKey <;>
    simp [throw, throwThe, MonadExceptOf.throw, bind, Except.bind, pure, Except.pure]

/-- A table passes the check when it has a name and its relations pass. -/
theorem checkTable_eq_ok {table : Table} :
    schema.checkTable table = .ok () ↔
      table.name ≠ "" ∧
        ∀ relation ∈ table.relations, schema.checkRelation table relation = .ok () := by
  rw [← Except.forM_eq_ok]
  unfold checkTable
  by_cases hname : table.name = "" <;>
    simp [hname, throw, throwThe, MonadExceptOf.throw, bind, Except.bind]

/-- A table that is found is declared. -/
theorem mem_tables_of_table? {name : String} {table : Table}
    (hfound : schema.table? name = some table) : table ∈ schema.tables :=
  List.mem_of_find?_eq_some hfound

section Checked

variable (hcheck : schema.check = .ok ())

include hcheck

/-- Every relation of a declared table passes the check of relations. -/
theorem checkRelation_of_check {name hop : String} {table : Table} {relation : Relation}
    (htable : schema.table? name = some table) (hrelation : table.relation? hop = some relation) :
    schema.checkRelation table relation = .ok () := by
  have hown := checkTable_eq_ok.1 (Except.forM_eq_ok.1 hcheck table (mem_tables_of_table? htable))
  exact hown.2 relation (List.mem_of_find?_eq_some hrelation)

/-- Every relation of a declared table leads to a declared table. -/
theorem exists_target_of_check {name hop : String} {table : Table} {relation : Relation}
    (htable : schema.table? name = some table) (hrelation : table.relation? hop = some relation) :
    ∃ target, schema.table? relation.target = some target := by
  obtain ⟨target, htarget, -⟩ :=
    checkRelation_eq_ok.1 (checkRelation_of_check hcheck htable hrelation)
  exact ⟨target, htarget⟩

/-- Every path resolves from a declared table. -/
theorem exists_resolveFrom_of_check (path : FieldPath) {name : String} {table : Table}
    (htable : schema.table? name = some table) :
    ∃ resolution, path.resolveFrom schema table = .ok resolution := by
  induction path generalizing name table with
  | column column => exact ⟨_, rfl⟩
  | via hop rest ih =>
    unfold FieldPath.resolveFrom
    split
    · exact ⟨_, rfl⟩
    · split
      · exact ⟨_, rfl⟩
      · rename_i relation hrelation
        obtain ⟨target, htarget⟩ := exists_target_of_check hcheck htable hrelation
        obtain ⟨resolved, hresolved⟩ := ih htarget
        rw [table_eq_ok.2 htarget]
        exact ⟨_, Except.bind_eq_ok.2 ⟨target, rfl, Except.bind_eq_ok.2 ⟨resolved, hresolved, rfl⟩⟩⟩

/-- Every path resolves from the name of a declared table. -/
theorem exists_resolve_of_check (path : FieldPath) {root : String} {table : Table}
    (htable : schema.table? root = some table) :
    ∃ resolution, path.resolve schema root = .ok resolution := by
  obtain ⟨resolution, hresolution⟩ := exists_resolveFrom_of_check hcheck path htable
  exact ⟨resolution, Except.bind_eq_ok.2 ⟨table, table_eq_ok.2 htable, hresolution⟩⟩

end Checked

end TableQuery.Schema
