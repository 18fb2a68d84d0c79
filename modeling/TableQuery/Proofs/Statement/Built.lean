import TableQuery.Proofs.FieldPath
import TableQuery.Statement

/-!
# Building a statement

Building fails where one of its steps does.  The lemmas here say of every statement with a filter
which steps have to succeed, and what the statement then is.  A statement on one row takes the steps
of that on many after the request is narrowed (`findOne_eq_bind` and its companions).
-/

namespace TableQuery.Statement

variable {schema : Schema} {root : String} {request : Request} {statement : Statement}

/-! ## Many rows -/

theorem find_eq_ok :
    find schema root request = .ok statement ↔
      ∃ columns joins predicates groupBy orderBy,
        FieldPath.columnRefs schema root request.selected = .ok columns ∧
        (∃ table, schema.table? root = some table) ∧
        request.joins schema root = .ok joins ∧
        request.filter.resolve schema root = .ok predicates ∧
        request.groupBy.mapM (FieldPath.columnRef schema root) = .ok groupBy ∧
        request.orderBy.mapM (resolveOrderTerm schema root) = .ok orderBy ∧
        statement = .selection columns root joins predicates groupBy orderBy request.limit
          request.offset := by
  unfold find
  simp only [Except.bind_eq_ok]
  constructor
  · intro hrun
    obtain ⟨columns, hcolumns, source, hsource, joins, hjoins, predicates, hpredicates, groupBy,
      hgroupBy, orderBy, horderBy, heq⟩ := hrun
    cases heq
    rw [Schema.name_of_table hsource]
    exact ⟨columns, joins, predicates, groupBy, orderBy, hcolumns,
      ⟨source, Schema.table_eq_ok.1 hsource⟩, hjoins, hpredicates, hgroupBy, horderBy, rfl⟩
  · intro hsteps
    obtain ⟨columns, joins, predicates, groupBy, orderBy, hcolumns, ⟨source, hsource⟩, hjoins,
      hpredicates, hgroupBy, horderBy, rfl⟩ := hsteps
    refine ⟨columns, hcolumns, source, Schema.table_eq_ok.2 hsource, joins, hjoins, predicates,
      hpredicates, groupBy, hgroupBy, orderBy, horderBy, ?_⟩
    rw [Schema.name_of_table? hsource]
    rfl

theorem update_eq_ok {item : Item} :
    update schema root item request = .ok statement ↔
      (∃ table, schema.table? root = some table) ∧
        ∃ predicates, request.filter.resolve schema root = .ok predicates ∧
          statement = .assignment root item.entries predicates := by
  unfold update
  simp only [Except.bind_eq_ok]
  constructor
  · intro hrun
    obtain ⟨target, htarget, predicates, hpredicates, heq⟩ := hrun
    cases heq
    rw [Schema.name_of_table htarget]
    exact ⟨⟨target, Schema.table_eq_ok.1 htarget⟩, predicates, hpredicates, rfl⟩
  · intro hsteps
    obtain ⟨⟨target, htarget⟩, predicates, hpredicates, rfl⟩ := hsteps
    refine ⟨target, Schema.table_eq_ok.2 htarget, predicates, hpredicates, ?_⟩
    rw [Schema.name_of_table? htarget]
    rfl

theorem remove_eq_ok :
    remove schema root request = .ok statement ↔
      (∃ table, schema.table? root = some table) ∧
        ∃ predicates, request.filter.resolve schema root = .ok predicates ∧
          statement = .deletion root predicates := by
  unfold remove
  simp only [Except.bind_eq_ok]
  constructor
  · intro hrun
    obtain ⟨target, htarget, predicates, hpredicates, heq⟩ := hrun
    cases heq
    rw [Schema.name_of_table htarget]
    exact ⟨⟨target, Schema.table_eq_ok.1 htarget⟩, predicates, hpredicates, rfl⟩
  · intro hsteps
    obtain ⟨⟨target, htarget⟩, predicates, hpredicates, rfl⟩ := hsteps
    refine ⟨target, Schema.table_eq_ok.2 htarget, predicates, hpredicates, ?_⟩
    rw [Schema.name_of_table? htarget]
    rfl

/-! ## One row -/

/-- The filter of a request with equality to a key in place of what it asks of the primary key. -/
theorem keyed_eq_ok {key : Literal} {narrowed : Request} :
    keyed schema root key request = .ok narrowed ↔
      ∃ table primaryKey, schema.table? root = some table ∧ table.primaryKey? = some primaryKey ∧
        narrowed = { request with
          filter := request.filter.withEquality (FieldPath.ofText primaryKey) key } := by
  unfold keyed Schema.primaryKey Schema.primaryKey?
  simp only [Except.bind_eq_ok]
  constructor
  · intro hrun
    obtain ⟨primaryKey, ⟨found, ⟨table, htable, hfound⟩, hprimary⟩, heq⟩ := hrun
    cases hfound
    cases heq
    cases hown : table.primaryKey? with
    | none =>
      rw [hown] at hprimary
      cases hprimary
    | some own =>
      rw [hown] at hprimary
      cases hprimary
      exact ⟨table, _, Schema.table_eq_ok.1 htable, hown, rfl⟩
  · intro hsteps
    obtain ⟨table, primaryKey, htable, hprimary, rfl⟩ := hsteps
    refine ⟨primaryKey, ⟨some primaryKey, ⟨table, Schema.table_eq_ok.2 htable, ?_⟩, rfl⟩, rfl⟩
    rw [hprimary]
    rfl

/-- The row with a given key is selected as rows are from what is left of the request. -/
theorem findOne_eq_bind (key : Literal) :
    findOne schema root key request = keyed schema root key request >>= fun narrowed =>
      find schema root { Request.empty with
        columns := narrowed.columns, filter := narrowed.filter } := by
  unfold findOne find
  rfl

/-- The row with a given key is updated as rows are under the narrowed request. -/
theorem updateOne_eq_bind (key : Literal) (item : Item) :
    updateOne schema root key item request =
      keyed schema root key request >>= update schema root item := rfl

/-- The row with a given key is removed as rows are under the narrowed request. -/
theorem removeOne_eq_bind (key : Literal) :
    removeOne schema root key request = keyed schema root key request >>= remove schema root := rfl

theorem findOne_eq_ok {key : Literal} :
    findOne schema root key request = .ok statement ↔
      ∃ narrowed, keyed schema root key request = .ok narrowed ∧
        find schema root { Request.empty with
          columns := narrowed.columns, filter := narrowed.filter } = .ok statement := by
  rw [findOne_eq_bind]
  exact Except.bind_eq_ok

theorem updateOne_eq_ok {key : Literal} {item : Item} :
    updateOne schema root key item request = .ok statement ↔
      ∃ narrowed, keyed schema root key request = .ok narrowed ∧
        update schema root item narrowed = .ok statement := by
  rw [updateOne_eq_bind]
  exact Except.bind_eq_ok

theorem removeOne_eq_ok {key : Literal} :
    removeOne schema root key request = .ok statement ↔
      ∃ narrowed, keyed schema root key request = .ok narrowed ∧
        remove schema root narrowed = .ok statement := by
  rw [removeOne_eq_bind]
  exact Except.bind_eq_ok

end TableQuery.Statement
