import TableQuery.Proofs.Filter.Conjunction
import TableQuery.Proofs.Statement.Blanks
import TableQuery.Proofs.Statement.Built

/-!
# Statements on the row with a given key

Such a statement is built from the caller's filter, with whatever it asks of the primary key outside
of groups replaced by equality to the given key.  That equality is followed through resolution,
through dropping what asks for nothing and through dropping blanks: it stands in the text of every
statement that is built, as one of the conditions that all have to hold.
-/

namespace TableQuery.Statement

/-- The predicates of the rows that a statement concerns. -/
def predicates : Statement → List Predicate
  | .selection _ _ _ predicates _ _ _ _ => predicates
  | .insertion _ _ => []
  | .assignment _ _ predicates => predicates
  | .deletion _ predicates => predicates

/-- The same statement without its predicates. -/
def unfiltered : Statement → Statement
  | .selection columns source joins _ groupBy orderBy limit offset =>
    .selection columns source joins [] groupBy orderBy limit offset
  | .insertion target entries => .insertion target entries
  | .assignment target entries _ => .assignment target entries []
  | .deletion target _ => .deletion target []

/-- Equality of the primary key of a table to a key. -/
def keyPredicate (root primaryKey : String) (key : Literal) : Predicate :=
  .comparison ⟨root, primaryKey⟩ (.compare .eq key)

/-- A statement that ends in its filter is the one without it and the filter behind. -/
theorem sql_of_clauses {statement : Statement} {body : String}
    (hclauses : statement.clauses = statement.unfiltered.clauses ++ [body]) :
    statement.sql = statement.unfiltered.sql ++ " " ++ dropFinalBlanks body := by
  have hne : statement.unfiltered.clauses ≠ [] := by
    cases statement <;> simp [unfiltered, clauses]
  unfold sql
  rw [hclauses, List.map_append, List.map_singleton,
    String.intercalate_append_of_ne_nil (fun h => hne (List.map_eq_nil_iff.1 h))
      (List.cons_ne_nil _ _), String.intercalate_singleton]

section Key

variable {schema : Schema} {root primaryKey : String} {table : Table} {key : Literal}
  {request narrowed : Request} {statement : Statement}

/-- The filter of a request that is narrowed to a key of a known table. -/
theorem filter_of_keyed (htable : schema.table? root = some table)
    (hprimary : table.primaryKey? = some primaryKey) (hpoint : '.' ∉ primaryKey.toList)
    (hkeyed : keyed schema root key request = .ok narrowed) :
    narrowed.filter = request.filter.withEquality (.column primaryKey) key := by
  obtain ⟨other, otherKey, hother, hotherKey, rfl⟩ := keyed_eq_ok.1 hkeyed
  rw [htable] at hother
  cases hother
  rw [hprimary] at hotherKey
  cases hotherKey
  show request.filter.withEquality (FieldPath.ofText primaryKey) key = _
  rw [FieldPath.ofText_of_notMem hpoint]

/-- A statement on the row with a key holds what the narrowed filter resolves to, and ends in it. -/
theorem clauses_of_key (htable : schema.table? root = some table)
    (hprimary : table.primaryKey? = some primaryKey) (hpoint : '.' ∉ primaryKey.toList)
    (hbuilt : findOne schema root key request = .ok statement ∨
      (∃ item, updateOne schema root key item request = .ok statement) ∨
      removeOne schema root key request = .ok statement) :
    (request.filter.withEquality (.column primaryKey) key).resolve schema root =
        .ok statement.predicates ∧
      statement.clauses = statement.unfiltered.clauses ++ whereClause statement.predicates := by
  rcases hbuilt with hfindOne | ⟨item, hupdateOne⟩ | hremoveOne
  · obtain ⟨narrowed, hkeyed, hfind⟩ := findOne_eq_ok.1 hfindOne
    obtain ⟨columns, joins, predicates, groupBy, orderBy, -, -, -, hresolve, hgroupBy, horderBy,
      rfl⟩ := find_eq_ok.1 hfind
    cases hgroupBy
    cases horderBy
    rw [← filter_of_keyed htable hprimary hpoint hkeyed]
    refine ⟨hresolve, ?_⟩
    simp [clauses, unfiltered, Statement.predicates, whereClause, groupClause, orderClause,
      Request.empty, countClause]
  · obtain ⟨narrowed, hkeyed, hupdate⟩ := updateOne_eq_ok.1 hupdateOne
    obtain ⟨-, predicates, hresolve, rfl⟩ := update_eq_ok.1 hupdate
    rw [← filter_of_keyed htable hprimary hpoint hkeyed]
    exact ⟨hresolve, rfl⟩
  · obtain ⟨narrowed, hkeyed, hremove⟩ := removeOne_eq_ok.1 hremoveOne
    obtain ⟨-, predicates, hresolve, rfl⟩ := remove_eq_ok.1 hremove
    rw [← filter_of_keyed htable hprimary hpoint hkeyed]
    exact ⟨hresolve, rfl⟩

/-- The node that asks for a key resolves to equality of the primary key. -/
theorem resolve_keyNode (htable : schema.table? root = some table) :
    Filter.Node.resolve schema root (.field (.column primaryKey) (.compare .eq key) []) =
      .ok [keyPredicate root primaryKey key] := by
  rw [Filter.Node.resolve, Filter.resolveField_eq_ok]
  refine ⟨rfl, ⟨root, primaryKey⟩, ?_, rfl⟩
  rw [FieldPath.columnRef, FieldPath.resolve, Schema.table_eq_ok.2 htable]
  show Except.ok (ColumnRef.mk table.name primaryKey) = _
  rw [Schema.name_of_table? htable]

/-- The text of equality of the primary key to a key. -/
theorem conjunctionSql_key (hwildcard : primaryKey ≠ wildcard) :
    Predicate.conjunctionSql [keyPredicate root primaryKey key] =
      "`" ++ root ++ "`.`" ++ primaryKey ++ "` = " ++ key.sql := by
  rw [Predicate.conjunctionSql, Predicate.sqls_eq_map, List.map_singleton,
    String.intercalate_singleton, keyPredicate, Predicate.sql, ColumnRef.sql, if_neg hwildcard]
  apply String.toList_injective
  simp [quoteIdentifier, Condition.sql, Condition.operator, Condition.operandSql, Operator.sql,
    Comparison.sql]

/-- The text of equality of the primary key to a key, if that is no list, does not end in a blank. -/
theorem endsSolid_key (hwildcard : primaryKey ≠ wildcard) (hkey : ∀ items, key ≠ .list items) :
    EndsSolid (Predicate.conjunctionSql [keyPredicate root primaryKey key]) := by
  rw [conjunctionSql_key hwildcard]
  exact (Literal.endsSolid_sql hkey).append _

/-- The narrowed filter resolves node by node, and equality of the primary key to the key stands in
one place among the nodes that are not on the primary key. -/
theorem exists_parts_of_key (htable : schema.table? root = some table)
    {filter : Filter} {predicates : List Predicate}
    (hresolve : (filter.withEquality (.column primaryKey) key).resolve schema root =
      .ok predicates) :
    ∃ before after front back,
      Filter.without (.column primaryKey) filter.nodes = before ++ after ∧
      before.mapM (Filter.Node.resolve schema root) = .ok front ∧
      after.mapM (Filter.Node.resolve schema root) = .ok back ∧
      predicates = (front ++ [[keyPredicate root primaryKey key]] ++ back).flatten := by
  obtain ⟨before, after, hwithout, hreplace⟩ := Filter.exists_replaceOn_eq (.column primaryKey)
    (.field (.column primaryKey) (.compare .eq key) []) filter.nodes
  rw [Filter.resolve, Filter.withEquality, hreplace, Filter.resolveNodes_eq_mapM,
    Except.map_eq_ok] at hresolve
  obtain ⟨parts, hparts, hflatten⟩ := hresolve
  rw [List.mapM_append, Except.bind_eq_ok] at hparts
  obtain ⟨front, hfront, hparts⟩ := hparts
  rw [List.mapM_cons, resolve_keyNode htable] at hparts
  obtain ⟨later, hlater, heq⟩ := Except.bind_eq_ok.1 hparts
  cases heq
  obtain ⟨_, heq, hlater⟩ := Except.bind_eq_ok.1 hlater
  cases heq
  obtain ⟨back, hback, heq⟩ := Except.bind_eq_ok.1 hlater
  cases heq
  refine ⟨before, after, front, back, hwithout, hfront, hback, ?_⟩
  rw [← hflatten, List.append_assoc, List.singleton_append]

/-- The clause of a filter with equality of the primary key to a key among its parts.  Blanks are
dropped behind that equality only. -/
theorem dropFinalBlanks_key (hwildcard : primaryKey ≠ wildcard) (hkey : ∀ items, key ≠ .list items)
    (front back : List (List Predicate)) :
    dropFinalBlanks ("WHERE " ++ Predicate.conjunctionSql
        (front ++ [[keyPredicate root primaryKey key]] ++ back).flatten) =
      "WHERE " ++ String.intercalate " AND "
        ((front.map Predicate.conjunctionSql).filter (· ≠ "") ++
          ["`" ++ root ++ "`.`" ++ primaryKey ++ "` = " ++ key.sql] ++
          ((back.map Predicate.conjunctionSql).filter (· ≠ "")).modifyLast dropFinalBlanks) := by
  have htexts : ((front ++ [[keyPredicate root primaryKey key]] ++ back).map
        Predicate.conjunctionSql).filter (· ≠ "") =
      (front.map Predicate.conjunctionSql).filter (· ≠ "") ++
        [Predicate.conjunctionSql [keyPredicate root primaryKey key]] ++
        (back.map Predicate.conjunctionSql).filter (· ≠ "") := by
    have hsome : Predicate.conjunctionSql [keyPredicate root primaryKey key] ≠ "" := fun h =>
      absurd (Predicate.conjunctionSql_eq_empty_iff.1 h) (List.cons_ne_nil _ _)
    rw [List.map_append, List.map_append, List.filter_append, List.filter_append,
      List.map_singleton, List.filter_cons_of_pos (by simpa using hsome), List.filter_nil]
  have hne : ((front ++ [[keyPredicate root primaryKey key]] ++ back).map
      Predicate.conjunctionSql).filter (· ≠ "") ≠ [] := by
    rw [htexts]
    simp
  rw [Predicate.conjunctionSql_flatten,
    dropFinalBlanks_intercalate _ _ hne fun _ => Predicate.exists_ne_blank_of_mem_texts, htexts,
    modifyLast_dropFinalBlanks _ (endsSolid_key hwildcard hkey), conjunctionSql_key hwildcard]

/-- A statement on the row with a key is built with a filter behind it.  The text of that filter is
one conjunction: of the nodes that are not on the primary key, in their order and without those that
ask for nothing, and of equality of the primary key to the key in one place among them. -/
theorem sql_of_key (htable : schema.table? root = some table)
    (hprimary : table.primaryKey? = some primaryKey) (hpoint : '.' ∉ primaryKey.toList)
    (hwildcard : primaryKey ≠ wildcard) (hkey : ∀ items, key ≠ .list items)
    (hbuilt : findOne schema root key request = .ok statement ∨
      (∃ item, updateOne schema root key item request = .ok statement) ∨
      removeOne schema root key request = .ok statement) :
    ∃ before after front back,
      Filter.without (.column primaryKey) request.filter.nodes = before ++ after ∧
      before.mapM (Filter.Node.compile schema root) = .ok front ∧
      after.mapM (Filter.Node.compile schema root) = .ok back ∧
      keyPredicate root primaryKey key ∈ statement.predicates ∧
      statement.sql = statement.unfiltered.sql ++ " WHERE " ++
        String.intercalate " AND " (front.filter (· ≠ "") ++
          ["`" ++ root ++ "`.`" ++ primaryKey ++ "` = " ++ key.sql] ++
          (back.filter (· ≠ "")).modifyLast dropFinalBlanks) := by
  obtain ⟨hresolve, hclauses⟩ := clauses_of_key htable hprimary hpoint hbuilt
  obtain ⟨before, after, front, back, hwithout, hfront, hback, hpredicates⟩ :=
    exists_parts_of_key htable hresolve
  have hmem : keyPredicate root primaryKey key ∈ statement.predicates := by
    rw [hpredicates]
    simp
  have hclause : whereClause statement.predicates =
      ["WHERE " ++ Predicate.conjunctionSql statement.predicates] :=
    if_neg (by simpa using List.ne_nil_of_mem hmem)
  refine ⟨before, after, _, _, hwithout, Filter.mapM_compile_eq_ok hfront,
    Filter.mapM_compile_eq_ok hback, hmem, ?_⟩
  rw [hclause] at hclauses
  rw [sql_of_clauses hclauses, hpredicates, dropFinalBlanks_key hwildcard hkey,
    show " WHERE " = " " ++ "WHERE " from rfl]
  simp only [String.append_assoc]

end Key

/-- Users, known by a number. -/
def usersTable : Table :=
  ⟨"users", [⟨"name", .text, false, false, true, none⟩, ⟨"id", .int4, true, true, true, none⟩], []⟩

/-- Conditions on the key of a user at both ends, in a group and beside it. -/
def usersRequest : Request :=
  { Request.empty with filter := ⟨[.field (.column "id") (.compare .gt (.int 1)) [],
    .group .or [[.field (.column "id") (.compare .lt (.int 9)) []], []],
    .group .and [], .field (.column "id") (.compare .ne (.int 7)) [],
    .field (.column "name") (.compare .eq (.list [])) []]⟩ }

theorem sql_of_key_usersRequest : ∃ statement,
    removeOne (Schema.empty.insert usersTable) "users" (.int 7) usersRequest = .ok statement ∧
      statement.sql = "DELETE FROM `users` WHERE `users`.`id` = 7 AND (`users`.`id` < 9)" ++
        " AND `users`.`name` =" ∧
      ∃ before after front back,
        Filter.without (.column "id") usersRequest.filter.nodes = before ++ after ∧
        before.mapM (Filter.Node.compile (Schema.empty.insert usersTable) "users") = .ok front ∧
        after.mapM (Filter.Node.compile (Schema.empty.insert usersTable) "users") = .ok back ∧
        keyPredicate "users" "id" (.int 7) ∈ statement.predicates ∧
        statement.sql = statement.unfiltered.sql ++ " WHERE " ++
          String.intercalate " AND " (front.filter (· ≠ "") ++
            ["`" ++ "users" ++ "`.`" ++ "id" ++ "` = " ++ (Literal.int 7).sql] ++
            (back.filter (· ≠ "")).modifyLast dropFinalBlanks) := by
  have htable : (Schema.empty.insert usersTable).table? "users" = some usersTable := rfl
  refine ⟨_, rfl, by decide, ?_⟩
  exact sql_of_key htable rfl (by decide) (by decide) (fun _ hlist => nomatch hlist)
    (.inr (.inr rfl))

end TableQuery.Statement
