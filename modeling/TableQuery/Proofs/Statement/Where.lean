import Mathlib.Data.List.DropRight
import TableQuery.Proofs.Statement.Key
import TableQuery.Session

/-!
# The clause that filters

An empty text stands for the absence of a condition at every level: a node, a member, a filter and
a clause are left out when their text is empty.  An update or a removal without its clause concerns
every row, so what matters is that nothing else ever has an empty text.

`exists_clauses_eq` says where the clause stands and that no other clause can be taken for it, and
`keepsFilter` that it is missing only where the filter has no condition at any depth.
-/

namespace TableQuery

/-! ## The filter of a statement -/

section Filter

variable {schema : Schema} {root : String} {request : Request} {statement : Statement}

/-- The predicates of a selection are what the filter of its request resolves to. -/
theorem Statement.resolve_of_find (hfind : find schema root request = .ok statement) :
    request.filter.resolve schema root = .ok statement.predicates := by
  obtain ⟨columns, joins, predicates, groupBy, orderBy, -, -, -, hresolve, -, -, rfl⟩ :=
    find_eq_ok.1 hfind
  exact hresolve

/-- The predicates of an update are what the filter of its request resolves to. -/
theorem Statement.resolve_of_update {item : Item}
    (hupdate : update schema root item request = .ok statement) :
    request.filter.resolve schema root = .ok statement.predicates := by
  obtain ⟨-, predicates, hresolve, rfl⟩ := update_eq_ok.1 hupdate
  exact hresolve

/-- The predicates of a removal are what the filter of its request resolves to. -/
theorem Statement.resolve_of_remove (hremove : remove schema root request = .ok statement) :
    request.filter.resolve schema root = .ok statement.predicates := by
  obtain ⟨-, predicates, hresolve, rfl⟩ := remove_eq_ok.1 hremove
  exact hresolve

/-- The filter of the statement of a call: that of its request, narrowed if the call is by key. -/
def Call.filter (schema : Schema) (root : String) : Call → Except Error Filter
  | .find request | .update _ request | .remove request => .ok request.filter
  | .createOne _ => .ok Filter.empty
  | .findOne key request | .updateOne key _ request | .removeOne key request =>
    (Statement.keyed schema root key request).map Request.filter

/-- A call whose statement is built has a filter, and the predicates of the statement are what that
filter resolves to. -/
theorem Call.exists_filter_of_statement {call : Call}
    (hbuilt : call.statement schema root = .ok statement) :
    ∃ filter, call.filter schema root = .ok filter ∧
      filter.resolve schema root = .ok statement.predicates := by
  cases call with
  | find request => exact ⟨_, rfl, Statement.resolve_of_find hbuilt⟩
  | update item request => exact ⟨_, rfl, Statement.resolve_of_update hbuilt⟩
  | remove request => exact ⟨_, rfl, Statement.resolve_of_remove hbuilt⟩
  | createOne item =>
    obtain ⟨target, -, heq⟩ := Except.bind_eq_ok.1 hbuilt
    cases heq
    exact ⟨_, rfl, rfl⟩
  | findOne key request =>
    obtain ⟨narrowed, hkeyed, hfind⟩ := Statement.findOne_eq_ok.1 hbuilt
    have hresolve := Statement.resolve_of_find hfind
    exact ⟨narrowed.filter, Except.map_eq_ok.2 ⟨narrowed, hkeyed, rfl⟩, hresolve⟩
  | updateOne key item request =>
    obtain ⟨narrowed, hkeyed, hupdate⟩ := Statement.updateOne_eq_ok.1 hbuilt
    have hresolve := Statement.resolve_of_update hupdate
    exact ⟨narrowed.filter, Except.map_eq_ok.2 ⟨narrowed, hkeyed, rfl⟩, hresolve⟩
  | removeOne key request =>
    obtain ⟨narrowed, hkeyed, hremove⟩ := Statement.removeOne_eq_ok.1 hbuilt
    have hresolve := Statement.resolve_of_remove hremove
    exact ⟨narrowed.filter, Except.map_eq_ok.2 ⟨narrowed, hkeyed, rfl⟩, hresolve⟩

end Filter

namespace Statement

/-! ## Clauses -/

/-- The clauses of a statement as they are written, with single blanks between them. -/
def written (statement : Statement) : List String :=
  statement.clauses.map dropFinalBlanks

/-- A clause that filters. -/
def IsWhere (clause : String) : Prop :=
  "WHERE".toList <+: clause.toList

/-- The statement has a clause that filters. -/
def HasWhere (statement : Statement) : Prop :=
  ∃ clause ∈ statement.written, IsWhere clause

theorem IsWhere.head?_eq {clause : String} (hclause : IsWhere clause) :
    clause.toList.head? = some 'W' := by
  obtain ⟨rest, htext⟩ := hclause
  rw [← htext]
  rfl

/-- Dropping blanks makes no clause one that filters. -/
theorem IsWhere.of_dropFinalBlanks {clause : String} (hclause : IsWhere (dropFinalBlanks clause)) :
    IsWhere clause := by
  have hprefix : (dropFinalBlanks clause).toList <+: clause.toList := by
    rw [dropFinalBlanks, String.toList_ofList]
    exact List.rdropWhile_prefix _ _
  exact hclause.trans hprefix

theorem isWhere_append (body : String) : IsWhere ("WHERE " ++ body) := by
  rw [IsWhere, String.toList_append]
  exact ⟨' ' :: body.toList, rfl⟩

theorem head?_ne_of_mem_joins {joins : List Join} :
    ∀ clause ∈ joins.map Join.sql, clause.toList.head? ≠ some 'W' := by
  intro clause hmem
  obtain ⟨join, -, rfl⟩ := List.mem_map.1 hmem
  unfold Join.sql
  simp

theorem head?_ne_of_mem_groupClause {columns : List ColumnRef} :
    ∀ clause ∈ groupClause columns, clause.toList.head? ≠ some 'W' := by
  unfold groupClause
  split_ifs <;> simp

theorem head?_ne_of_mem_orderClause {orderings : List (ColumnRef × Direction)} :
    ∀ clause ∈ orderClause orderings, clause.toList.head? ≠ some 'W' := by
  unfold orderClause
  split_ifs <;> simp

theorem head?_ne_of_mem_countClause {word : String}
    (hword : ∀ rest : String, (word ++ rest).toList.head? ≠ some 'W') {count : Option UInt64} :
    ∀ clause ∈ countClause word count, clause.toList.head? ≠ some 'W' := by
  cases count with
  | none => simp [countClause]
  | some count =>
    rw [countClause, List.forall_mem_singleton, String.append_assoc]
    exact hword _

/-- The clause of a filter stands in one place of a statement.  The clauses around it are those of
the statement without its filter, and they begin with other words. -/
theorem exists_clauses_eq (statement : Statement) : ∃ front back,
    statement.unfiltered.clauses = front ++ back ∧
      statement.clauses = front ++ whereClause statement.predicates ++ back ∧
      ∀ clause ∈ front ++ back, clause.toList.head? ≠ some 'W' := by
  cases statement with
  | selection columns source joins conditions groupBy orderBy limit offset =>
    refine ⟨["SELECT " ++ ColumnRef.listSql columns, "FROM " ++ quoteIdentifier source] ++
      joins.map Join.sql, groupClause groupBy ++ orderClause orderBy ++
      countClause "LIMIT" limit ++ countClause "OFFSET" offset, ?_, ?_, ?_⟩
    · simp [clauses, unfiltered, whereClause]
    · simp [clauses, predicates]
    · simp only [List.forall_mem_append]
      refine ⟨⟨by simp, head?_ne_of_mem_joins⟩, ⟨⟨?_, ?_⟩, ?_⟩, ?_⟩
      · exact head?_ne_of_mem_groupClause
      · exact head?_ne_of_mem_orderClause
      · exact head?_ne_of_mem_countClause fun rest => by simp
      · exact head?_ne_of_mem_countClause fun rest => by simp
  -- Nothing stands behind the clause in the other statements.
  | insertion target entries =>
    refine ⟨_, [], (List.append_nil _).symm, ?_, ?_⟩
    · simp [clauses, unfiltered, predicates, whereClause]
    · simp [clauses, unfiltered, rowSql]
  | assignment target entries conditions =>
    refine ⟨_, [], (List.append_nil _).symm, ?_, ?_⟩
    · simp [clauses, unfiltered, predicates, whereClause]
    · simp [clauses, unfiltered, whereClause]
  | deletion target conditions =>
    refine ⟨_, [], (List.append_nil _).symm, ?_, ?_⟩
    · simp [clauses, unfiltered, predicates, whereClause]
    · simp [clauses, unfiltered, whereClause]

/-- The clause of a filter as it is written. -/
theorem map_whereClause (conditions : List Predicate) :
    (whereClause conditions).map dropFinalBlanks =
      if Predicate.conjunctionSql conditions = "" then []
      else ["WHERE " ++ dropFinalBlanks (Predicate.conjunctionSql conditions)] := by
  by_cases hnone : conditions = []
  · subst hnone
    rfl
  · have htext : Predicate.conjunctionSql conditions ≠ "" :=
      fun h => hnone (Predicate.conjunctionSql_eq_empty_iff.1 h)
    rw [if_neg htext, whereClause, if_neg (by simpa using hnone), List.map_singleton,
      dropFinalBlanks_append _ (Predicate.exists_ne_blank_conjunctionSql hnone)]

/-- A statement has a clause that filters exactly when it has predicates. -/
theorem hasWhere_iff {statement : Statement} : statement.HasWhere ↔ statement.predicates ≠ [] := by
  obtain ⟨front, back, -, hclauses, hother⟩ := statement.exists_clauses_eq
  constructor
  · intro hhas hnone
    obtain ⟨clause, hmem, hwhere⟩ := hhas
    rw [written, hclauses, hnone, show whereClause [] = [] from rfl, List.append_nil] at hmem
    -- What is left are the other clauses, and dropping blanks does not change how one begins.
    obtain ⟨own, hown, rfl⟩ := List.mem_map.1 hmem
    exact hother own hown hwhere.of_dropFinalBlanks.head?_eq
  · intro hsome
    have htext : Predicate.conjunctionSql statement.predicates ≠ "" :=
      fun h => hsome (Predicate.conjunctionSql_eq_empty_iff.1 h)
    refine ⟨_, ?_, isWhere_append (dropFinalBlanks (Predicate.conjunctionSql statement.predicates))⟩
    rw [written, hclauses, List.map_append, List.map_append, map_whereClause, if_neg htext]
    simp

end Statement

/-! ## Statements that keep their filter -/

/-- Only a filter without a condition has an empty text. -/
theorem Filter.compile_eq_empty_iff {schema : Schema} {root : String} {filter : Filter}
    {text : String} (hcompile : filter.compile schema root = .ok text) :
    text = "" ↔ filter.paths = [] := by
  obtain ⟨predicates, hresolve, rfl⟩ := Except.map_eq_ok.1 hcompile
  rw [Predicate.conjunctionSql_eq_empty_iff]
  exact resolveNodes_eq_nil_iff hresolve

namespace Statement

/-- A statement filters by a filter: it has the clause that filters exactly when the filter has
a condition at some depth, the clause holds the text of the filter, and it is the only difference to
the statement without the filter. -/
structure KeepsFilter (schema : Schema) (root : String) (filter : Filter) (statement : Statement) :
    Prop where
  hasWhere_iff : statement.HasWhere ↔ filter.paths ≠ []
  paths_iff : filter.paths = [] ↔ filter.entries = []
  exists_text : ∃ text, filter.compile schema root = .ok text ∧ (text = "" ↔ filter.paths = []) ∧
    ∃ front back, statement.unfiltered.written = front ++ back ∧
      statement.written = front ++
        (if text = "" then [] else ["WHERE " ++ dropFinalBlanks text]) ++ back

variable {schema : Schema} {root : String} {statement : Statement}

/-- The statement of a call keeps the filter of the call. -/
theorem keepsFilter_of_call (call : Call) {filter : Filter}
    (hfilter : call.filter schema root = .ok filter)
    (hbuilt : call.statement schema root = .ok statement) :
    KeepsFilter schema root filter statement := by
  obtain ⟨own, hown, hresolve⟩ := Call.exists_filter_of_statement hbuilt
  rw [hfilter] at hown
  cases hown
  obtain ⟨front, back, hunfiltered, hclauses, -⟩ := statement.exists_clauses_eq
  have hcompile : filter.compile schema root =
      .ok (Predicate.conjunctionSql statement.predicates) := by
    rw [Filter.compile, hresolve]
    rfl
  refine ⟨?_, Filter.paths_eq_nil_iff, ?_⟩
  · rw [Statement.hasWhere_iff, ne_eq, ne_eq, Filter.resolveNodes_eq_nil_iff hresolve]
    rfl
  · refine ⟨_, hcompile, Filter.compile_eq_empty_iff hcompile, front.map dropFinalBlanks,
      back.map dropFinalBlanks, ?_, ?_⟩
    · rw [written, hunfiltered, List.map_append]
    · rw [written, hclauses, List.map_append, List.map_append, map_whereClause]

/-- A statement on many rows keeps the filter of its request. -/
theorem keepsFilter {request : Request}
    (hbuilt : find schema root request = .ok statement ∨
      (∃ item, update schema root item request = .ok statement) ∨
      remove schema root request = .ok statement) :
    KeepsFilter schema root request.filter statement := by
  rcases hbuilt with hfind | ⟨item, hupdate⟩ | hremove
  · exact keepsFilter_of_call (.find request) rfl hfind
  · exact keepsFilter_of_call (.update item request) rfl hupdate
  · exact keepsFilter_of_call (.remove request) rfl hremove

/-- Notes, known by a number. -/
def notesTable : Table :=
  ⟨"notes", [⟨"id", .int4, true, true, true, none⟩, ⟨"text", .text, false, false, true, none⟩], []⟩

/-- Nested groups that ask for nothing. -/
def hollowRequest : Request :=
  { Request.empty with
    filter := ⟨[.group .and [[], [.group .or [[.group .and []], []]]], .group .or []]⟩ }

/-- The same groups, beside a condition inside of groups and one whose value has no text. -/
def deepRequest : Request :=
  { Request.empty with
    filter := ⟨hollowRequest.filter.nodes ++
      [.group .or [[], [.group .and [[.field (.column "id") (.compare .lt (.int 9)) []]]]],
        .field (.column "text") (.compare .eq (.list [])) []]⟩
    limit := some 5 }

theorem keepsFilter_hollowRequest_deepRequest :
    (∃ statement, remove (Schema.empty.insert notesTable) "notes" hollowRequest = .ok statement ∧
      statement.sql = "DELETE FROM `notes`" ∧
      KeepsFilter (Schema.empty.insert notesTable) "notes" hollowRequest.filter statement) ∧
    ∃ statement, find (Schema.empty.insert notesTable) "notes" deepRequest = .ok statement ∧
      statement.sql = "SELECT `notes`.* FROM `notes`" ++
        " WHERE ((`notes`.`id` < 9)) AND `notes`.`text` = LIMIT 5" ∧
      KeepsFilter (Schema.empty.insert notesTable) "notes" deepRequest.filter statement := by
  constructor
  · exact ⟨_, rfl, by decide, keepsFilter (.inr (.inr rfl))⟩
  · exact ⟨_, rfl, by decide, keepsFilter (.inl rfl)⟩

end Statement

end TableQuery
