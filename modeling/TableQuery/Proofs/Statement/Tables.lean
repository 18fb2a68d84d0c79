import TableQuery.Proofs.Request
import TableQuery.Proofs.Statement.Built
import TableQuery.Proofs.Statement.References

/-!
# The tables of a selection

The joins of a selection are collected in one pass over the fields of its request, and its columns
are resolved in four others.  The two meet in a field path: a column that stands in a selection is
what some path of the request stands for, and the joins of that path are among the joins of the
request (`references_of_find`).

`SelectsFrom` says where the text of a selection introduces tables, and `ClosedSelection` what
follows for the columns in it.  None of them is qualified by a table that neither `FROM` nor an
`INNER JOIN` introduces, and no `INNER JOIN` starts from a table that is not introduced further left.
-/

/-! ## Columns of a filter -/

namespace TableQuery.Filter

variable {schema : Schema} {root : String}

/-- The columns that a filter compares are, in order, what the fields of its conditions stand
for. -/
theorem columnRefs_of_resolve {filter : Filter} {predicates : List Predicate}
    (hresolve : filter.resolve schema root = .ok predicates) :
    List.Forall₂ (fun entry ref => entry.1.columnRef schema root = .ok ref) filter.entries
      (Predicate.conjunctionColumns predicates) := by
  have hbecomes := entries_resolveNodes_of (fun node _ => entries_resolve node) hresolve
  rw [Predicate.conjunctionColumns_eq_map, List.forall₂_map_right_iff]
  exact hbecomes.imp fun _ _ hentry => hentry.1

/-- Every column that a filter compares is what one of its fields stands for. -/
theorem exists_path_of_mem_conjunctionColumns {filter : Filter} {predicates : List Predicate}
    (hresolve : filter.resolve schema root = .ok predicates) {column : ColumnRef}
    (hcolumn : column ∈ Predicate.conjunctionColumns predicates) :
    ∃ path ∈ filter.paths, path.columnRef schema root = .ok column := by
  obtain ⟨entry, hentry, hown⟩ :=
    Except.exists_of_mem (columnRefs_of_resolve hresolve) hcolumn
  exact ⟨entry.1, mem_paths_iff.2 ⟨entry.2, hentry⟩, hown⟩

end TableQuery.Filter

/-! ## Joins of a request -/

namespace TableQuery.Request

variable {schema : Schema} {root : String}

/-- The joins of several walks from the root, one walk after the other, lead from the root. -/
theorem grounded_flatMap {resolutions : List FieldPath.Resolution}
    (hchains : ∀ resolution ∈ resolutions,
      Join.Chain root resolution.joins resolution.column.table) :
    Join.Grounded root (resolutions.flatMap FieldPath.Resolution.joins) := by
  -- Every chain starts from the root, so the chains are added from the left one by one.
  induction resolutions using List.reverseRecOn with
  | nil => exact .nil root
  | append_singleton init resolution ih =>
    rw [List.flatMap_append, List.flatMap_singleton]
    have hinit := ih (fun other hmem => hchains other (List.mem_append_left _ hmem))
    have hlast := hchains resolution (List.mem_append_right _ List.mem_cons_self)
    exact hinit.append_chain hlast List.mem_cons_self

/-- The joins of a request lead from the root. -/
theorem grounded_joins {request : Request} {joins : List Join}
    (hjoins : request.joins schema root = .ok joins) : Join.Grounded root joins := by
  obtain ⟨resolutions, hresolutions, rfl⟩ := joins_eq_ok.1 hjoins
  refine (grounded_flatMap ?_).eraseDups
  intro resolution hmem
  obtain ⟨path, -, hpath⟩ := Except.exists_of_mem hresolutions hmem
  exact FieldPath.chain_of_resolve hpath

/-- The joins of a request bring in the table of every field that it names. -/
theorem mem_tables_of_columnRef {request : Request} {joins : List Join}
    (hjoins : request.joins schema root = .ok joins) {path : FieldPath}
    (hpath : path ∈ request.paths) {column : ColumnRef}
    (hcolumn : path.columnRef schema root = .ok column) :
    column.table ∈ Join.tables root joins := by
  obtain ⟨own, hown, rfl⟩ := Except.map_eq_ok.1 hcolumn
  refine Join.tables_mono ?_ (FieldPath.chain_of_resolve hown).mem_tables
  intro join hjoin
  exact (mem_joins_iff hjoins).2 ⟨path, hpath, own, hown, hjoin⟩

end TableQuery.Request

/-! ## Selections -/

namespace TableQuery.Statement

/-- The joins of a statement; only a selection has any. -/
def joins : Statement → List Join
  | .selection _ _ joins _ _ _ _ _ => joins
  | _ => []

/-- A selection from a root, by its text.  Behind the columns to select, `FROM` introduces the root;
behind it, there is one `INNER JOIN` for every join, which introduces its table.  No other clause
introduces one. -/
structure SelectsFrom (root : String) (statement : Statement) : Prop where
  text : statement.sql = String.intercalate " " (statement.spans.map Span.written)
  clauses : ∃ select rest, statement.spans =
      select :: [.words "FROM ", .table root] :: (statement.joins.map Join.spans ++ rest) ∧
    ∀ clause ∈ select :: rest, Span.introduced clause = []

/-- A selection in whose text every `INNER JOIN` starts from the root or from the target of one
further left, and every column is one of the root or of the target of an `INNER JOIN`: of those it
selects, those it joins on, those it compares at any depth, and those it groups and orders by. -/
structure ClosedSelection (root : String) (statement : Statement) : Prop extends
    SelectsFrom root statement where
  grounded : Join.Grounded root statement.joins
  refers : ∀ ref, Span.column ref ∈ statement.spans.flatten →
    ref.table ∈ Join.tables root statement.joins

section Text

variable {root : String} {columns groupBy : List ColumnRef} {joins : List Join}
  {predicates : List Predicate} {orderBy : List (ColumnRef × Direction)}
  {limit offset : Option UInt64}

/-- The text of a selection introduces its root and the targets of its joins. -/
theorem selectsFrom_selection : SelectsFrom root
    (selection columns root joins predicates groupBy orderBy limit offset) := by
  refine ⟨sql_eq_spans _, Span.trimmed (.words "SELECT " :: listSpans columns),
    (optionalClause "WHERE " conjunctionSpans predicates ++
      optionalClause "GROUP BY " listSpans groupBy ++
      optionalClause "ORDER BY " orderingSpans orderBy ++ countSpans "LIMIT" limit ++
      countSpans "OFFSET" offset).map Span.trimmed, ?_, ?_⟩
  · have hjoins : (joins.map Join.spans).map Span.trimmed = joins.map Join.spans := by
      rw [List.map_map]
      exact List.map_congr_left fun join _ => rfl
    simp only [spans, clauseSpans, Statement.joins, List.map_append, List.map_cons, hjoins,
      List.append_assoc, List.cons_append, List.nil_append]
    rfl
  · rw [List.forall_mem_cons, List.forall_mem_map, Span.introduced_trimmed]
    simp only [Span.introduced_trimmed, List.forall_mem_append]
    refine ⟨introduced_listSpans columns, ⟨⟨⟨?_, ?_⟩, ?_⟩, ?_⟩, ?_⟩
    · exact introduced_optionalClause (introduced_conjunctionSpans predicates) _
    · exact introduced_optionalClause (introduced_listSpans groupBy) _
    · exact introduced_optionalClause (introduced_orderingSpans orderBy) _
    · exact introduced_countSpans _ limit
    · exact introduced_countSpans _ offset

/-- A selection is closed if its joins lead from its root and bring in the tables of all columns
outside of them. -/
theorem closedSelection_of_grounded (hgrounded : Join.Grounded root joins)
    (hcolumns : ∀ column ∈ columns ++ Predicate.conjunctionColumns predicates ++ groupBy ++
      orderBy.map Prod.fst, column.table ∈ Join.tables root joins) :
    ClosedSelection root
      (selection columns root joins predicates groupBy orderBy limit offset) where
  toSelectsFrom := selectsFrom_selection
  grounded := hgrounded
  refers := by
    intro ref hmem
    rw [← Span.mem_references_iff, references_spans, mem_references_selection] at hmem
    rcases hmem with ⟨join, hjoin, rfl | rfl⟩ | houtside
    · exact List.mem_cons_of_mem root (List.mem_map_of_mem hjoin)
    · exact hgrounded.fromTable_mem hjoin
    · exact hcolumns ref houtside

end Text

variable {schema : Schema} {root : String} {request : Request} {statement : Statement}

/-- A column to select is what a selected field stands for, or stands for all of the root. -/
theorem eq_wildcard_or_exists_path {paths : List FieldPath} {columns : List ColumnRef}
    (hcolumns : FieldPath.columnRefs schema root paths = .ok columns) {column : ColumnRef}
    (hmem : column ∈ columns) :
    column = ⟨root, wildcard⟩ ∨ ∃ path ∈ paths, path.columnRef schema root = .ok column := by
  unfold FieldPath.columnRefs at hcolumns
  split at hcolumns
  · obtain ⟨_, -, heq⟩ := Except.bind_eq_ok.1 hcolumns
    cases heq
    exact .inl (List.mem_singleton.1 hmem)
  · exact .inr (Except.exists_of_mem (Except.mapM_eq_ok.1 hcolumns) hmem)

/-- A column to order by is what the field of an ordering stands for. -/
theorem exists_path_of_mem_orderBy {terms : List OrderTerm}
    {orderBy : List (ColumnRef × Direction)}
    (hterms : terms.mapM (resolveOrderTerm schema root) = .ok orderBy) {column : ColumnRef}
    (hmem : column ∈ orderBy.map Prod.fst) :
    ∃ path ∈ terms.map OrderTerm.path, path.columnRef schema root = .ok column := by
  obtain ⟨ordering, hordering, rfl⟩ := List.mem_map.1 hmem
  obtain ⟨term, hterm, hresolve⟩ := Except.exists_of_mem (Except.mapM_eq_ok.1 hterms) hordering
  obtain ⟨column, hcolumn, heq⟩ := Except.bind_eq_ok.1 hresolve
  cases heq
  exact ⟨term.path, List.mem_map_of_mem hterm, hcolumn⟩

/-- A selection that is built has the joins of its request.  Outside of them it refers to what the
fields of the request stand for, and otherwise to all columns of the root. -/
theorem selection_of_find (hfind : find schema root request = .ok statement) :
    ∃ columns joins predicates groupBy orderBy,
      statement = .selection columns root joins predicates groupBy orderBy request.limit
        request.offset ∧
      (∃ table, schema.table? root = some table) ∧
      request.joins schema root = .ok joins ∧
      ∀ column ∈ columns ++ Predicate.conjunctionColumns predicates ++ groupBy ++
        orderBy.map Prod.fst, column = ⟨root, wildcard⟩ ∨
          ∃ path ∈ request.paths, path.columnRef schema root = .ok column := by
  obtain ⟨columns, joins, predicates, groupBy, orderBy, hcolumns, htable, hjoins, hpredicates,
    hgroupBy, horderBy, rfl⟩ := find_eq_ok.1 hfind
  refine ⟨columns, joins, predicates, groupBy, orderBy, rfl, htable, hjoins, ?_⟩
  intro column hcolumn
  simp only [Request.paths, List.mem_append] at hcolumn ⊢
  rcases hcolumn with ((hselected | hcompared) | hgrouped) | hordered
  · rcases eq_wildcard_or_exists_path hcolumns hselected with hroot | ⟨path, hpath, hresolve⟩
    · exact .inl hroot
    · exact .inr ⟨path, .inl (.inl (.inl hpath)), hresolve⟩
  · obtain ⟨path, hpath, hresolve⟩ :=
      Filter.exists_path_of_mem_conjunctionColumns hpredicates hcompared
    exact .inr ⟨path, .inl (.inl (.inr hpath)), hresolve⟩
  · obtain ⟨path, hpath, hresolve⟩ := Except.exists_of_mem (Except.mapM_eq_ok.1 hgroupBy) hgrouped
    exact .inr ⟨path, .inl (.inr hpath), hresolve⟩
  · obtain ⟨path, hpath, hresolve⟩ := exists_path_of_mem_orderBy horderBy hordered
    exact .inr ⟨path, .inr hpath, hresolve⟩

/-- A reference in a selection stands for all columns of the root, or for what a field of the
request stands for, or it is a side of a hop of such a field. -/
theorem references_of_find (hfind : find schema root request = .ok statement) {ref : ColumnRef}
    (hmem : ref ∈ statement.references) :
    ref = ⟨root, wildcard⟩ ∨
      (∃ path ∈ request.paths, path.columnRef schema root = .ok ref) ∨
      ∃ path ∈ request.paths, ∃ resolution, path.resolve schema root = .ok resolution ∧
        ∃ join ∈ resolution.joins, ref = join.toRef ∨ ref = join.fromRef := by
  obtain ⟨columns, joins, predicates, groupBy, orderBy, rfl, -, hjoins, hcolumns⟩ :=
    selection_of_find hfind
  rcases mem_references_selection.1 hmem with ⟨join, hjoin, hside⟩ | houtside
  · obtain ⟨path, hpath, resolution, hresolve, hhop⟩ := (Request.mem_joins_iff hjoins).1 hjoin
    exact .inr (.inr ⟨path, hpath, resolution, hresolve, join, hhop, hside⟩)
  · rcases hcolumns ref houtside with hroot | hfield
    · exact .inl hroot
    · exact .inr (.inl hfield)

/-- A selection that is built refers to its own tables only. -/
theorem closedSelection_of_find (hfind : find schema root request = .ok statement) :
    statement.ClosedSelection root := by
  obtain ⟨columns, joins, predicates, groupBy, orderBy, rfl, -, hjoins, hcolumns⟩ :=
    selection_of_find hfind
  refine closedSelection_of_grounded (Request.grounded_joins hjoins) ?_
  intro column hcolumn
  rcases hcolumns column hcolumn with rfl | ⟨path, hpath, hresolve⟩
  · exact List.mem_cons_self
  · exact Request.mem_tables_of_columnRef hjoins hpath hresolve

/-- Every selection, of all rows under a filter or of the row with some key, refers to its own
tables only. -/
theorem closedSelection
    (hbuilt : find schema root request = .ok statement ∨
      ∃ key, findOne schema root key request = .ok statement) :
    statement.ClosedSelection root := by
  rcases hbuilt with hfind | ⟨key, hfindOne⟩
  · exact closedSelection_of_find hfind
  · obtain ⟨narrowed, -, hfind⟩ := findOne_eq_ok.1 hfindOne
    exact closedSelection_of_find hfind

/-- People with a town and a boss, who is one of them; a town has a mayor. -/
def cyclicSchema : Schema :=
  (Schema.empty.insert ⟨"people", [⟨"id", .int4, true, true, true, none⟩],
    [⟨"boss", "people", "boss_id", "id"⟩, ⟨"town", "towns", "town_id", "id"⟩]⟩).insert
      ⟨"towns", [], [⟨"mayor", "people", "mayor_id", "id"⟩]⟩

/-- The mayors of the towns of people whose boss lives in a large town. -/
def cyclicRequest : Request :=
  { Request.empty with
    columns := some [.via "town" (.via "mayor" (.column "name"))]
    filter := ⟨[.group .or [[.field (.via "boss" (.via "town" (.column "size")))
      (.compare .gt (.int 9)) []]]]⟩
    orderBy := [⟨.via "boss" (.column "age"), .descending⟩] }

theorem closedSelection_cyclicRequest :
    let selection := Statement.selection [⟨"people", "name"⟩] "people"
      [⟨"people", "town_id", "towns", "id"⟩, ⟨"towns", "mayor_id", "people", "id"⟩,
        ⟨"people", "boss_id", "people", "id"⟩]
      [.group .or [[.comparison ⟨"towns", "size"⟩ (.compare .gt (.int 9))]]]
      [] [(⟨"people", "age"⟩, .descending)] none none
    find cyclicSchema "people" cyclicRequest = .ok selection ∧
      selection.sql = "SELECT `people`.`name` FROM `people` " ++
        "INNER JOIN `towns` ON `towns`.`id` = `people`.`town_id` " ++
        "INNER JOIN `people` ON `people`.`id` = `towns`.`mayor_id` " ++
        "INNER JOIN `people` ON `people`.`id` = `people`.`boss_id` " ++
        "WHERE (`towns`.`size` > 9) ORDER BY `people`.`age` DESC" ∧
      selection.ClosedSelection "people" := by
  intro selection
  have hfind : find cyclicSchema "people" cyclicRequest = .ok selection := rfl
  exact ⟨hfind, by decide +kernel, closedSelection (.inl hfind)⟩

end TableQuery.Statement
