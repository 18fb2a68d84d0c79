import TableQuery.Proofs.Filter.Pieces
import TableQuery.Proofs.Statement.Blanks

/-!
# The references in a statement

A statement refers to columns in its list of columns, on both sides of its joins, in its conditions
at any depth, and in what it groups and orders by.  `Statement.references` is all of these; the
columns that a statement writes are named without a table and are none of them.

The text of a statement says the same.  `Statement.spans` are its clauses in spans: a table that is
introduced, a column that is referred to, or words.  `sql_eq_spans` puts the text together from
them, and `references_spans` finds the references there, from left to right.
-/

namespace TableQuery.Predicate

mutual

/-- The columns that a predicate compares. -/
def columns : Predicate → List ColumnRef
  | .comparison column _ => [column]
  | .group _ members => memberColumns members
termination_by structural predicate => predicate

/-- The columns that the members of a group compare. -/
def memberColumns : List (List Predicate) → List ColumnRef
  | [] => []
  | member :: rest => conjunctionColumns member ++ memberColumns rest
termination_by structural members => members

/-- The columns that several predicates compare. -/
def conjunctionColumns : List Predicate → List ColumnRef
  | [] => []
  | predicate :: rest => predicate.columns ++ conjunctionColumns rest
termination_by structural predicates => predicates

end

/-- Predicates have the columns of their comparisons, if each of them has. -/
theorem conjunctionColumns_eq_map_of {predicates : List Predicate}
    (hcolumns : ∀ predicate ∈ predicates,
      predicate.columns = (comparisons [predicate]).map Prod.fst) :
    conjunctionColumns predicates = (comparisons predicates).map Prod.fst := by
  induction predicates with
  | nil => rfl
  | cons predicate rest ih =>
    rw [List.forall_mem_cons] at hcolumns
    have hcomparisons : comparisons (predicate :: rest) =
        comparisons [predicate] ++ comparisons rest := comparisons_append [predicate] rest
    rw [conjunctionColumns, hcolumns.1, ih hcolumns.2, hcomparisons, List.map_append]

/-- A predicate has the columns of its comparisons. -/
theorem columns_eq_map (predicate : Predicate) :
    predicate.columns = (comparisons [predicate]).map Prod.fst := by
  induction predicate with
  | comparison column condition => rfl
  | group connective members ih =>
    rw [columns, comparisons_group]
    induction members with
    | nil => rfl
    | cons member rest ihrest =>
      rw [List.forall_mem_cons] at ih
      rw [memberColumns, conjunctionColumns_eq_map_of ih.1, ihrest ih.2, List.flatMap_cons,
        List.map_append]

/-- The columns of predicates are those of their comparisons, from left to right. -/
theorem conjunctionColumns_eq_map (predicates : List Predicate) :
    conjunctionColumns predicates = (comparisons predicates).map Prod.fst :=
  conjunctionColumns_eq_map_of fun predicate _ => columns_eq_map predicate

end TableQuery.Predicate

namespace TableQuery

/-- The columns that a join refers to. -/
def Join.references (join : Join) : List ColumnRef :=
  [join.toRef, join.fromRef]

/-- Every reference in a statement, in written order. -/
def Statement.references : Statement → List ColumnRef
  | .selection columns _ joins predicates groupBy orderBy _ _ =>
    columns ++ joins.flatMap Join.references ++ Predicate.conjunctionColumns predicates ++
      groupBy ++ orderBy.map Prod.fst
  | .insertion _ _ => []
  | .assignment _ _ predicates => Predicate.conjunctionColumns predicates
  | .deletion _ predicates => Predicate.conjunctionColumns predicates

/-! ## Spans -/

/-- A stretch of the text of a statement. -/
inductive Span where
  /-- Words that name no table. -/
  | words (text : String)
  /-- The name of a table where the statement introduces it. -/
  | table (name : String)
  /-- A column, named together with the table that it is read from. -/
  | column (ref : ColumnRef)

namespace Span

/-- The text of a span.  Names stand between backticks; the star for all columns does not. -/
def text : Span → String
  | words text => text
  | table name => "`" ++ name ++ "`"
  | column ref =>
    if ref.column = "*" then "`" ++ ref.table ++ "`.*"
    else "`" ++ ref.table ++ "`.`" ++ ref.column ++ "`"

/-- The text of spans in a row. -/
def written (spans : List Span) : String :=
  String.join (spans.map text)

/-- The table that a span introduces, if it introduces one. -/
def table? : Span → Option String
  | table name => some name
  | _ => none

/-- The column that a span refers to, if it refers to one. -/
def column? : Span → Option ColumnRef
  | column ref => some ref
  | _ => none

/-- The tables that spans introduce, from left to right. -/
def introduced (spans : List Span) : List String :=
  spans.filterMap table?

/-- The columns that spans refer to, from left to right. -/
def references (spans : List Span) : List ColumnRef :=
  spans.filterMap column?

/-- The span without the blanks at its end.  A name ends in none. -/
def trim : Span → Span
  | words text => words (Statement.dropFinalBlanks text)
  | span => span

/-- The spans without the blanks at their end. -/
def trimmed (spans : List Span) : List Span :=
  spans.modifyLast trim

/-- There is more to the span than blanks. -/
def IsVisible (span : Span) : Prop :=
  ∃ c ∈ span.text.toList, c ≠ ' '

variable {span : Span} {spans more : List Span}

@[simp] theorem text_words (content : String) : (words content).text = content := rfl

@[simp] theorem text_table (name : String) : (table name).text = quoteIdentifier name := rfl

@[simp] theorem text_column (ref : ColumnRef) : (column ref).text = ref.sql := by
  apply String.toList_injective
  rw [text, ColumnRef.sql, wildcard]
  split <;> simp [quoteIdentifier]

theorem endsSolid_table (name : String) : EndsSolid (table name).text :=
  .append _ ⟨[], '`', by decide, by decide⟩

theorem endsSolid_column (ref : ColumnRef) : EndsSolid (column ref).text := by
  rw [text]
  split
  · exact .append _ ⟨['`', '.'], '*', by decide, by decide⟩
  · exact .append _ ⟨[], '`', by decide, by decide⟩

theorem isVisible_of_endsSolid (hsolid : EndsSolid span.text) : span.IsVisible := by
  obtain ⟨front, last, htext, hlast⟩ := hsolid
  exact ⟨last, htext ▸ List.mem_append_right _ List.mem_cons_self, hlast⟩

theorem isVisible_table (name : String) : (table name).IsVisible :=
  isVisible_of_endsSolid (endsSolid_table name)

theorem isVisible_column (ref : ColumnRef) : (column ref).IsVisible :=
  isVisible_of_endsSolid (endsSolid_column ref)

theorem text_trim (span : Span) : span.trim.text = Statement.dropFinalBlanks span.text := by
  cases span with
  | words text => rfl
  | table name => exact (Statement.dropFinalBlanks_of_endsSolid (endsSolid_table name)).symm
  | column ref => exact (Statement.dropFinalBlanks_of_endsSolid (endsSolid_column ref)).symm

@[simp] theorem written_nil : written [] = "" := rfl

theorem written_append : written (spans ++ more) = written spans ++ written more := by
  rw [written, List.map_append, String.join_append, ← written, ← written]

@[simp] theorem written_cons : written (span :: spans) = span.text ++ written spans := by
  rw [written, List.map_cons, String.join_cons, ← written]

theorem written_singleton : written [span] = span.text := by
  rw [written_cons, written_nil, String.append_empty]

/-- Blanks are dropped of the last span only, as there is more to it than blanks. -/
theorem written_trimmed (hspans : spans ≠ []) (hvisible : ∀ span ∈ spans, span.IsVisible) :
    written (trimmed spans) = Statement.dropFinalBlanks (written spans) := by
  obtain ⟨front, last, rfl⟩ : ∃ front last, spans = front ++ [last] :=
    ⟨spans.dropLast, spans.getLast hspans, (List.dropLast_append_getLast hspans).symm⟩
  have hlast := hvisible last (List.mem_append_right _ List.mem_cons_self)
  rw [trimmed, List.modifyLast_concat, written_append, written_append, written_singleton,
    written_singleton, text_trim, Statement.dropFinalBlanks_append _ hlast]

/-- Trimming leaves the names as they are. -/
theorem filterMap_trimmed {β : Type} {pick : Span → Option β}
    (hpick : ∀ span : Span, pick span.trim = pick span) (spans : List Span) :
    (trimmed spans).filterMap pick = spans.filterMap pick := by
  rcases List.eq_nil_or_concat spans with rfl | ⟨front, last, rfl⟩
  · rfl
  · rw [List.concat_eq_append, trimmed, List.modifyLast_concat, List.filterMap_append,
      List.filterMap_append]
    simp only [List.filterMap_cons, hpick]

theorem introduced_trimmed (spans : List Span) : introduced (trimmed spans) = introduced spans :=
  filterMap_trimmed (fun span => by cases span <;> rfl) spans

theorem references_trimmed (spans : List Span) : references (trimmed spans) = references spans :=
  filterMap_trimmed (fun span => by cases span <;> rfl) spans

theorem introduced_flatten (clauses : List (List Span)) :
    introduced clauses.flatten = clauses.flatMap introduced := by
  rw [introduced, List.filterMap_flatten, List.flatMap_def]
  rfl

theorem references_flatten (clauses : List (List Span)) :
    references clauses.flatten = clauses.flatMap references := by
  rw [references, List.filterMap_flatten, List.flatMap_def]
  rfl

theorem mem_references_iff {ref : ColumnRef} : ref ∈ references spans ↔ column ref ∈ spans := by
  rw [references, List.mem_filterMap]
  constructor
  · rintro ⟨span, hmem, hspan⟩
    cases span <;> cases hspan
    exact hmem
  · intro hmem
    exact ⟨_, hmem, rfl⟩

/-- Spans with commas between. -/
def separated (lists : List (List Span)) : List Span :=
  List.intercalate [.words ", "] lists

theorem written_separated (lists : List (List Span)) :
    written (separated lists) = String.intercalate ", " (lists.map written) :=
  join_intercalate text lists

theorem introduced_separated (lists : List (List Span)) :
    introduced (separated lists) = lists.flatMap introduced :=
  filterMap_intercalate rfl lists

theorem references_separated (lists : List (List Span)) :
    references (separated lists) = lists.flatMap references :=
  filterMap_intercalate rfl lists

end Span

/-! ## Statements in spans -/

/-- The spans of a join. -/
def Join.spans (join : Join) : List Span :=
  [.words "INNER JOIN ", .table join.toTable, .words " ON ", .column join.toRef, .words " = ",
    .column join.fromRef]

/-- The spans of a piece of a condition. -/
def Piece.spans : Piece → List Span
  | comparison column condition => [.column column, .words (" " ++ condition.sql)]
  | piece => [.words piece.sql]

namespace Statement

/-- The spans of a list of columns. -/
def listSpans (refs : List ColumnRef) : List Span :=
  Span.separated (refs.map fun ref => [.column ref])

/-- The spans of predicates that all have to hold. -/
def conjunctionSpans (predicates : List Predicate) : List Span :=
  (Predicate.conjunctionPieces predicates).flatMap Piece.spans

/-- The spans of the columns of an ordering, each with its direction. -/
def orderingSpans (orderings : List (ColumnRef × Direction)) : List Span :=
  Span.separated (orderings.map fun ordering =>
    [.column ordering.1, .words (" " ++ ordering.2.sql)])

/-- The clause of a word and what a list is written as, if there is anything in the list. -/
def optionalClause {α : Type} (word : String) (inner : List α → List Span) (list : List α) :
    List (List Span) :=
  if list.isEmpty then [] else [.words word :: inner list]

/-- The clause that holds a number, if there is one. -/
def countSpans (word : String) : Option UInt64 → List (List Span)
  | some count => [[.words (word ++ " " ++ toString count.toNat)]]
  | none => []

/-- The clauses of a statement in spans. -/
def clauseSpans : Statement → List (List Span)
  | .selection columns source joins predicates groupBy orderBy limit offset =>
    [.words "SELECT " :: listSpans columns, [.words "FROM ", .table source]] ++
      joins.map Join.spans ++ optionalClause "WHERE " conjunctionSpans predicates ++
      optionalClause "GROUP BY " listSpans groupBy ++
      optionalClause "ORDER BY " orderingSpans orderBy ++
      countSpans "LIMIT" limit ++ countSpans "OFFSET" offset
  | .insertion target entries => [[.words "INSERT INTO ", .table target], [.words (rowSql entries)]]
  | .assignment target entries predicates =>
    [[.words "UPDATE ", .table target],
      [.words ("SET " ++ String.intercalate ", " (entries.map assignmentSql))]] ++
      optionalClause "WHERE " conjunctionSpans predicates
  | .deletion target predicates =>
    [[.words "DELETE FROM ", .table target]] ++
      optionalClause "WHERE " conjunctionSpans predicates

/-- The clauses of a statement in spans, as they are written. -/
def spans (statement : Statement) : List (List Span) :=
  statement.clauseSpans.map Span.trimmed

end Statement

/-! ## The text -/

open TableQuery.Span

theorem Join.written_spans (join : Join) : written join.spans = join.sql := by
  unfold Join.spans Join.sql
  simp only [written_cons, written_nil, text_column, text_table, text_words, String.append_empty,
    String.append_assoc]

theorem Piece.written_spans (piece : Piece) : written piece.spans = piece.sql := by
  cases piece with
  | comparison column condition =>
    rw [spans, written_cons, written_singleton, text_column, text_words, sql, String.append_assoc]
  | opening | closing | connective => exact written_singleton

theorem Piece.written_flatMap_spans (pieces : List Piece) :
    written (pieces.flatMap spans) = Piece.text pieces := by
  induction pieces with
  | nil => rfl
  | cons piece rest ih =>
    rw [List.flatMap_cons, written_append, written_spans, ih, Piece.text]

namespace Statement

theorem written_listSpans (refs : List ColumnRef) :
    written (listSpans refs) = ColumnRef.listSql refs := by
  rw [listSpans, written_separated, List.map_map, ColumnRef.listSql]
  refine congrArg _ (List.map_congr_left fun ref _ => ?_)
  rw [Function.comp_apply, written_singleton, text_column]

theorem written_orderingSpans (orderings : List (ColumnRef × Direction)) :
    written (orderingSpans orderings) = String.intercalate ", " (orderings.map orderTermSql) := by
  rw [orderingSpans, written_separated, List.map_map]
  refine congrArg _ (List.map_congr_left fun ordering _ => ?_)
  rw [Function.comp_apply, written_cons, written_singleton, text_column, text_words, orderTermSql,
    String.append_assoc]

theorem written_conjunctionSpans (predicates : List Predicate) :
    written (conjunctionSpans predicates) = Predicate.conjunctionSql predicates := by
  rw [conjunctionSpans, Piece.written_flatMap_spans, ← Predicate.conjunctionSql_eq_text]

theorem map_written_optionalClause {α : Type} (word : String) (inner : List α → List Span)
    (list : List α) : (optionalClause word inner list).map written =
      if list.isEmpty then [] else [word ++ written (inner list)] := by
  unfold optionalClause
  split
  · rfl
  · rw [List.map_singleton, written_cons, text_words]

theorem map_written_countSpans (word : String) (count : Option UInt64) :
    (countSpans word count).map written = countClause word count := by
  cases count with
  | none => rfl
  | some count => rw [countSpans, List.map_singleton, written_singleton, text_words, countClause]

/-- The clauses of a statement are written span by span. -/
theorem map_written_clauseSpans (statement : Statement) :
    statement.clauseSpans.map written = statement.clauses := by
  cases statement with
  | selection columns source joins predicates groupBy orderBy limit offset =>
    have hjoins : (joins.map Join.spans).map written = joins.map Join.sql := by
      rw [List.map_map]
      exact List.map_congr_left fun join _ => join.written_spans
    simp only [clauseSpans, clauses, List.map_append, List.map_cons, List.map_nil, hjoins,
      map_written_optionalClause, map_written_countSpans, written_cons, written_nil,
      written_listSpans, written_conjunctionSpans, written_orderingSpans, text_words, text_table,
      String.append_empty]
    rfl
  | insertion target entries =>
    simp only [clauseSpans, clauses, List.map_cons, List.map_nil, written_cons, written_nil,
      text_words, text_table, String.append_empty]
  | assignment target entries predicates =>
    simp only [clauseSpans, clauses, List.map_append, List.map_cons, List.map_nil,
      map_written_optionalClause, written_conjunctionSpans, written_cons, written_nil, text_words,
      text_table, String.append_empty]
    rfl
  | deletion target predicates =>
    simp only [clauseSpans, clauses, List.map_append, List.map_cons, List.map_nil,
      map_written_optionalClause, written_conjunctionSpans, written_cons, written_nil, text_words,
      text_table, String.append_empty]
    rfl

end Statement

theorem Operator.exists_ne_blank_sql (operator : Operator) :
    ∃ c ∈ operator.sql.toList, c ≠ ' ' := by
  have hany : operator.sql.toList.any (fun c => c ≠ ' ') = true := by
    cases operator with
    | compare comparison => cases comparison <;> rfl
    | among negated => cases negated <;> rfl
    | between negated => cases negated <;> rfl
  simpa using hany

theorem Piece.isVisible_of_mem_spans (piece : Piece) : ∀ span ∈ piece.spans, span.IsVisible := by
  cases piece with
  | comparison column condition =>
    obtain ⟨c, hmem, hc⟩ := condition.operator.exists_ne_blank_sql
    have hwords : (Span.words (" " ++ condition.sql)).IsVisible := by
      refine ⟨c, ?_, hc⟩
      simp [Condition.sql, hmem]
    simp [spans, hwords, isVisible_column]
  | opening => exact List.forall_mem_singleton.2 ⟨'(', by decide, by decide⟩
  | closing => exact List.forall_mem_singleton.2 ⟨')', by decide, by decide⟩
  | connective word =>
    refine List.forall_mem_singleton.2 ?_
    cases word
    · exact ⟨'A', by decide, by decide⟩
    · exact ⟨'O', by decide, by decide⟩

namespace Statement

theorem isVisible_of_mem_listSpans (refs : List ColumnRef) :
    ∀ span ∈ listSpans refs, span.IsVisible := by
  refine forall_mem_intercalate ⟨',', by decide, by decide⟩ ?_
  simp [isVisible_column]

theorem isVisible_of_mem_orderingSpans (orderings : List (ColumnRef × Direction)) :
    ∀ span ∈ orderingSpans orderings, span.IsVisible := by
  have hdirection : ∀ direction : Direction, (Span.words (" " ++ direction.sql)).IsVisible := by
    intro direction
    cases direction
    · exact ⟨'A', by decide, by decide⟩
    · exact ⟨'D', by decide, by decide⟩
  refine forall_mem_intercalate ⟨',', by decide, by decide⟩ ?_
  intro list hlist
  obtain ⟨ordering, -, rfl⟩ := List.mem_map.1 hlist
  simp [isVisible_column, hdirection]

theorem isVisible_of_mem_conjunctionSpans (predicates : List Predicate) :
    ∀ span ∈ conjunctionSpans predicates, span.IsVisible := by
  intro span hmem
  obtain ⟨piece, -, hspan⟩ := List.mem_flatMap.1 hmem
  exact piece.isVisible_of_mem_spans span hspan

/-- There is something to write in the clause, and every span of it is more than blanks. -/
structure IsSolidClause (clause : List Span) : Prop where
  ne_nil : clause ≠ []
  isVisible : ∀ span ∈ clause, span.IsVisible

theorem isSolidClause_cons {word : String} {spans : List Span}
    (hword : ∃ c ∈ word.toList, c ≠ ' ') (hspans : ∀ span ∈ spans, span.IsVisible) :
    IsSolidClause (.words word :: spans) :=
  ⟨List.cons_ne_nil _ _, List.forall_mem_cons.2 ⟨hword, hspans⟩⟩

theorem isSolidClause_join (join : Join) : IsSolidClause join.spans := by
  have hon : (Span.words " ON ").IsVisible := ⟨'O', by decide, by decide⟩
  have hequal : (Span.words " = ").IsVisible := ⟨'=', by decide, by decide⟩
  refine isSolidClause_cons ⟨'I', by decide, by decide⟩ ?_
  simp [isVisible_table, isVisible_column, hon, hequal]

theorem isSolidClause_of_mem_optionalClause {α : Type} {word : String} {inner : List α → List Span}
    (hword : ∃ c ∈ word.toList, c ≠ ' ') {list : List α}
    (hinner : ∀ span ∈ inner list, span.IsVisible) :
    ∀ clause ∈ optionalClause word inner list, IsSolidClause clause := by
  unfold optionalClause
  split
  · exact fun _ hmem => nomatch hmem
  · exact List.forall_mem_singleton.2 (isSolidClause_cons hword hinner)

theorem isSolidClause_of_mem_countSpans {word : String} (hword : ∃ c ∈ word.toList, c ≠ ' ')
    (count : Option UInt64) : ∀ clause ∈ countSpans word count, IsSolidClause clause := by
  obtain ⟨c, hmem, hc⟩ := hword
  cases count with
  | none => exact fun _ hmem => nomatch hmem
  | some count =>
    refine List.forall_mem_singleton.2 (isSolidClause_cons ⟨c, ?_, hc⟩ fun _ hmem => nomatch hmem)
    simp [hmem]

theorem isSolidClause_of_mem_clauseSpans (statement : Statement) :
    ∀ clause ∈ statement.clauseSpans, IsSolidClause clause := by
  have htarget : ∀ {word name : String}, (∃ c ∈ word.toList, c ≠ ' ') →
      IsSolidClause [.words word, .table name] := fun hword =>
    isSolidClause_cons hword (List.forall_mem_singleton.2 (isVisible_table _))
  have hwhere : ∀ predicates, ∀ clause ∈ optionalClause "WHERE " conjunctionSpans predicates,
      IsSolidClause clause := fun predicates =>
    isSolidClause_of_mem_optionalClause ⟨'W', by decide, by decide⟩
      (isVisible_of_mem_conjunctionSpans predicates)
  have hwords : ∀ {word : String}, (∃ c ∈ word.toList, c ≠ ' ') → IsSolidClause [.words word] :=
    fun hword => isSolidClause_cons hword fun _ hmem => nomatch hmem
  cases statement with
  | selection columns source joins predicates groupBy orderBy limit offset =>
    simp only [clauseSpans, List.forall_mem_append, List.forall_mem_cons, List.forall_mem_map]
    refine ⟨⟨⟨⟨⟨⟨⟨?_, ?_, nofun⟩, ?_⟩, hwhere predicates⟩, ?_⟩, ?_⟩, ?_⟩, ?_⟩
    · exact isSolidClause_cons ⟨'S', by decide, by decide⟩ (isVisible_of_mem_listSpans columns)
    · exact htarget ⟨'F', by decide, by decide⟩
    · exact fun join _ => isSolidClause_join join
    · exact isSolidClause_of_mem_optionalClause ⟨'G', by decide, by decide⟩
        (isVisible_of_mem_listSpans groupBy)
    · exact isSolidClause_of_mem_optionalClause ⟨'O', by decide, by decide⟩
        (isVisible_of_mem_orderingSpans orderBy)
    · exact isSolidClause_of_mem_countSpans ⟨'L', by decide, by decide⟩ limit
    · exact isSolidClause_of_mem_countSpans ⟨'O', by decide, by decide⟩ offset
  | insertion target entries =>
    simp only [clauseSpans, List.forall_mem_cons]
    refine ⟨htarget ⟨'I', by decide, by decide⟩, hwords ⟨'(', ?_, by decide⟩, nofun⟩
    simp [rowSql]
  | assignment target entries predicates =>
    simp only [clauseSpans, List.forall_mem_append, List.forall_mem_cons]
    refine ⟨⟨htarget ⟨'U', by decide, by decide⟩, hwords ⟨'S', ?_, by decide⟩, nofun⟩,
      hwhere predicates⟩
    simp
  | deletion target predicates =>
    simp only [clauseSpans, List.forall_mem_append, List.forall_mem_cons]
    exact ⟨⟨htarget ⟨'D', by decide, by decide⟩, nofun⟩, hwhere predicates⟩

/-- The text of a statement is written span by span, with single blanks between the clauses. -/
theorem sql_eq_spans (statement : Statement) :
    statement.sql = String.intercalate " " (statement.spans.map written) := by
  rw [sql, spans, ← map_written_clauseSpans, List.map_map, List.map_map]
  refine congrArg _ (List.map_congr_left fun clause hmem => ?_)
  have hclause := statement.isSolidClause_of_mem_clauseSpans clause hmem
  exact (written_trimmed hclause.ne_nil hclause.isVisible).symm

end Statement

/-! ## The names in the text -/

/-- The comparisons of a condition are what its pieces refer to. -/
theorem Piece.references_flatMap_spans (pieces : List Piece) :
    Span.references (pieces.flatMap spans) = (comparisons pieces).map Prod.fst := by
  unfold Span.references comparisons
  induction pieces with
  | nil => rfl
  | cons piece rest ih =>
    rw [List.flatMap_cons, List.filterMap_append, ih]
    cases piece <;> rfl

theorem Piece.introduced_flatMap_spans (pieces : List Piece) :
    introduced (pieces.flatMap spans) = [] := by
  unfold introduced
  induction pieces with
  | nil => rfl
  | cons piece rest ih =>
    rw [List.flatMap_cons, List.filterMap_append, ih]
    cases piece <;> rfl

namespace Statement

@[simp] theorem references_listSpans (refs : List ColumnRef) :
    Span.references (listSpans refs) = refs := by
  rw [listSpans, references_separated, List.flatMap_map]
  exact List.flatMap_singleton' refs

@[simp] theorem introduced_listSpans (refs : List ColumnRef) :
    Span.introduced (listSpans refs) = [] := by
  rw [listSpans, introduced_separated, List.flatMap_map]
  exact List.flatMap_eq_nil_iff.2 fun _ _ => rfl

@[simp] theorem references_orderingSpans (orderings : List (ColumnRef × Direction)) :
    Span.references (orderingSpans orderings) = orderings.map Prod.fst := by
  rw [orderingSpans, references_separated, List.flatMap_map, List.map_eq_flatMap]
  rfl

@[simp] theorem introduced_orderingSpans (orderings : List (ColumnRef × Direction)) :
    Span.introduced (orderingSpans orderings) = [] := by
  rw [orderingSpans, introduced_separated, List.flatMap_map]
  exact List.flatMap_eq_nil_iff.2 fun _ _ => rfl

@[simp] theorem references_conjunctionSpans (predicates : List Predicate) :
    Span.references (conjunctionSpans predicates) = Predicate.conjunctionColumns predicates := by
  rw [conjunctionSpans, Piece.references_flatMap_spans, Predicate.conjunctionColumns_eq_map]
  rfl

@[simp] theorem introduced_conjunctionSpans (predicates : List Predicate) :
    Span.introduced (conjunctionSpans predicates) = [] :=
  Piece.introduced_flatMap_spans _

theorem references_optionalClause {α : Type} {inner : List α → List Span}
    (hnil : Span.references (inner []) = []) (word : String) (list : List α) :
    (optionalClause word inner list).flatMap Span.references = Span.references (inner list) := by
  unfold optionalClause
  cases list with
  | nil => exact hnil.symm
  | cons a rest => exact List.flatMap_singleton _ _

theorem introduced_optionalClause {α : Type} {inner : List α → List Span} {list : List α}
    (hinner : Span.introduced (inner list) = []) (word : String) :
    ∀ clause ∈ optionalClause word inner list, Span.introduced clause = [] := by
  unfold optionalClause
  split
  · exact nofun
  · exact List.forall_mem_singleton.2 hinner

theorem references_countSpans (word : String) (count : Option UInt64) :
    (countSpans word count).flatMap Span.references = [] := by
  cases count <;> rfl

theorem introduced_countSpans (word : String) (count : Option UInt64) :
    ∀ clause ∈ countSpans word count, Span.introduced clause = [] := by
  cases count with
  | none => exact nofun
  | some count => exact List.forall_mem_singleton.2 rfl

/-- The text of a statement refers to its references, from left to right. -/
theorem references_spans (statement : Statement) :
    Span.references statement.spans.flatten = statement.references := by
  rw [references_flatten, spans, List.flatMap_map]
  simp only [references_trimmed]
  cases statement with
  | selection columns source joins predicates groupBy orderBy limit offset =>
    have hjoins :
        (joins.map Join.spans).flatMap Span.references = joins.flatMap Join.references := by
      rw [List.flatMap_map]
      rfl
    have hselect : Span.references (.words "SELECT " :: listSpans columns) = columns :=
      references_listSpans columns
    have hsource : Span.references [.words "FROM ", .table source] = [] := rfl
    simp only [clauseSpans, List.flatMap_append, List.flatMap_cons, List.flatMap_nil, hselect,
      hsource, hjoins, references_optionalClause (references_conjunctionSpans []),
      references_optionalClause (references_listSpans []),
      references_optionalClause (references_orderingSpans []), references_countSpans,
      references_conjunctionSpans, references_listSpans, references_orderingSpans, references,
      List.append_nil]
  | insertion target entries => rfl
  | assignment target entries predicates =>
    rw [clauseSpans, List.flatMap_append, references_optionalClause rfl,
      references_conjunctionSpans]
    rfl
  | deletion target predicates =>
    rw [clauseSpans, List.flatMap_append, references_optionalClause rfl,
      references_conjunctionSpans]
    rfl

/-- A reference in a selection is a side of a join, or stands outside of the joins. -/
theorem mem_references_selection {columns groupBy : List ColumnRef} {joins : List Join}
    {predicates : List Predicate} {orderBy : List (ColumnRef × Direction)}
    {limit offset : Option UInt64} {source : String} {ref : ColumnRef} :
    ref ∈ (selection columns source joins predicates groupBy orderBy limit offset).references ↔
      (∃ join ∈ joins, ref = join.toRef ∨ ref = join.fromRef) ∨
        ref ∈ columns ++ Predicate.conjunctionColumns predicates ++ groupBy ++
          orderBy.map Prod.fst := by
  have hjoined : ref ∈ joins.flatMap Join.references ↔
      ∃ join ∈ joins, ref = join.toRef ∨ ref = join.fromRef := by
    simp only [List.mem_flatMap, Join.references, List.mem_cons, List.not_mem_nil, or_false]
  rw [← hjoined]
  simp only [references, List.mem_append]
  tauto

end Statement

end TableQuery
