import TableQuery.Proofs.Statement.Tables
import TableQuery.Schema.Check

/-!
# How often a selection introduces a table

The text of a selection introduces its root and, with every join, the table to which the join leads.
A table has no name there but its own, so a reference says which occurrence it means only if its
table is introduced once.

Two joins are the same only when all four names agree.  A request that goes to one table by two
different joins therefore introduces that table twice, and so does one that comes back to the root.
`unambiguous_iff` says that nothing else does.
-/

namespace TableQuery.Statement

/-- The tables that the text of a statement introduces, each as often as it does. -/
def introduced (statement : Statement) : List String :=
  Span.introduced statement.spans.flatten

/-- Every column in the text of a statement is one of a table that the text introduces once. -/
def Unambiguous (statement : Statement) : Prop :=
  ∀ ref, Span.column ref ∈ statement.spans.flatten → statement.introduced.count ref.table = 1

variable {schema : Schema} {root : String} {request : Request} {statement : Statement}

/-- A selection introduces its root behind `FROM` and a table with every `INNER JOIN`. -/
theorem SelectsFrom.introduced_eq (hselects : statement.SelectsFrom root) :
    statement.introduced = Join.tables root statement.joins := by
  obtain ⟨select, rest, hspans, hnone⟩ := hselects.clauses
  rw [List.forall_mem_cons] at hnone
  have hsource : Span.introduced [.words "FROM ", .table root] = [root] := rfl
  have hjoins : statement.joins.flatMap (fun join => Span.introduced join.spans) =
      statement.joins.map Join.toTable := by
    rw [List.map_eq_flatMap]
    rfl
  have hrest : rest.flatMap Span.introduced = [] := List.flatMap_eq_nil_iff.2 hnone.2
  rw [introduced, hspans, Span.introduced_flatten, List.flatMap_cons, List.flatMap_cons,
    List.flatMap_append, List.flatMap_map, hnone.1, hsource, hjoins, hrest, List.append_nil]
  rfl

/-- Every join of a selection refers to the table that it introduces. -/
theorem SelectsFrom.toRef_mem (hselects : statement.SelectsFrom root) {join : Join}
    (hjoin : join ∈ statement.joins) : Span.column join.toRef ∈ statement.spans.flatten := by
  obtain ⟨select, rest, hspans, -⟩ := hselects.clauses
  have hclause : join.spans ∈ statement.spans := by
    rw [hspans]
    exact List.mem_cons_of_mem _ (List.mem_cons_of_mem _
      (List.mem_append_left _ (List.mem_map_of_mem hjoin)))
  exact List.mem_flatten_of_mem hclause (by simp [Join.spans])

/-- A selection is unambiguous exactly when it introduces no table twice: a table that comes in
twice is the target of a join, and so the join refers to it. -/
theorem ClosedSelection.unambiguous_iff_nodup (hclosed : statement.ClosedSelection root) :
    statement.Unambiguous ↔ statement.introduced.Nodup := by
  have hintroduced := hclosed.introduced_eq
  constructor
  · intro hunambiguous
    rw [List.nodup_iff_count_le_one]
    intro table
    by_cases htarget : ∃ join ∈ statement.joins, join.toTable = table
    · obtain ⟨join, hjoin, rfl⟩ := htarget
      exact Nat.le_of_eq (hunambiguous join.toRef (hclosed.toRef_mem hjoin))
    · have hnone : (statement.joins.map Join.toTable).count table = 0 :=
        List.count_eq_zero.2 fun hmem => htarget (List.mem_map.1 hmem)
      rw [hintroduced, Join.tables, List.count_cons, hnone]
      split <;> decide
  · intro hnodup ref hmem
    exact List.count_eq_one_of_mem hnodup (hintroduced ▸ hclosed.refers ref hmem)

/-- The joins of a selection are the hops of the fields of its request, each once.  Its text has one
`INNER JOIN` for every join, so it introduces the root and where these hops lead.  No table is
introduced twice exactly when no hop leads to the root and no two different hops lead to the same
table; and this is when every column in the text is one of a single occurrence of its table. -/
theorem unambiguous_iff (hfind : find schema root request = .ok statement) :
    statement.SelectsFrom root ∧
    (statement.joins.Nodup ∧
      ∀ join, join ∈ statement.joins ↔ request.Takes schema root join) ∧
    statement.introduced = Join.tables root statement.joins ∧
    (statement.introduced.Nodup ↔
      (∀ join, request.Takes schema root join → join.toTable ≠ root) ∧
      ∀ join, request.Takes schema root join → ∀ other, request.Takes schema root other →
        join.toTable = other.toTable → join = other) ∧
    (statement.Unambiguous ↔ statement.introduced.Nodup) := by
  have hclosed := closedSelection_of_find hfind
  have hintroduced := hclosed.introduced_eq
  have hunambiguous := hclosed.unambiguous_iff_nodup
  obtain ⟨columns, joins, predicates, groupBy, orderBy, rfl, -, hjoins, -⟩ :=
    selection_of_find hfind
  have hmem : ∀ join, join ∈ joins ↔ request.Takes schema root join :=
    fun join => Request.mem_joins_iff hjoins
  have hnodup : joins.Nodup := Request.nodup_joins hjoins
  refine ⟨hclosed.toSelectsFrom, ⟨hnodup, hmem⟩, hintroduced, ?_, hunambiguous⟩
  rw [hintroduced]
  simp only [← hmem]
  exact Join.nodup_tables_iff hnodup

/-- Games of two teams, of which one is at home. -/
def gamesSchema : Schema :=
  (Schema.empty.insert ⟨"games", [⟨"id", .int4, true, false, false, none⟩,
      ⟨"home_id", .int4, false, false, false, none⟩, ⟨"away_id", .int4, false, false, false, none⟩],
    [⟨"home", "teams", "home_id", "id"⟩, ⟨"away", "teams", "away_id", "id"⟩]⟩).insert
      ⟨"teams", [⟨"id", .int4, true, false, false, none⟩,
        ⟨"name", .text, false, false, false, none⟩], []⟩

/-- The games of teams at home, by name. -/
def homeRequest : Request :=
  { Request.empty with
    columns := some [.column "id", .via "home" (.column "name")]
    orderBy := [⟨.via "home" (.column "name"), .ascending⟩] }

theorem unambiguous_iff_homeRequest : ∃ statement,
    find gamesSchema "games" homeRequest = .ok statement ∧
      statement.sql = "SELECT `games`.`id`, `teams`.`name` FROM `games` " ++
        "INNER JOIN `teams` ON `teams`.`id` = `games`.`home_id` ORDER BY `teams`.`name` ASC" ∧
      statement.introduced = ["games", "teams"] ∧ statement.Unambiguous ∧
      ∀ join, homeRequest.Takes gamesSchema "games" join → ∀ other,
        homeRequest.Takes gamesSchema "games" other →
        join.toTable = other.toTable → join = other := by
  obtain ⟨statement, hfind⟩ :
      ∃ statement, find gamesSchema "games" homeRequest = .ok statement := ⟨_, rfl⟩
  obtain ⟨-, -, hintroduced, hnodup, hunambiguous⟩ := unambiguous_iff hfind
  have htwo : statement.introduced = ["games", "teams"] := by
    rw [hintroduced]
    cases hfind
    rfl
  have hdistinct : statement.introduced.Nodup := by
    rw [htwo]
    decide
  refine ⟨statement, hfind, ?_, htwo, hunambiguous.2 hdistinct, (hnodup.1 hdistinct).2⟩
  cases hfind
  decide +kernel

/-- The names of both teams of a game. -/
def pairingRequest : Request :=
  { Request.empty with
    columns := some [.via "home" (.column "name"), .via "away" (.column "name")] }

/-- A selection through both relations introduces the teams twice, and does not tell the names of
the one from those of the other. -/
theorem introduced_pairingRequest : gamesSchema.check = .ok () ∧
    (∃ table, gamesSchema.table? "games" = some table) ∧ ∃ statement,
      find gamesSchema "games" pairingRequest = .ok statement ∧
      statement.sql = "SELECT `teams`.`name`, `teams`.`name` FROM `games` " ++
        "INNER JOIN `teams` ON `teams`.`id` = `games`.`home_id` " ++
        "INNER JOIN `teams` ON `teams`.`id` = `games`.`away_id`" ∧
      ¬statement.introduced.Nodup ∧
      ∃ ref, Span.column ref ∈ statement.spans.flatten ∧
        statement.introduced.count ref.table = 2 := by
  obtain ⟨statement, hfind⟩ :
      ∃ statement, find gamesSchema "games" pairingRequest = .ok statement := ⟨_, rfl⟩
  have hthree : statement.introduced = ["games", "teams", "teams"] := by
    rw [(closedSelection_of_find hfind).introduced_eq]
    cases hfind
    rfl
  have hname : Span.column ⟨"teams", "name"⟩ ∈ statement.spans.flatten := by
    rw [← Span.mem_references_iff, references_spans]
    cases hfind
    exact List.mem_cons_self
  refine ⟨rfl, ⟨_, rfl⟩, statement, hfind, ?_, ?_, _, hname, ?_⟩
  · cases hfind
    decide +kernel
  · rw [hthree]
    decide
  · rw [hthree]
    decide

end TableQuery.Statement
