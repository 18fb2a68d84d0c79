import Mathlib.Data.List.Forall2
import TableQuery.Proofs.Filter.Equality
import TableQuery.Proofs.Filter.Node

/-!
# A filter node by node

The text of a filter is put together from the texts of its nodes, with `AND` between those that are
not empty.  So a node can be followed into the text by itself, and the others do not matter for it.
-/

namespace TableQuery.Predicate

/-- A predicate is not written with blanks only. -/
theorem exists_ne_blank_sql (predicate : Predicate) : ∃ c ∈ predicate.sql.toList, c ≠ ' ' := by
  cases predicate with
  | comparison column condition =>
    refine ⟨'`', ?_, by decide⟩
    rw [sql, ColumnRef.sql]
    split <;> simp [quoteIdentifier]
  | group connective members =>
    refine ⟨'(', ?_, by decide⟩
    simp [sql]

/-- A conjunction is not written with blanks only. -/
theorem exists_ne_blank_conjunctionSql {predicates : List Predicate} (hne : predicates ≠ []) :
    ∃ c ∈ (conjunctionSql predicates).toList, c ≠ ' ' := by
  cases predicates with
  | nil => exact absurd rfl hne
  | cons predicate rest =>
    obtain ⟨c, hmem, hsolid⟩ := exists_ne_blank_sql predicate
    refine ⟨c, ?_, hsolid⟩
    rw [conjunctionSql, sqls_eq_map, List.map_cons]
    cases rest with
    | nil => exact hmem
    | cons next rest =>
      rw [List.map_cons, String.intercalate_cons_cons, String.append_assoc, String.toList_append]
      exact List.mem_append_left _ hmem

/-- Only the conjunction of nothing has no text. -/
theorem conjunctionSql_eq_empty_iff {predicates : List Predicate} :
    conjunctionSql predicates = "" ↔ predicates = [] := by
  constructor
  · intro hempty
    by_contra hne
    obtain ⟨c, hmem, -⟩ := exists_ne_blank_conjunctionSql hne
    rw [hempty] at hmem
    cases hmem
  · rintro rfl
    rfl

/-- Conjunctions with predicates are written with `AND` between them. -/
theorem conjunctionSql_append {first rest : List Predicate} (hfirst : first ≠ [])
    (hrest : rest ≠ []) :
    conjunctionSql (first ++ rest) = conjunctionSql first ++ " AND " ++ conjunctionSql rest := by
  unfold conjunctionSql
  rw [sqls_eq_map, sqls_eq_map, sqls_eq_map, List.map_append]
  refine String.intercalate_append_of_ne_nil ?_ ?_
  · exact fun h => hfirst (List.map_eq_nil_iff.1 h)
  · exact fun h => hrest (List.map_eq_nil_iff.1 h)

/-- A conjunction is written part by part, those without a text left out. -/
theorem conjunctionSql_flatten (parts : List (List Predicate)) :
    conjunctionSql parts.flatten =
      String.intercalate " AND " ((parts.map conjunctionSql).filter (· ≠ "")) := by
  induction parts with
  | nil => rfl
  | cons part rest ih =>
    rw [List.flatten_cons, List.map_cons]
    by_cases hpart : part = []
    · rw [hpart, List.nil_append, ih, List.filter_cons_of_neg]
      simp [conjunctionSql]
    · rw [List.filter_cons_of_pos (by simpa [conjunctionSql_eq_empty_iff] using hpart)]
      by_cases hrest : rest.flatten = []
      · have hnone : (rest.map conjunctionSql).filter (· ≠ "") = [] := by
          rw [List.filter_eq_nil_iff, List.forall_mem_map]
          intro other hother
          simpa [conjunctionSql_eq_empty_iff] using List.flatten_eq_nil_iff.1 hrest other hother
        rw [hrest, hnone, List.append_nil, String.intercalate_singleton]
      · have hsome : (rest.map conjunctionSql).filter (· ≠ "") ≠ [] := by
          intro hnone
          rw [hnone] at ih
          exact hrest (conjunctionSql_eq_empty_iff.1 ih)
        rw [conjunctionSql_append hpart hrest, ih, String.intercalate_cons_of_ne_nil hsome]

/-- The parts with a text are not written with blanks only. -/
theorem exists_ne_blank_of_mem_texts {parts : List (List Predicate)} {text : String}
    (hmem : text ∈ (parts.map conjunctionSql).filter (· ≠ "")) : ∃ c ∈ text.toList, c ≠ ' ' := by
  obtain ⟨hmap, hne⟩ := List.mem_filter.1 hmem
  obtain ⟨part, -, rfl⟩ := List.mem_map.1 hmap
  refine exists_ne_blank_conjunctionSql ?_
  intro hnone
  rw [conjunctionSql_eq_empty_iff.2 hnone] at hne
  exact absurd hne (by decide)

end TableQuery.Predicate

namespace TableQuery.Filter

/-- The text of the conjunction that a node stands for. -/
def Node.compile (schema : Schema) (root : String) (node : Node) : Except Error String :=
  (node.resolve schema root).map Predicate.conjunctionSql

variable {schema : Schema} {root : String}

/-- Nodes that resolve compile to the texts of their conjunctions. -/
theorem mapM_compile_eq_ok {nodes : List Node} {parts : List (List Predicate)}
    (hparts : nodes.mapM (Node.resolve schema root) = .ok parts) :
    nodes.mapM (Node.compile schema root) = .ok (parts.map Predicate.conjunctionSql) := by
  rw [Except.mapM_eq_ok] at hparts ⊢
  rw [List.forall₂_map_right_iff]
  refine hparts.imp ?_
  intro node part hresolve
  rw [Node.compile, hresolve]
  rfl

end TableQuery.Filter
