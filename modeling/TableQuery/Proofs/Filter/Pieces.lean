import TableQuery.Proofs.Expression.Written
import TableQuery.Proofs.Filter.Node

/-!
# The comparisons in a text

The text of a conjunction is made of comparisons, with brackets and connectives between them and
nothing else.  `Predicate.pieces` are these pieces from left to right, whatever the literals in them
hold, and `conjunctionSql_eq_text` puts them together again.

The comparisons among the pieces are the conditions of the filter in written order, each on the
column that its field stands for (`entries_compile`).  What is dropped on the way, an empty
group or an empty member, holds no condition.
-/

namespace TableQuery

/-! ## Lists with separators -/

section Intercalate

variable {α β : Type} {separator : α}

/-- What is written one by one is written with the text of the separator between. -/
theorem join_intercalate (text : α → String) (lists : List (List α)) :
    String.join ((List.intercalate [separator] lists).map text) =
      String.intercalate (text separator) (lists.map fun list => String.join (list.map text)) := by
  induction lists with
  | nil => rfl
  | cons first rest ih =>
    cases rest with
    | nil => rw [List.intercalate_singleton, List.map_singleton, String.intercalate_singleton]
    | cons next rest =>
      have hseparator : String.join ([separator].map text) = text separator := by
        rw [List.map_singleton, String.join_cons, String.join_nil, String.append_empty]
      rw [List.intercalate_cons_cons, List.map_append, List.map_append, String.join_append,
        String.join_append, hseparator, ih, List.map_cons, List.map_cons, List.map_cons,
        String.intercalate_cons_cons]

/-- What is picked out of lists is none of the separators between them. -/
theorem filterMap_intercalate {pick : α → Option β} (hseparator : pick separator = none)
    (lists : List (List α)) :
    (List.intercalate [separator] lists).filterMap pick = lists.flatMap (List.filterMap pick) := by
  induction lists with
  | nil => rfl
  | cons first rest ih =>
    cases rest with
    | nil => rw [List.intercalate_singleton, List.flatMap_singleton]
    | cons next rest =>
      rw [List.intercalate_cons_cons, List.filterMap_append, List.filterMap_append, ih,
        List.filterMap_cons_none hseparator, List.filterMap_nil, List.append_nil,
        List.flatMap_cons (x := first)]

/-- What holds of the separator and of all elements holds throughout. -/
theorem forall_mem_intercalate {holds : α → Prop} (hseparator : holds separator)
    {lists : List (List α)} (hlists : ∀ list ∈ lists, ∀ a ∈ list, holds a) :
    ∀ a ∈ List.intercalate [separator] lists, holds a := by
  induction lists with
  | nil => exact fun _ hmem => nomatch hmem
  | cons first rest ih =>
    rw [List.forall_mem_cons] at hlists
    cases rest with
    | nil =>
      rw [List.intercalate_singleton]
      exact hlists.1
    | cons next rest =>
      rw [List.intercalate_cons_cons, List.forall_mem_append, List.forall_mem_append,
        List.forall_mem_singleton]
      exact ⟨⟨hlists.1, hseparator⟩, ih hlists.2⟩

end Intercalate

/-! ## Pieces -/

/-- A piece of the text of a condition. -/
inductive Piece where
  | comparison (column : ColumnRef) (condition : Condition)
  | opening
  | closing
  | connective (connective : Connective)

namespace Piece

/-- The text of a piece.  A connective brings the blanks around it. -/
def sql : Piece → String
  | comparison column condition => column.sql ++ " " ++ condition.sql
  | opening => "("
  | closing => ")"
  | connective word => word.separator

/-- The comparison that a piece is, if it is one. -/
def comparison? : Piece → Option (ColumnRef × Condition)
  | comparison column condition => some (column, condition)
  | _ => none

/-- The text of pieces in a row. -/
def text : List Piece → String
  | [] => ""
  | piece :: rest => piece.sql ++ text rest

theorem text_eq_join (pieces : List Piece) : text pieces = String.join (pieces.map sql) := by
  induction pieces with
  | nil => rfl
  | cons piece rest ih => rw [text, ih, List.map_cons, String.join_cons]

theorem text_append (pieces more : List Piece) :
    text (pieces ++ more) = text pieces ++ text more := by
  simp only [text_eq_join, List.map_append, String.join_append]

/-- Pieces with a piece between are written as their texts with its text between. -/
theorem text_intercalate (separator : Piece) (lists : List (List Piece)) :
    text (List.intercalate [separator] lists) =
      String.intercalate separator.sql (lists.map text) := by
  rw [text_eq_join, join_intercalate]
  exact congrArg _ (List.map_congr_left fun list _ => (text_eq_join list).symm)

/-- The comparisons among pieces, from left to right. -/
def comparisons (pieces : List Piece) : List (ColumnRef × Condition) :=
  pieces.filterMap comparison?

/-- A connective between pieces is no comparison. -/
theorem comparisons_intercalate (word : Connective) (lists : List (List Piece)) :
    comparisons (List.intercalate [connective word] lists) = lists.flatMap comparisons :=
  filterMap_intercalate rfl lists

/-- Brackets around pieces are no comparisons. -/
theorem comparisons_brackets (pieces : List Piece) :
    comparisons (opening :: pieces ++ [closing]) = comparisons pieces := by
  unfold comparisons
  rw [List.cons_append, List.filterMap_cons_none rfl, List.filterMap_append]
  exact List.append_nil _

end Piece

namespace Predicate

/-- Induction over predicates: a group may assume the claim of every predicate of its members. -/
@[elab_as_elim, induction_eliminator]
theorem induct {motive : Predicate → Prop}
    (comparison : ∀ column condition, motive (.comparison column condition))
    (group : ∀ connective members, (∀ member ∈ members, ∀ predicate ∈ member, motive predicate) →
      motive (.group connective members)) (predicate : Predicate) : motive predicate :=
  @Predicate.rec motive (fun members => ∀ member ∈ members, ∀ predicate ∈ member, motive predicate)
    (fun predicates => ∀ predicate ∈ predicates, motive predicate) comparison group
    (fun _ hmember => nomatch hmember)
    (fun _ _ hfirst hrest => List.forall_mem_cons.2 ⟨hfirst, hrest⟩)
    (fun _ hpredicate => nomatch hpredicate)
    (fun _ _ hfirst hrest => List.forall_mem_cons.2 ⟨hfirst, hrest⟩) predicate

mutual

/-- The pieces of a predicate. -/
def pieces : Predicate → List Piece
  | .comparison column condition => [.comparison column condition]
  | .group connective members =>
    .opening :: List.intercalate [.connective connective] (memberPieces members) ++ [.closing]
termination_by structural predicate => predicate

/-- The pieces of each member of a group. -/
def memberPieces : List (List Predicate) → List (List Piece)
  | [] => []
  | member :: rest =>
    List.intercalate [.connective .and] (pieceLists member) :: memberPieces rest
termination_by structural members => members

/-- The pieces of each of several predicates. -/
def pieceLists : List Predicate → List (List Piece)
  | [] => []
  | predicate :: rest => predicate.pieces :: pieceLists rest
termination_by structural predicates => predicates

end

/-- The pieces of predicates that all have to hold. -/
def conjunctionPieces (predicates : List Predicate) : List Piece :=
  List.intercalate [.connective .and] (predicates.map pieces)

@[simp] theorem pieceLists_eq_map (predicates : List Predicate) :
    pieceLists predicates = predicates.map pieces := by
  induction predicates with
  | nil => rfl
  | cons predicate rest ih => rw [pieceLists, ih, List.map_cons]

@[simp] theorem memberPieces_eq_map (members : List (List Predicate)) :
    memberPieces members = members.map conjunctionPieces := by
  induction members with
  | nil => rfl
  | cons member rest ih =>
    rw [memberPieces, ih, List.map_cons, pieceLists_eq_map, conjunctionPieces]

/-! ## The text -/

/-- Predicates that are made of their pieces have a conjunction that is. -/
theorem conjunctionSql_eq_text_of {predicates : List Predicate}
    (hpieces : ∀ predicate ∈ predicates, predicate.sql = Piece.text predicate.pieces) :
    conjunctionSql predicates = Piece.text (conjunctionPieces predicates) := by
  rw [conjunctionSql, sqls_eq_map, conjunctionPieces, Piece.text_intercalate, List.map_map]
  exact congrArg (String.intercalate " AND ") (List.map_congr_left hpieces)

/-- The text of a predicate is made of its pieces. -/
theorem sql_eq_text (predicate : Predicate) : predicate.sql = Piece.text predicate.pieces := by
  induction predicate with
  | comparison column condition =>
    rw [sql, pieces, Piece.text, Piece.text, String.append_empty, Piece.sql]
  | group connective members ih =>
    have hmembers : members.map conjunctionSql =
        (members.map conjunctionPieces).map Piece.text := by
      rw [List.map_map]
      exact List.map_congr_left fun member hmember => conjunctionSql_eq_text_of (ih member hmember)
    rw [sql, memberSqls_eq_map, hmembers, pieces, memberPieces_eq_map, List.cons_append, Piece.text,
      Piece.text_append, Piece.text_intercalate]
    simp only [Piece.text, Piece.sql, String.append_empty, String.append_assoc]

/-- The text of a conjunction is made of its pieces. -/
theorem conjunctionSql_eq_text (predicates : List Predicate) :
    conjunctionSql predicates = Piece.text (conjunctionPieces predicates) :=
  conjunctionSql_eq_text_of fun predicate _ => sql_eq_text predicate

/-! ## The comparisons -/

/-- The comparisons of predicates, from left to right. -/
def comparisons (predicates : List Predicate) : List (ColumnRef × Condition) :=
  Piece.comparisons (conjunctionPieces predicates)

theorem comparisons_eq_flatMap (predicates : List Predicate) :
    comparisons predicates =
      predicates.flatMap fun predicate => Piece.comparisons predicate.pieces := by
  rw [comparisons, conjunctionPieces, Piece.comparisons_intercalate, List.flatMap_map]

theorem comparisons_append (predicates more : List Predicate) :
    comparisons (predicates ++ more) = comparisons predicates ++ comparisons more := by
  rw [comparisons_eq_flatMap, comparisons_eq_flatMap, comparisons_eq_flatMap, List.flatMap_append]

/-- The comparisons of a group are those of its members. -/
theorem comparisons_group (connective : Connective) (members : List (List Predicate)) :
    comparisons [.group connective members] = members.flatMap comparisons := by
  rw [comparisons_eq_flatMap, List.flatMap_singleton, pieces, memberPieces_eq_map,
    Piece.comparisons_brackets, Piece.comparisons_intercalate, List.flatMap_map]
  rfl

/-- The comparisons of conditions on one column. -/
theorem comparisons_map_comparison (column : ColumnRef) (conditions : List Condition) :
    comparisons (conditions.map (comparison column)) = conditions.map (Prod.mk column) := by
  rw [comparisons_eq_flatMap, List.flatMap_map, List.map_eq_flatMap]
  rfl

end Predicate

namespace Filter

variable {schema : Schema} {root : String}

/-- A group has the comparisons of all its members, also of those that are left out. -/
theorem comparisons_resolvedGroup (connective : Connective) (members : List (List Predicate)) :
    Predicate.comparisons (resolvedGroup connective members) =
      members.flatMap Predicate.comparisons := by
  have hkept : (members.filter fun member => !member.isEmpty).flatMap Predicate.comparisons =
      members.flatMap Predicate.comparisons := by
    induction members with
    | nil => rfl
    | cons member rest ih =>
      cases member with
      | nil => exact ih
      | cons predicate others =>
        rw [List.filter_cons_of_pos rfl, List.flatMap_cons, List.flatMap_cons, ih]
  rcases resolvedGroup_cases connective members with ⟨hempty, hgroup⟩ | ⟨-, hgroup⟩
  · rw [hgroup, eq_comm, List.flatMap_eq_nil_iff.2]
    · rfl
    · intro member hmember
      rw [hempty member hmember]
      rfl
  · rw [hgroup, Predicate.comparisons_group, hkept]

/-- A comparison is what a condition on a field becomes: the same condition, on the column that the
field stands for. -/
def BecomesIn (schema : Schema) (root : String) (entry : FieldPath × Condition)
    (comparison : ColumnRef × Condition) : Prop :=
  entry.1.columnRef schema root = .ok comparison.1 ∧ comparison.2 = entry.2

/-- The comparisons of nodes are their conditions in order, if those of each node are. -/
theorem entries_resolveNodes_of {nodes : List Node} (hnodes : ∀ node ∈ nodes, ∀ {part},
      node.resolve schema root = .ok part →
        List.Forall₂ (BecomesIn schema root) node.entries (Predicate.comparisons part))
    {predicates : List Predicate} (hresolve : resolveNodes schema root nodes = .ok predicates) :
    List.Forall₂ (BecomesIn schema root) (nodeEntries nodes)
      (Predicate.comparisons predicates) := by
  induction nodes generalizing predicates with
  | nil =>
    cases hresolve
    exact .nil
  | cons node rest ih =>
    rw [List.forall_mem_cons] at hnodes
    obtain ⟨first, later, hfirst, hlater, rfl⟩ := resolveNodes_cons_eq_ok.1 hresolve
    rw [nodeEntries, Predicate.comparisons_append]
    exact List.rel_append (hnodes.1 hfirst) (ih hnodes.2 hlater)

/-- The comparisons of a node are its conditions in order. -/
theorem entries_resolve (node : Node) : ∀ {predicates : List Predicate},
    node.resolve schema root = .ok predicates →
      List.Forall₂ (BecomesIn schema root) node.entries (Predicate.comparisons predicates) := by
  induction node with
  | field path first rest =>
    intro predicates hresolve
    obtain ⟨-, column, hcolumn, rfl⟩ := resolveField_eq_ok.1 hresolve
    rw [Node.entries, Predicate.comparisons_map_comparison, List.forall₂_map_left_iff,
      List.forall₂_map_right_iff, List.forall₂_same]
    exact fun condition _ => ⟨hcolumn, rfl⟩
  | group connective members ih =>
    intro predicates hresolve
    obtain ⟨resolved, hresolved, rfl⟩ := resolve_group_eq_ok.1 hresolve
    rw [Node.entries, comparisons_resolvedGroup]
    clear hresolve
    induction hresolved with
    | nil => exact .nil
    | cons hmember hrest ihrest =>
      rw [List.forall_mem_cons] at ih
      rw [memberEntries, List.flatMap_cons]
      exact List.rel_append (entries_resolveNodes_of ih.1 hmember) (ihrest ih.2)

/-- The comparisons in the text of a filter that compiles are its conditions in order. -/
theorem entries_compile {filter : Filter} {text : String}
    (hcompile : filter.compile schema root = .ok text) :
    ∃ pieces, text = Piece.text pieces ∧
      List.Forall₂ (BecomesIn schema root) filter.entries (Piece.comparisons pieces) := by
  obtain ⟨predicates, hresolve, rfl⟩ := Except.map_eq_ok.1 hcompile
  exact ⟨Predicate.conjunctionPieces predicates, Predicate.conjunctionSql_eq_text predicates,
    entries_resolveNodes_of (fun node _ => entries_resolve node) hresolve⟩

end Filter

end TableQuery
