import TableQuery.Proofs.Filter.Pieces
import TableQuery.Proofs.Filter.Void
import TableQuery.Proofs.Literal

/-!
# What is written for a membership

A membership in no values is refused, since empty brackets are no list.  That check counts the
values as they are given, and a value may be a list, which is written as what it holds.  So a list
without elements counts as a value and is written as nothing.

`memberships_compile` says of every membership in a text that compiles what stands between its
brackets: the leaves of the values, of which there is at least one.  An element is missing exactly
where a list without elements stands among the values, at whatever depth.
-/

namespace TableQuery

/-- The texts between the brackets of a membership, and what they tell of its values. -/
structure Condition.Membership (negated : Bool) (values : List Literal) (texts : List String) :
    Prop where
  sql_eq : (Condition.among negated values).sql =
    (if negated then "NOT IN" else "IN") ++ " (" ++ String.intercalate ", " texts ++ ")"
  texts_eq : texts = (values.flatMap Literal.leaves).map Literal.sql
  ne_nil : texts ≠ []
  /-- An element is missing where a list without elements stands. -/
  full_iff : "" ∉ texts ↔ ∀ value ∈ values, ¬Literal.Within (.list []) value
  /-- A literal is written where one stands that is no list. -/
  exists_iff : (∃ text ∈ texts, text ≠ "") ↔
    ∃ value ∈ values, ∃ part, Literal.Within part value ∧ ∀ items, part ≠ .list items

/-- A membership in values is written as their leaves. -/
theorem Condition.membership_leaves (negated : Bool) {values : List Literal} (hne : values ≠ []) :
    Membership negated values ((values.flatMap Literal.leaves).map Literal.sql) where
  sql_eq := by
    rw [sql, operandSql, Literal.intercalate_sql]
    cases negated <;> simp only [operator, Operator.sql, String.append_assoc] <;> rfl
  texts_eq := rfl
  ne_nil := by
    intro hnone
    exact Literal.flatMap_leaves_ne_nil hne (List.map_eq_nil_iff.1 hnone)
  full_iff := by
    rw [Literal.empty_mem_texts_iff]
    simp only [not_exists, not_and]
  exists_iff := Literal.exists_text_iff

namespace Filter

variable {schema : Schema} {root : String}

/-- In the text of a filter that compiles, every membership is written as the leaves of its values.
There is at least one.  An element is empty exactly if a list without elements stands among the
values, and a literal is there exactly if something stands among them that is no list. -/
theorem memberships_compile {filter : Filter} {text : String}
    (hcompile : filter.compile schema root = .ok text) :
    ∃ pieces, text = Piece.text pieces ∧
      List.Forall₂ (BecomesIn schema root) filter.entries (Piece.comparisons pieces) ∧
      ∀ column negated values, (column, Condition.among negated values) ∈ Piece.comparisons pieces →
        ∃ texts, Condition.Membership negated values texts := by
  obtain ⟨pieces, htext, hbecomes⟩ := entries_compile hcompile
  refine ⟨pieces, htext, hbecomes, ?_⟩
  intro column negated values hmem
  obtain ⟨entry, hentry, -, hcondition⟩ := Except.exists_of_mem hbecomes hmem
  obtain ⟨predicates, hresolve, -⟩ := Except.map_eq_ok.1 hcompile
  have hsolid := isSolid_of_resolve hresolve entry hentry
  rw [← hcondition] at hsolid
  refine ⟨_, Condition.membership_leaves negated ?_⟩
  rintro rfl
  cases hsolid

/-- People, known by a number. -/
def peopleSchema : Schema :=
  Schema.empty.insert ⟨"people", [⟨"id", .int4, true, false, false, none⟩], []⟩

/-- The people whose number is neither in an empty list nor 3. -/
def hollowFilter : Filter :=
  ⟨[.field (.column "id") (.among true [.list [], .int 3]) []]⟩

theorem memberships_compile_hollowFilter :
    hollowFilter.compile peopleSchema "people" = .ok "`people`.`id` NOT IN (, 3)" ∧
      ∃ texts, Condition.Membership true [.list [], .int 3] texts ∧ "" ∈ texts ∧
        ∃ text ∈ texts, text ≠ "" := by
  have hcompile : hollowFilter.compile peopleSchema "people" = .ok "`people`.`id` NOT IN (, 3)" :=
    rfl
  refine ⟨hcompile, ?_⟩
  obtain ⟨pieces, -, hbecomes, hmemberships⟩ := memberships_compile hcompile
  have hentry : (.column "id", .among true [.list [], .int 3]) ∈ hollowFilter.entries :=
    List.mem_cons_self
  obtain ⟨⟨column, _⟩, hmem, -, rfl⟩ := Except.exists_of_mem_left hbecomes hentry
  obtain ⟨texts, htexts⟩ := hmemberships column true _ hmem
  refine ⟨texts, htexts, ?_, ?_⟩
  · by_contra hfull
    exact htexts.full_iff.1 hfull (.list []) List.mem_cons_self (.refl _)
  · have hthree : Literal.int 3 ∈ [.list [], .int 3] := List.mem_cons_of_mem _ List.mem_cons_self
    exact htexts.exists_iff.2 ⟨.int 3, hthree, .int 3, .refl _, nofun⟩

/-- A list that holds nothing but an empty list is accepted, and written as a membership in
nothing. -/
theorem compile_nestedEmptyList : ∃ filter,
    ofJson (.obj [("id", .obj [("$in", .arr [.arr []])])]) = .ok filter ∧
      filter.compile peopleSchema "people" = .ok "`people`.`id` IN ()" := by
  refine ⟨_, rfl, ?_⟩
  rfl

end Filter

end TableQuery
