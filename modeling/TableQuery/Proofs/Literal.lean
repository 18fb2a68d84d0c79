import Mathlib.Data.List.Forall2
import Mathlib.Tactic.Tauto
import TableQuery.Literal

/-!
# How a literal is written

A literal that is no list is written with characters of its own, the last of which is no blank.  A
list is written as what it holds, with commas between, and a list inside it does the same; so
a literal is written as a row of `Literal.leaves`, whatever the nesting.

A list without elements is a leaf as well, and the only one without a text: where it stands, nothing
stands between two commas.  `mem_leaves_iff` finds the leaves by what stands in the literal.  Several
values are written as one literal each only if every list in them is around one thing
(`forall₂_renders_iff`).
-/

namespace TableQuery

/-- A text that ends in a character other than a blank. -/
def EndsSolid (text : String) : Prop :=
  ∃ front last, text.toList = front ++ [last] ∧ last ≠ ' '

namespace EndsSolid

theorem append (first : String) {last : String} (hlast : EndsSolid last) :
    EndsSolid (first ++ last) := by
  obtain ⟨front, c, htext, hsolid⟩ := hlast
  refine ⟨first.toList ++ front, c, ?_, hsolid⟩
  rw [String.toList_append, htext, List.append_assoc]

/-- A text without blanks ends in another character, if in any. -/
theorem of_forall {text : String} (hne : text.toList ≠ []) (hall : ∀ c ∈ text.toList, c ≠ ' ') :
    EndsSolid text := by
  refine ⟨text.toList.dropLast, text.toList.getLast hne, ?_, ?_⟩
  · exact (List.dropLast_append_getLast hne).symm
  · exact hall _ (List.getLast_mem hne)

theorem ne_empty {text : String} (hsolid : EndsSolid text) : text ≠ "" := by
  rintro rfl
  obtain ⟨front, last, htext, -⟩ := hsolid
  exact absurd htext.symm (List.append_ne_nil_of_right_ne_nil front (List.cons_ne_nil last []))

end EndsSolid

/-- Lists of texts are joined by joining the texts of each. -/
theorem intercalate_flatMap {α : Type} {separator : String} {texts : α → List String}
    {xs : List α} (hne : ∀ x ∈ xs, texts x ≠ []) :
    String.intercalate separator (xs.flatMap texts) =
      String.intercalate separator (xs.map fun x => String.intercalate separator (texts x)) := by
  induction xs with
  | nil => rfl
  | cons x rest ih =>
    rw [List.forall_mem_cons] at hne
    cases rest with
    | nil => simp
    | cons next rest =>
      have hlater : (next :: rest).flatMap texts ≠ [] := by
        rw [List.flatMap_cons]
        exact List.append_ne_nil_of_left_ne_nil (hne.2 next List.mem_cons_self) _
      rw [List.flatMap_cons, String.intercalate_append_of_ne_nil hne.1 hlater, ih hne.2]
      exact (String.intercalate_cons_of_ne_nil (List.cons_ne_nil _ _)).symm

namespace Literal

/-! ## Literals that are no lists -/

theorem ne_blank_of_mem_toDigits {n : Nat} {c : Char} (hmem : c ∈ Nat.toDigits 10 n) : c ≠ ' ' := by
  have hdigit := Nat.isDigit_of_mem_toDigits (by decide) (by decide) hmem
  rintro rfl
  exact absurd hdigit (by decide)

theorem endsSolid_nat (n : Nat) : EndsSolid (toString n) := by
  have htext : (toString n).toList = Nat.toDigits 10 n := Nat.toList_repr
  refine EndsSolid.of_forall ?_ ?_
  · rw [htext]
    exact Nat.toDigits_ne_nil
  · intro c hmem
    rw [htext] at hmem
    exact ne_blank_of_mem_toDigits hmem

theorem endsSolid_int (n : Int) : EndsSolid (toString n) := by
  rw [show toString n = n.repr from rfl, Int.repr_eq_if]
  split
  · exact endsSolid_nat _
  · exact (endsSolid_nat _).append _

/-- A decimal ends in a digit, wherever its point stands. -/
theorem endsSolid_positionalText (d : Decimal) : EndsSolid (realLayout.positionalText d) := by
  have hdigits : ∀ c ∈ d.digits, c ≠ ' ' := fun c => ne_blank_of_mem_toDigits
  have hzeros : ∀ n, ∀ c ∈ List.replicate n '0', c ≠ ' ' := by
    intro n c hmem
    rw [List.eq_of_mem_replicate hmem]
    decide
  unfold Layout.positionalText
  simp only
  split
  · rw [show realLayout.afterWhole = "" from rfl, String.append_empty]
    refine EndsSolid.of_forall ?_ ?_ <;> rw [String.toList_ofList]
    · exact List.append_ne_nil_of_left_ne_nil Nat.toDigits_ne_nil _
    · intro c hmem
      rcases List.mem_append.1 hmem with hdigit | hzero
      · exact hdigits c hdigit
      · exact hzeros _ c hzero
  · split
    · refine EndsSolid.of_forall ?_ ?_ <;> rw [String.toList_ofList]
      · exact List.append_ne_nil_of_right_ne_nil _ (List.cons_ne_nil _ _)
      · intro c hmem
        rcases List.mem_append.1 hmem with hfront | hpoint
        · exact hdigits c (List.mem_of_mem_take hfront)
        · rcases List.mem_cons.1 hpoint with rfl | hback
          · decide
          · exact hdigits c (List.mem_of_mem_drop hback)
    · refine EndsSolid.of_forall ?_ ?_ <;> rw [String.toList_ofList]
      · exact List.append_ne_nil_of_left_ne_nil (List.cons_ne_nil _ _) _
      · intro c hmem
        rcases List.mem_append.1 hmem with hfront | hdigit
        · rcases List.mem_cons.1 hfront with rfl | hfront
          · decide
          · rcases List.mem_cons.1 hfront with rfl | hzero
            · decide
            · exact hzeros _ c hzero
        · exact hdigits c hdigit

theorem endsSolid_realSql (x : Binary64) : EndsSolid (realSql x) := by
  unfold realSql
  split
  · exact ⟨['N', 'a'], 'N', by decide, by decide⟩
  · split
    · exact ⟨['-', 'i', 'n'], 'f', by decide, by decide⟩
    · exact ⟨['i', 'n'], 'f', by decide, by decide⟩
  · rename_i significand exponent hfinite
    unfold Layout.text?
    rw [hfinite]
    exact (endsSolid_positionalText _).append _

/-- Every literal but a list ends in a character of its own. -/
theorem endsSolid_sql {literal : Literal} (hscalar : ∀ items, literal ≠ .list items) :
    EndsSolid literal.sql := by
  cases literal with
  | null => exact ⟨['N', 'U', 'L'], 'L', by decide, by decide⟩
  | bool value =>
    cases value with
    | true => exact ⟨['t', 'r', 'u'], 'e', by decide, by decide⟩
    | false => exact ⟨['f', 'a', 'l', 's'], 'e', by decide, by decide⟩
  | int value => exact endsSolid_int _
  | uint value => exact endsSolid_nat _
  | real value => exact endsSolid_realSql value
  | text value => exact EndsSolid.append _ ⟨[], '\'', by decide, by decide⟩
  | blob bytes => exact EndsSolid.append _ ⟨[], '\'', by decide, by decide⟩
  | list items => exact absurd rfl (hscalar items)

/-! ## Leaves -/

/-- Induction over literals: a list may assume the claim of its items. -/
@[elab_as_elim]
theorem induct {motive : Literal → Prop}
    (single : ∀ literal, (∀ items, literal ≠ .list items) → motive literal)
    (list : ∀ items, (∀ item ∈ items, motive item) → motive (.list items)) (literal : Literal) :
    motive literal :=
  @Literal.rec motive (fun items => ∀ item ∈ items, motive item)
    (single _ nofun) (fun _ => single _ nofun) (fun _ => single _ nofun)
    (fun _ => single _ nofun) (fun _ => single _ nofun) (fun _ => single _ nofun)
    (fun _ => single _ nofun) list
    (fun _ hitem => nomatch hitem)
    (fun _ _ hfirst hrest => List.forall_mem_cons.2 ⟨hfirst, hrest⟩) literal

mutual

/-- The literals between which a literal is written with commas: those at its bottom that are no
lists, and the lists without elements. -/
def leaves : Literal → List Literal
  | .list items => if items.isEmpty then [.list []] else listLeaves items
  | literal => [literal]
termination_by structural literal => literal

/-- The leaves of several literals. -/
def listLeaves : List Literal → List Literal
  | [] => []
  | literal :: rest => literal.leaves ++ listLeaves rest
termination_by structural literals => literals

end

@[simp] theorem listLeaves_eq_flatMap (literals : List Literal) :
    listLeaves literals = literals.flatMap leaves := by
  induction literals with
  | nil => rfl
  | cons literal rest ih => rw [listLeaves, ih, List.flatMap_cons]

theorem leaves_of_ne_list {literal : Literal} (hsingle : ∀ items, literal ≠ .list items) :
    literal.leaves = [literal] := by
  cases literal with
  | list items => exact absurd rfl (hsingle items)
  | null | bool | int | uint | real | text | blob => rfl

theorem leaves_list_nil : (Literal.list []).leaves = [.list []] := rfl

theorem leaves_list {items : List Literal} (hne : items ≠ []) :
    (Literal.list items).leaves = items.flatMap leaves := by
  rw [leaves, listLeaves_eq_flatMap, if_neg]
  simpa using hne

/-- Every literal has a leaf. -/
theorem leaves_ne_nil (literal : Literal) : literal.leaves ≠ [] := by
  induction literal using induct with
  | single literal hsingle =>
    rw [leaves_of_ne_list hsingle]
    exact List.cons_ne_nil _ _
  | list items ih =>
    cases items with
    | nil => exact List.cons_ne_nil _ _
    | cons item rest =>
      rw [leaves_list (List.cons_ne_nil _ _), List.flatMap_cons]
      exact List.append_ne_nil_of_left_ne_nil (ih item List.mem_cons_self) _

theorem flatMap_leaves_ne_nil {literals : List Literal} (hne : literals ≠ []) :
    literals.flatMap leaves ≠ [] := by
  obtain ⟨literal, rest, rfl⟩ := List.exists_cons_of_ne_nil hne
  rw [List.flatMap_cons]
  exact List.append_ne_nil_of_left_ne_nil (leaves_ne_nil literal) _

/-- Literals with commas between are written as the leaves of all of them, if each is written as
its own. -/
theorem intercalate_sql_of {literals : List Literal} (hleaves : ∀ literal ∈ literals,
      literal.sql = String.intercalate ", " (literal.leaves.map sql)) :
    String.intercalate ", " (literals.map sql) =
      String.intercalate ", " ((literals.flatMap leaves).map sql) := by
  rw [List.map_flatMap, intercalate_flatMap, List.map_congr_left hleaves]
  intro literal _ hnone
  exact leaves_ne_nil literal (List.map_eq_nil_iff.1 hnone)

/-- A literal is written as its leaves, with commas between. -/
theorem sql_eq_intercalate_leaves (literal : Literal) :
    literal.sql = String.intercalate ", " (literal.leaves.map sql) := by
  induction literal using induct with
  | single literal hsingle =>
    rw [leaves_of_ne_list hsingle, List.map_singleton, String.intercalate_singleton]
  | list items ih =>
    by_cases hitems : items = []
    · subst hitems
      rfl
    · rw [leaves_list hitems, ← intercalate_sql_of ih, sql, sqls_eq_map]

/-- Literals with commas between are written as the leaves of all of them. -/
theorem intercalate_sql (literals : List Literal) :
    String.intercalate ", " (literals.map sql) =
      String.intercalate ", " ((literals.flatMap leaves).map sql) :=
  intercalate_sql_of fun literal _ => sql_eq_intercalate_leaves literal

/-! ## What stands in a literal -/

/-- The literal is no list, or a list without elements. -/
def IsLeaf (literal : Literal) : Prop :=
  ∀ items, literal = .list items → items = []

theorem isLeaf_of_ne_list {literal : Literal} (hsingle : ∀ items, literal ≠ .list items) :
    literal.IsLeaf := by
  intro items heq
  exact absurd heq (hsingle items)

theorem isLeaf_list_nil : (Literal.list []).IsLeaf := by
  intro items heq
  exact (Literal.list.inj heq).symm

/-- A leaf has a text, unless it is a list. -/
theorem IsLeaf.sql_eq_empty_iff {leaf : Literal} (hleaf : leaf.IsLeaf) :
    leaf.sql = "" ↔ leaf = .list [] := by
  constructor
  · intro hempty
    by_contra hother
    refine (endsSolid_sql ?_).ne_empty hempty
    rintro items rfl
    exact hother (congrArg Literal.list (hleaf items rfl))
  · rintro rfl
    rfl

/-- The first literal is the second one, or stands at some depth in it. -/
inductive Within : Literal → Literal → Prop where
  | refl (literal : Literal) : Within literal literal
  | item {part item : Literal} {items : List Literal} (hitem : item ∈ items)
      (hpart : Within part item) : Within part (.list items)

theorem within_iff_of_ne_list {part literal : Literal} (hsingle : ∀ items, literal ≠ .list items) :
    Within part literal ↔ part = literal := by
  constructor
  · intro hwithin
    cases hwithin with
    | refl => rfl
    | item => exact absurd rfl (hsingle _)
  · rintro rfl
    exact .refl part

theorem within_list_iff {part : Literal} {items : List Literal} :
    Within part (.list items) ↔ part = .list items ∨ ∃ item ∈ items, Within part item := by
  constructor
  · intro hwithin
    cases hwithin with
    | refl => exact .inl rfl
    | item hitem hpart => exact .inr ⟨_, hitem, hpart⟩
  · intro hcases
    rcases hcases with rfl | ⟨item, hitem, hpart⟩
    · exact .refl _
    · exact .item hitem hpart

/-- The leaves of a literal are what stands in it and is a leaf. -/
theorem mem_leaves_iff {leaf literal : Literal} :
    leaf ∈ literal.leaves ↔ leaf.IsLeaf ∧ Within leaf literal := by
  induction literal using induct with
  | single literal hsingle =>
    rw [leaves_of_ne_list hsingle, List.mem_singleton, within_iff_of_ne_list hsingle]
    constructor
    · rintro rfl
      exact ⟨isLeaf_of_ne_list hsingle, rfl⟩
    · exact And.right
  | list items ih =>
    rw [within_list_iff]
    by_cases hitems : items = []
    · subst hitems
      rw [leaves_list_nil, List.mem_singleton]
      constructor
      · rintro rfl
        exact ⟨isLeaf_list_nil, .inl rfl⟩
      · intro hboth
        rcases hboth.2 with hsame | ⟨item, hitem, -⟩
        · exact hsame
        · cases hitem
    · rw [leaves_list hitems, List.mem_flatMap]
      constructor
      · intro hmem
        obtain ⟨item, hitem, hown⟩ := hmem
        obtain ⟨hleaf, hwithin⟩ := (ih item hitem).1 hown
        exact ⟨hleaf, .inr ⟨item, hitem, hwithin⟩⟩
      · intro hboth
        obtain ⟨hleaf, rfl | ⟨item, hitem, hwithin⟩⟩ := hboth
        · exact absurd (hleaf items rfl) hitems
        · exact ⟨item, hitem, (ih item hitem).2 ⟨hleaf, hwithin⟩⟩

/-- The leaves of several literals are what stands in them and is a leaf. -/
theorem mem_flatMap_leaves {literals : List Literal} {leaf : Literal} :
    leaf ∈ literals.flatMap leaves ↔ leaf.IsLeaf ∧ ∃ literal ∈ literals, Within leaf literal := by
  rw [List.mem_flatMap]
  simp only [mem_leaves_iff]
  tauto

/-- A leaf is without a text exactly where a list without elements stands. -/
theorem empty_mem_texts_iff {literals : List Literal} :
    "" ∈ (literals.flatMap leaves).map sql ↔ ∃ literal ∈ literals, Within (.list []) literal := by
  rw [List.mem_map]
  constructor
  · intro hempty
    obtain ⟨leaf, hmem, hsql⟩ := hempty
    obtain ⟨hleaf, hwithin⟩ := mem_flatMap_leaves.1 hmem
    rw [← hleaf.sql_eq_empty_iff.1 hsql]
    exact hwithin
  · intro hwithin
    exact ⟨.list [], mem_flatMap_leaves.2 ⟨isLeaf_list_nil, hwithin⟩, rfl⟩

/-- A leaf has a text exactly where a literal stands that is no list. -/
theorem exists_text_iff {literals : List Literal} :
    (∃ text ∈ (literals.flatMap leaves).map sql, text ≠ "") ↔
      ∃ literal ∈ literals, ∃ part, Within part literal ∧ ∀ items, part ≠ .list items := by
  constructor
  · intro hsome
    obtain ⟨text, htext, hsql⟩ := hsome
    obtain ⟨leaf, hmem, rfl⟩ := List.mem_map.1 htext
    obtain ⟨hleaf, literal, hliteral, hwithin⟩ := mem_flatMap_leaves.1 hmem
    refine ⟨literal, hliteral, leaf, hwithin, ?_⟩
    rintro items rfl
    rw [hleaf items rfl] at hsql
    exact hsql rfl
  · intro hpart
    obtain ⟨literal, hliteral, part, hwithin, hsingle⟩ := hpart
    have hmem := mem_flatMap_leaves.2 ⟨isLeaf_of_ne_list hsingle, literal, hliteral, hwithin⟩
    exact ⟨part.sql, List.mem_map_of_mem hmem, (endsSolid_sql hsingle).ne_empty⟩

/-! ## Literals that are written as one -/

/-- The literal is no list, or a list of nothing but such a literal. -/
inductive IsSingle : Literal → Prop where
  | scalar {literal : Literal} (hscalar : ∀ items, literal ≠ .list items) : IsSingle literal
  | list {item : Literal} (hitem : IsSingle item) : IsSingle (.list [item])

/-- The literal is no list and is written as the value is. -/
structure Renders (value literal : Literal) : Prop where
  scalar : ∀ items, literal ≠ .list items
  sql_eq : literal.sql = value.sql

/-- A single literal has one leaf, which is no list. -/
theorem IsSingle.exists_leaf {value : Literal} (hvalue : value.IsSingle) :
    ∃ leaf, value.leaves = [leaf] ∧ Renders value leaf := by
  induction hvalue with
  | @scalar literal hscalar => exact ⟨literal, leaves_of_ne_list hscalar, hscalar, rfl⟩
  | @list item hitem ih =>
    obtain ⟨leaf, hleaves, hrenders⟩ := ih
    refine ⟨leaf, ?_, hrenders.scalar, ?_⟩
    · rw [leaves_list (List.cons_ne_nil _ _), List.flatMap_singleton, hleaves]
    · rw [hrenders.sql_eq, sql, sqls_eq_map, List.map_singleton, String.intercalate_singleton]

/-- A literal with one leaf, which is no list, is single. -/
theorem isSingle_of_leaves {value leaf : Literal} (hleaves : value.leaves = [leaf])
    (hleaf : ∀ items, leaf ≠ .list items) : value.IsSingle := by
  induction value using induct with
  | single literal hsingle => exact .scalar hsingle
  | list items ih =>
    cases items with
    | nil =>
      rw [leaves_list_nil, List.singleton_inj] at hleaves
      exact absurd hleaves.symm (hleaf [])
    | cons item rest =>
      rw [leaves_list (List.cons_ne_nil _ _), List.flatMap_cons, List.append_eq_singleton_iff]
        at hleaves
      rcases hleaves with ⟨hnone, -⟩ | ⟨hitem, hrest⟩
      · exact absurd hnone (leaves_ne_nil item)
      · have hlast : rest = [] := by
          by_contra hne
          exact flatMap_leaves_ne_nil hne hrest
        subst hlast
        exact .list (ih item List.mem_cons_self hitem)

/-- A literal is single exactly when one leaf, which is no list, is what it is written as. -/
theorem isSingle_iff {value : Literal} :
    value.IsSingle ↔ ∃ leaf, value.leaves = [leaf] ∧ Renders value leaf := by
  constructor
  · exact IsSingle.exists_leaf
  · intro hleaf
    obtain ⟨leaf, hleaves, hrenders⟩ := hleaf
    exact isSingle_of_leaves hleaves hrenders.scalar

theorem length_le_length_leaves (values : List Literal) :
    values.length ≤ (values.flatMap leaves).length := by
  induction values with
  | nil => exact Nat.le_refl 0
  | cons value rest ih =>
    have hsome := List.length_pos_of_ne_nil (leaves_ne_nil value)
    rw [List.length_cons, List.flatMap_cons, List.length_append]
    omega

/-- The leaves of several values are one for each value, written as that value, exactly when every
value is single. -/
theorem forall₂_renders_iff {values : List Literal} :
    List.Forall₂ Renders values (values.flatMap leaves) ↔ ∀ value ∈ values, value.IsSingle := by
  induction values with
  | nil => simp
  | cons value rest ih =>
    rw [List.forall_mem_cons, ← ih, List.flatMap_cons]
    constructor
    · intro hall
      cases hleaves : value.leaves with
      | nil => exact absurd hleaves (leaves_ne_nil value)
      | cons leaf more =>
        rw [hleaves, List.cons_append] at hall
        cases hall with
        | cons hfirst hrest =>
          -- what is left over of the first value would make the leaves too many
          have hnone : more = [] := by
            have hlength := hrest.length_eq
            have hle := length_le_length_leaves rest
            rw [List.length_append] at hlength
            exact List.length_eq_zero_iff.1 (by omega)
          subst hnone
          exact ⟨isSingle_of_leaves hleaves hfirst.scalar, hrest⟩
    · intro hboth
      obtain ⟨leaf, hleaves, hrenders⟩ := hboth.1.exists_leaf
      rw [hleaves]
      exact .cons hrenders hboth.2

end Literal

end TableQuery
