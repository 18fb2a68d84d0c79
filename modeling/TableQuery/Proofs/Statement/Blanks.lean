import Mathlib.Data.List.ModifyLast
import Mathlib.Data.List.TakeWhile
import TableQuery.Proofs.Except
import TableQuery.Proofs.Literal
import TableQuery.Statement

/-!
# Blanks at the end of a clause

Only a list without elements is written without a character, so only a condition on such a list
leaves a blank at the end of a clause.  A literal of any other kind ends in a character of its own,
and what is written last of a `WHERE` clause is the one part of it that `dropFinalBlanks` can
shorten.
-/

namespace TableQuery

/-! ## Dropping blanks -/

namespace Statement

/-- Nothing is dropped of a text that does not end in a blank. -/
theorem dropFinalBlanks_of_endsSolid {text : String} (hsolid : EndsSolid text) :
    dropFinalBlanks text = text := by
  obtain ⟨front, last, htext, hlast⟩ := hsolid
  rw [dropFinalBlanks, htext, List.reverse_append, List.reverse_singleton, List.singleton_append,
    List.dropWhile_cons_of_neg (by simpa using hlast), List.reverse_cons, List.reverse_reverse,
    ← htext, String.ofList_toList]

/-- Blanks are dropped of the second text only, if there is more to it than blanks. -/
theorem dropFinalBlanks_append (first : String) {last : String}
    (hlast : ∃ c ∈ last.toList, c ≠ ' ') :
    dropFinalBlanks (first ++ last) = first ++ dropFinalBlanks last := by
  obtain ⟨c, hmem, hsolid⟩ := hlast
  have hrest : (last.toList.reverse.dropWhile (· = ' ')).isEmpty = false := by
    rw [List.isEmpty_eq_false_iff]
    intro hnone
    have hblank := List.dropWhile_eq_nil_iff.1 hnone c (List.mem_reverse.2 hmem)
    exact hsolid (by simpa using hblank)
  rw [dropFinalBlanks, dropFinalBlanks, String.toList_append, List.reverse_append,
    List.dropWhile_append, hrest, if_neg Bool.false_ne_true, List.reverse_append,
    List.reverse_reverse, String.ofList_append, String.ofList_toList]

/-- Of texts that are written one after the other, blanks are dropped of the last one only, if
there is more to it than blanks. -/
theorem dropFinalBlanks_intercalate (first separator : String) {texts : List String}
    (htexts : texts ≠ []) (hsolid : ∀ text ∈ texts, ∃ c ∈ text.toList, c ≠ ' ') :
    dropFinalBlanks (first ++ String.intercalate separator texts) =
      first ++ String.intercalate separator (texts.modifyLast dropFinalBlanks) := by
  obtain ⟨front, last, rfl⟩ : ∃ front last, texts = front ++ [last] :=
    ⟨texts.dropLast, texts.getLast htexts, (List.dropLast_append_getLast htexts).symm⟩
  have hlast := hsolid last (List.mem_append_right _ List.mem_cons_self)
  rw [List.modifyLast_concat]
  by_cases hfront : front = []
  · rw [hfront, List.nil_append, List.nil_append, String.intercalate_singleton,
      String.intercalate_singleton, dropFinalBlanks_append first hlast]
  · rw [String.intercalate_append_of_ne_nil hfront (List.cons_ne_nil _ _),
      String.intercalate_append_of_ne_nil hfront (List.cons_ne_nil _ _),
      String.intercalate_singleton, String.intercalate_singleton, ← String.append_assoc,
      ← String.append_assoc, dropFinalBlanks_append _ hlast]
    simp only [String.append_assoc]

/-- What is dropped of the last of several texts is dropped behind a text that does not end in
a blank. -/
theorem modifyLast_dropFinalBlanks (front : List String) {text : String} (hsolid : EndsSolid text)
    (back : List String) :
    (front ++ [text] ++ back).modifyLast dropFinalBlanks =
      front ++ [text] ++ back.modifyLast dropFinalBlanks := by
  by_cases hback : back = []
  · rw [hback, List.append_nil, List.modifyLast_concat, dropFinalBlanks_of_endsSolid hsolid]
    exact (List.append_nil _).symm
  · exact List.modifyLast_append_of_right_ne_nil _ _ _ hback

end Statement

end TableQuery
