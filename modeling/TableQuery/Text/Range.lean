/-!
# Classes of characters

A property of characters is kept as the list of closed ranges of code points that have it.
-/

namespace TableQuery.Text

/-- Whether a code point lies in one of the given closed ranges. -/
def inRanges (ranges : List (Nat × Nat)) (codePoint : Nat) : Bool :=
  ranges.any (fun range => range.1 ≤ codePoint && codePoint ≤ range.2)

end TableQuery.Text
