import TableQuery.Text.Range

/-!
# Characters that are drawn as nothing

Characters that a display leaves out where it does not act on them: the property
Default_Ignorable_Code_Point of Unicode 17.  Letters are among them, the fillers that hold the place
of a missing part of a Hangul syllable.
-/

namespace TableQuery.Text

/-- The code points that are drawn as nothing, in ascending ranges. -/
def invisibleRanges : List (Nat × Nat) :=
  [(0xAD, 0xAD), (0x34F, 0x34F), (0x61C, 0x61C), (0x115F, 0x1160), (0x17B4, 0x17B5),
   (0x180B, 0x180F), (0x200B, 0x200F), (0x202A, 0x202E), (0x2060, 0x206F), (0x3164, 0x3164),
   (0xFE00, 0xFE0F), (0xFEFF, 0xFEFF), (0xFFA0, 0xFFA0), (0xFFF0, 0xFFF8), (0x1BCA0, 0x1BCA3),
   (0x1D173, 0x1D17A), (0xE0000, 0xE0FFF)]

/-- Whether a character is drawn as nothing. -/
def isInvisible (c : Char) : Bool :=
  inRanges invisibleRanges c.toNat

end TableQuery.Text
