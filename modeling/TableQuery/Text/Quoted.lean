import TableQuery.Text.Combining
import TableQuery.Text.Invisible
import TableQuery.Text.Unprintable

/-!
# Quoted text for messages

A message that shows a text puts it in double quotes and makes every character of it visible: a
quote and a backslash stand behind a backslash, the common controls have a letter, and a character
that could not be seen on its own is given by its code point.
-/

namespace TableQuery.Text

/-- The code point of a character between braces, in lower-case hexadecimal. -/
def codePointEscape (c : Char) : List Char :=
  ['\\', 'u', '{'] ++ Nat.toDigits 16 c.toNat ++ ['}']

/-- A character as it is shown between quotes. -/
def shown (c : Char) : List Char :=
  match c with
  | '"' => ['\\', '"']
  | '\\' => ['\\', '\\']
  | '\n' => ['\\', 'n']
  | '\r' => ['\\', 'r']
  | '\t' => ['\\', 't']
  | '\x00' => ['\\', '0']
  | c => if isCombining c || isInvisible c || isUnprintable c then codePointEscape c else [c]

/-- A text in double quotes, every character of it visible. -/
def quoted (text : String) : String :=
  "\"" ++ String.ofList (text.toList.flatMap shown) ++ "\""

end TableQuery.Text
