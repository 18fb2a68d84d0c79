import TableQuery.Decimal.Stepwise
import TableQuery.Json

/-!
# Reading JSON text

The grammar is the strict one: four blank characters, no leading zeros, no trailing commas, no
control characters in strings, escapes in pairs where a character needs a pair.  A text that breaks
it fails in one of two ways, and the difference is kept because a caller that receives text piece
by piece needs it: the text is *unfinished* when its end comes where more is required, and
*malformed* when a character stands where none of its kind may.

Every step returns the rest of the text with a proof that it is shorter, which is what the loops
over items and entries end by.  The nesting of arrays and objects ends by the depth that is left.
-/

namespace TableQuery.Json

/-- Why a text is not the text of a JSON value. -/
inductive ReadFault where
  /-- The text ends before the value is complete. -/
  | unfinished
  /-- Some character may not stand where it does, or a number or a nesting is beyond its limit. -/
  | malformed
  deriving DecidableEq, Repr

namespace Reader

/-- What is left of a text after reading some of it. -/
abbrev Rest (text : List Char) :=
  { rest : List Char // rest.length < text.length }

/-- What is left of a text after reading some or none of it. -/
abbrev Remainder (text : List Char) :=
  { rest : List Char // rest.length ≤ text.length }

/-- The outcome of reading something at the start of a text. -/
abbrev Step (α : Type) (text : List Char) :=
  Except ReadFault (α × Rest text)

/-- What stands behind the first character that is not dropped is shorter than the text. -/
theorem length_lt_of_dropWhile_eq_cons {p : Char → Bool} {text rest : List Char} {c : Char}
    (hdrop : text.dropWhile p = c :: rest) : rest.length < text.length := by
  have hsuffix : c :: rest <:+ text := hdrop ▸ List.dropWhile_suffix p
  exact hsuffix.length_le

/-! ## Blanks and words -/

def isBlank (c : Char) : Bool :=
  c = ' ' ∨ c = '\n' ∨ c = '\t' ∨ c = '\r'

def skipBlanks (text : List Char) : Remainder text :=
  ⟨text.dropWhile isBlank, (List.dropWhile_suffix isBlank).length_le⟩

/-- Reads the given characters. -/
def word : (expected text : List Char) → Except ReadFault (Remainder text)
  | [], text => .ok ⟨text, Nat.le_refl _⟩
  | _ :: _, [] => .error .unfinished
  | e :: expected, c :: text =>
    if c = e then
      (word expected text).map (fun rest => ⟨rest.1, by have := rest.2; simp; omega⟩)
    else .error .malformed

/-! ## Numbers -/

/-- Reads one digit or more. -/
def digits : (text : List Char) → Step (List Char) text
  | [] => .error .unfinished
  | c :: text =>
    if c.isDigit then
      .ok (c :: text.takeWhile Char.isDigit, ⟨text.dropWhile Char.isDigit, by
        have hsuffix : text.dropWhile Char.isDigit <:+ text := List.dropWhile_suffix Char.isDigit
        exact Nat.lt_succ_of_le hsuffix.length_le⟩)
    else .error .malformed

/-- Reads the sign and the digits of an exponent. -/
def exponent : (text : List Char) → Step Int text
  | '-' :: text =>
    (digits text).map (fun (ds, rest) =>
      (-(Decimal.ofDigits ds : Int), ⟨rest.1, by have := rest.2; simp; omega⟩))
  | '+' :: text =>
    (digits text).map (fun (ds, rest) =>
      ((Decimal.ofDigits ds : Int), ⟨rest.1, by have := rest.2; simp; omega⟩))
  | text => (digits text).map (fun (ds, rest) => ((Decimal.ofDigits ds : Int), rest))

/-- Reads an exponent part, if there is one. -/
def exponentPart : (text : List Char) → Except ReadFault (Option Int × Remainder text)
  | [] => .ok (none, ⟨[], Nat.le_refl _⟩)
  | c :: text =>
    if c = 'e' ∨ c = 'E' then
      (exponent text).map (fun (e, rest) => (some e, ⟨rest.1, by have := rest.2; simp; omega⟩))
    else .ok (none, ⟨c :: text, Nat.le_refl _⟩)

/-- The greatest significand of a real, which is the greatest 64-bit word. -/
def significandLimit : Nat := 0xFFFFFFFFFFFFFFFF

/-- The real written as `whole.fraction` times a power of ten, unless it is beyond the largest one.
Its significand keeps to one word, and it is brought to its place in steps. -/
def realValue (negative : Bool) (whole fraction : List Char) (power : Int) :
    Except ReadFault Json :=
  let x := Binary64.ofDecimalStepwise negative
    (Decimal.ofPartsWithin significandLimit whole fraction power)
  if x.isFinite then .ok (.real x) else .error .malformed

/-- The value of a number without fraction and exponent: whole if a 64-bit word holds it, else a
real.  The negative zero is a real, since no word holds it. -/
def wholeValue (negative : Bool) (ds : List Char) : Except ReadFault Json :=
  let n := Decimal.ofDigits ds
  let asReal := realValue negative ds [] 0
  if negative then
    if n = 0 then asReal
    else match Whole.ofInt? (-n) with
      | some value => .ok (.whole value)
      | none => asReal
  else match Whole.ofInt? n with
    | some value => .ok (.whole value)
    | none => asReal

/-- Reads a number without its sign. -/
def unsigned (negative : Bool) (text : List Char) : Step Json text := do
  let (integral, ⟨next, hnext⟩) ← digits text
  if integral.head? = some '0' ∧ 1 < integral.length then
    throw .malformed
  match next, hnext with
  | '.' :: fractionText, hnext =>
    let (fraction, ⟨afterFraction, hfraction⟩) ← digits fractionText
    let (power, ⟨rest, hrest⟩) ← exponentPart afterFraction
    let value ← realValue negative integral fraction (power.getD 0)
    return (value, ⟨rest, by simp at hnext; omega⟩)
  | next, hnext =>
    let (power, ⟨rest, hrest⟩) ← exponentPart next
    let value ← match power with
      | none => wholeValue negative integral
      | some power => realValue negative integral [] power
    return (value, ⟨rest, by omega⟩)

/-- Reads a number. -/
def number : (text : List Char) → Step Json text
  | '-' :: text =>
    (unsigned true text).map (fun (value, rest) =>
      (value, ⟨rest.1, by have := rest.2; simp; omega⟩))
  | text => unsigned false text

/-! ## Strings -/

def hexValue? (c : Char) : Option Nat :=
  if '0' ≤ c ∧ c ≤ '9' then some (c.toNat - '0'.toNat)
  else if 'a' ≤ c ∧ c ≤ 'f' then some (c.toNat - 'a'.toNat + 10)
  else if 'A' ≤ c ∧ c ≤ 'F' then some (c.toNat - 'A'.toNat + 10)
  else none

/-- Reads the four digits of a code unit.  The end of the text is felt only when fewer than four
bytes of it are left. -/
def codeUnit : (text : List Char) → Step Nat text
  | a :: b :: c :: d :: rest =>
    match hexValue? a, hexValue? b, hexValue? c, hexValue? d with
    | some a, some b, some c, some d =>
      .ok (((a * 16 + b) * 16 + c) * 16 + d, ⟨rest, by simp; omega⟩)
    | _, _, _, _ => .error .malformed
  | few => if (String.ofList few).utf8ByteSize < 4 then .error .unfinished else .error .malformed

def isLeading (unit : Nat) : Bool := 0xD800 ≤ unit ∧ unit ≤ 0xDBFF

def isTrailing (unit : Nat) : Bool := 0xDC00 ≤ unit ∧ unit ≤ 0xDFFF

/-- Reads a character given by its code units: one unit, or a leading and a trailing one. -/
def unicodeEscape (text : List Char) : Step Char text := do
  let (unit, ⟨rest, hshorter⟩) ← codeUnit text
  if isTrailing unit then throw .malformed
  if ¬isLeading unit then return (Char.ofNat unit, ⟨rest, hshorter⟩)
  match rest, hshorter with
  | '\\' :: 'u' :: second, hshorter =>
    let (trailing, ⟨after, hafter⟩) ← codeUnit second
    if ¬isTrailing trailing then throw .malformed
    return (Char.ofNat (0x10000 + (unit - 0xD800) * 0x400 + (trailing - 0xDC00)),
      ⟨after, by simp at hshorter; omega⟩)
  | [], _ => throw .unfinished
  | ['\\'], _ => throw .unfinished
  | _, _ => throw .malformed

/-- The character that a letter stands for behind a backslash. -/
def unescape? : Char → Option Char
  | '"' => some '"'
  | '\\' => some '\\'
  | '/' => some '/'
  | 'b' => some '\x08'
  | 'f' => some '\x0c'
  | 'n' => some '\n'
  | 'r' => some '\r'
  | 't' => some '\t'
  | _ => none

/-- Reads what follows a backslash. -/
def escaped : (text : List Char) → Step Char text
  | [] => .error .unfinished
  | 'u' :: text =>
    (unicodeEscape text).map (fun (c, rest) => (c, ⟨rest.1, by have := rest.2; simp; omega⟩))
  | letter :: text =>
    match unescape? letter with
    | some c => .ok (c, ⟨text, by simp⟩)
    | none => .error .malformed

/-- A character that stands for itself in a string. -/
def isPlain (c : Char) : Bool :=
  c ≠ '"' ∧ c ≠ '\\' ∧ 0x20 ≤ c.toNat

/-- Reads the characters of a string and its closing quote. -/
def stringBody (text : List Char) : Step (List Char) text :=
  let run := text.takeWhile isPlain
  match hdrop : text.dropWhile isPlain with
  | [] => .error .unfinished
  | '"' :: rest => .ok (run, ⟨rest, length_lt_of_dropWhile_eq_cons hdrop⟩)
  | '\\' :: rest =>
    match escaped rest with
    | .error fault => .error fault
    | .ok (c, ⟨after, hafter⟩) =>
      have hshorter : after.length < text.length :=
        Nat.lt_trans hafter (length_lt_of_dropWhile_eq_cons hdrop)
      match stringBody after with
      | .error fault => .error fault
      | .ok (more, ⟨tail, htail⟩) =>
        .ok (run ++ c :: more, ⟨tail, Nat.lt_trans htail hshorter⟩)
  | _ :: _ => .error .malformed
termination_by text.length

/-! ## Arrays and objects -/

/-- Reads the items of an array up to its closing bracket; there is at least one. -/
def items (item : (text : List Char) → Step Json text) (text : List Char) :
    Step (List Json) text :=
  match item text with
  | .error fault => .error fault
  | .ok (value, ⟨afterItem, hitem⟩) =>
    let ⟨next, hnext⟩ := skipBlanks afterItem
    match next with
    | [] => .error .unfinished
    | ']' :: rest => .ok ([value], ⟨rest, by simp at hnext; omega⟩)
    | ',' :: rest =>
      have hshorter : rest.length < text.length := by simp at hnext; omega
      match items item rest with
      | .error fault => .error fault
      | .ok (values, ⟨tail, htail⟩) =>
        .ok (value :: values, ⟨tail, Nat.lt_trans htail hshorter⟩)
    | _ :: _ => .error .malformed
termination_by text.length

/-- Reads the key of an entry and the colon behind it. -/
def key (text : List Char) : Step String text :=
  let ⟨start, hstart⟩ := skipBlanks text
  match start with
  | [] => .error .unfinished
  | '"' :: body =>
    match stringBody body with
    | .error fault => .error fault
    | .ok (name, ⟨afterName, hname⟩) =>
      let ⟨next, hnext⟩ := skipBlanks afterName
      match next with
      | [] => .error .unfinished
      | ':' :: rest =>
        .ok (String.ofList name, ⟨rest, by simp at hstart hnext; omega⟩)
      | _ :: _ => .error .malformed
  | _ :: _ => .error .malformed

/-- Reads the entries of an object up to its closing brace; there is at least one. -/
def entries (item : (text : List Char) → Step Json text) (text : List Char) :
    Step (List (String × Json)) text :=
  match key text with
  | .error fault => .error fault
  | .ok (name, ⟨valueText, hkey⟩) =>
    match item valueText with
    | .error fault => .error fault
    | .ok (value, ⟨afterItem, hitem⟩) =>
      let ⟨next, hnext⟩ := skipBlanks afterItem
      match next with
      | [] => .error .unfinished
      | '}' :: rest => .ok ([(name, value)], ⟨rest, by simp at hnext; omega⟩)
      | ',' :: rest =>
        have hshorter : rest.length < text.length := by simp at hnext; omega
        match entries item rest with
        | .error fault => .error fault
        | .ok (fields, ⟨tail, htail⟩) =>
          .ok ((name, value) :: fields, ⟨tail, Nat.lt_trans htail hshorter⟩)
      | _ :: _ => .error .malformed
termination_by text.length

/-- An object of entries in written order; a key that repeats keeps its first place and takes its
last value. -/
def object (fields : List (String × Json)) : Json :=
  .obj (fields.foldl (fun seen field => Keyed.put Prod.fst field seen) [])

/-- Carries the rest of a text over to a longer text. -/
def widen {α : Type} {short text : List Char} (hshorter : short.length ≤ text.length)
    (step : Step α short) : Step α text :=
  step.map (fun (a, rest) => (a, ⟨rest.1, Nat.lt_of_lt_of_le rest.2 hshorter⟩))

/-- Reads a value whose arrays and objects nest at most `depth` deep. -/
def value (depth : Nat) (text : List Char) : Step Json text :=
  let ⟨start, hstart⟩ := skipBlanks text
  widen hstart <| match start with
    | [] => .error .unfinished
    | 'n' :: rest =>
      (word ['u', 'l', 'l'] rest).map (fun tail =>
        (.null, ⟨tail.1, by have := tail.2; simp; omega⟩))
    | 't' :: rest =>
      (word ['r', 'u', 'e'] rest).map (fun tail =>
        (.bool true, ⟨tail.1, by have := tail.2; simp; omega⟩))
    | 'f' :: rest =>
      (word ['a', 'l', 's', 'e'] rest).map (fun tail =>
        (.bool false, ⟨tail.1, by have := tail.2; simp; omega⟩))
    | '"' :: rest =>
      widen (by simp) ((stringBody rest).map (fun (cs, tail) => (.str (String.ofList cs), tail)))
    | '[' :: rest =>
      match depth with
      | 0 => .error .malformed
      | depth + 1 =>
        let ⟨inner, hinner⟩ := skipBlanks rest
        match inner with
        | ']' :: tail => .ok (.arr [], ⟨tail, by simp at *; omega⟩)
        | inner =>
          widen (by simp at *; omega)
            ((items (value depth) inner).map (fun (values, tail) => (.arr values, tail)))
    | '{' :: rest =>
      match depth with
      | 0 => .error .malformed
      | depth + 1 =>
        let ⟨inner, hinner⟩ := skipBlanks rest
        match inner with
        | '}' :: tail => .ok (.obj [], ⟨tail, by simp at *; omega⟩)
        | inner =>
          widen (by simp at *; omega)
            ((entries (value depth) inner).map (fun (fields, tail) => (object fields, tail)))
    | c :: rest =>
      if c = '-' ∨ c.isDigit then number (c :: rest) else .error .malformed

end Reader

/-- The JSON value of a text whose arrays and objects nest at most `depth` deep. -/
def readWithin (depth : Nat) (text : String) : Except ReadFault Json := do
  let (value, rest) ← Reader.value depth text.toList
  if (Reader.skipBlanks rest.1).1.isEmpty then return value else throw .malformed

/-- The JSON value of a text.  Arrays and objects may nest up to 127 deep. -/
def read (text : String) : Except ReadFault Json :=
  readWithin 127 text

end TableQuery.Json
