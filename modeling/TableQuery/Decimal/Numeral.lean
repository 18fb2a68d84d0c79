import TableQuery.Decimal

/-!
# Numerals

The written form in which a floating point number is given by hand: an optional sign, then digits
with an optional point and an optional exponent, or one of the words for infinity and for no value.
`Numeral.ofText?` reads it without rounding; `Numeral.toBinary64` and `Numeral.toBinary32` round
once, straight to the wanted format.
-/

namespace TableQuery

/-- A numeral as written, before rounding. -/
inductive Numeral where
  | nan
  | infinite (negative : Bool)
  | finite (negative : Bool) (value : Decimal)
  deriving DecidableEq, Repr

namespace Numeral

/-- Reads an exponent part: nothing, or `e` with an optional sign and at least one digit. -/
def exponent? : List Char → Option Int
  | [] => some 0
  | mark :: rest =>
    if mark ≠ 'e' ∧ mark ≠ 'E' then none
    else
      let (negative, digits) := match rest with
        | '-' :: digits => (true, digits)
        | '+' :: digits => (false, digits)
        | digits => (false, digits)
      if digits.isEmpty ∨ ¬digits.all Char.isDigit then none
      else
        let value : Int := Decimal.ofDigits digits
        some (if negative then -value else value)

/-- Reads an unsigned decimal: digits with at most one point, at least one digit in all, and an
optional exponent. -/
def unsigned? (text : List Char) : Option Decimal :=
  let whole := text.takeWhile Char.isDigit
  let (fraction, rest) := match text.dropWhile Char.isDigit with
    | '.' :: after => (after.takeWhile Char.isDigit, after.dropWhile Char.isDigit)
    | after => ([], after)
  if whole.isEmpty ∧ fraction.isEmpty then none
  else (exponent? rest).map (Decimal.ofParts whole fraction)

/-- Reads a numeral.  The words are read in any letter case. -/
def ofText? (text : String) : Option Numeral :=
  let (negative, body) := match text.toList with
    | '-' :: body => (true, body)
    | '+' :: body => (false, body)
    | body => (false, body)
  let word := String.ofList (body.map Char.toLower)
  if word = "nan" then some .nan
  else if word = "inf" ∨ word = "infinity" then some (.infinite negative)
  else (unsigned? body).map (.finite negative)

/-- The nearest 64-bit number. -/
def toBinary64 : Numeral → Binary64
  | .nan => .nan
  | .infinite negative => .infinity negative
  | .finite negative value => .ofDecimal negative value

/-- The nearest 32-bit number. -/
def toBinary32 : Numeral → Binary32
  | .nan => .nan
  | .infinite negative => .infinity negative
  | .finite negative value => .ofDecimal negative value

end Numeral

end TableQuery
