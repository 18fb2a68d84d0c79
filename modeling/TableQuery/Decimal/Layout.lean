import TableQuery.Decimal.Shortest

/-!
# Laying out floating point numbers

The text of a floating point number is its shortest decimal, written positionally or with an
exponent.  A `Layout` holds the decisions that tell one output format from another; `Layout.text?`
is the text under them.
-/

namespace TableQuery

/-- How a format writes floating point numbers. -/
structure Layout where
  /-- Whether a number with this exponent of the leading digit is written without an exponent. -/
  positional : Int → Bool
  /-- What follows the digits of a whole number that is written positionally. -/
  afterWhole : String
  /-- Which of two equally near shortest decimals is written. -/
  tie : Decimal.Tie

namespace Layout

/-- The digits of a decimal with the point at its place. -/
def positionalText (layout : Layout) (d : Decimal) : String :=
  let digits := d.digits
  if 0 ≤ d.exponent then
    String.ofList (digits ++ List.replicate d.exponent.toNat '0') ++ layout.afterWhole
  else
    let places := (-d.exponent).toNat
    if places < digits.length then
      String.ofList
        (digits.take (digits.length - places) ++ '.' :: digits.drop (digits.length - places))
    else
      String.ofList ('0' :: '.' :: List.replicate (places - digits.length) '0' ++ digits)

/-- One digit, the others behind a point, and a signed exponent. -/
def scientificText (d : Decimal) : String :=
  let exponent := d.leadingExponent
  let mantissa := match d.digits with
    | first :: second :: rest => first :: '.' :: second :: rest
    | digits => digits
  String.ofList mantissa ++ (if exponent < 0 then "e-" else "e+") ++ toString exponent.natAbs

/-- The text of a non-negative decimal in shortest form. -/
def decimalText (layout : Layout) (d : Decimal) : String :=
  if layout.positional d.leadingExponent then layout.positionalText d else scientificText d

/-- The text of a floating point number; infinities and values that are no numbers have none.
Zero keeps its sign. -/
def text? (layout : Layout) (x : Binary64) : Option String :=
  match x.magnitude with
  | .nan => none
  | .infinite => none
  | .finite significand exponent =>
    let decimal :=
      if significand = 0 then ⟨0, 0⟩
      else Decimal.shortest layout.tie ⟨significand, exponent, x.narrowBelow⟩
    some ((if x.negative then "-" else "") ++ layout.decimalText decimal)

end Layout

end TableQuery
