import TableQuery.Binary

/-!
# Decimal numbers

A `Decimal` is a natural number of units of a power of ten.  It is what the text of a number says
before any rounding, and what a printer lays out after it has chosen the digits.

`Decimal.round` takes one to the nearest binary number of a format.  A decimal far outside the
range of every format is settled by its size alone, so that a short text with a huge exponent costs
nothing.
-/

namespace TableQuery

/-- The number `significand * 10 ^ exponent`. -/
structure Decimal where
  significand : Nat
  exponent : Int
  deriving DecidableEq, Repr

namespace Decimal

/-- The value of a decimal digit. -/
def digitValue (c : Char) : Nat :=
  c.toNat - '0'.toNat

/-- The natural number written by decimal digits. -/
def ofDigits (digits : List Char) : Nat :=
  digits.foldl (fun n c => 10 * n + digitValue c) 0

/-- The number written as `whole.fraction` times a power of ten. -/
def ofParts (whole fraction : List Char) (exponent : Int) : Decimal :=
  ⟨ofDigits (whole ++ fraction), exponent - fraction.length⟩

/-- The digits of the significand, the leading one first. -/
def digits (d : Decimal) : List Char :=
  Nat.toDigits 10 d.significand

/-- The exponent of the leading digit. -/
def leadingExponent (d : Decimal) : Int :=
  d.exponent + d.digits.length - 1

/-- Moves factors of ten from the significand to the exponent, as many as `fuel` allows. -/
def stripZeros : Nat → Decimal → Decimal
  | 0, d => d
  | fuel + 1, d =>
    if d.significand ≠ 0 ∧ d.significand % 10 = 0 then
      stripZeros fuel ⟨d.significand / 10, d.exponent + 1⟩
    else d

/-- The magnitude of the given format nearest to a decimal.

With `b` the binary logarithm of the significand, the number is at least `10 ^ (exponent + b / 4)`
and below `10 ^ (exponent + (b + 1) / 3 + 1)`; past four hundred places either way no format has a
finite number other than zero. -/
def round (f : Binary.Format) (d : Decimal) : Nat :=
  let log := d.significand.log2
  if d.significand = 0 then 0
  else if 400 ≤ d.exponent + (log / 4 : Nat) then f.infinity
  else if d.exponent + ((log + 1) / 3 + 1 : Nat) ≤ -400 then 0
  else f.nearest (d.significand * Nat.pow 10 d.exponent.toNat) (Nat.pow 10 (-d.exponent).toNat)

end Decimal

/-- The 64-bit number nearest to a signed decimal. -/
def Binary64.ofDecimal (negative : Bool) (d : Decimal) : Binary64 :=
  .ofMagnitude negative (d.round Binary.format64)

/-- The 32-bit number nearest to a signed decimal. -/
def Binary32.ofDecimal (negative : Bool) (d : Decimal) : Binary32 :=
  .ofMagnitude negative (d.round Binary.format32)

end TableQuery
