import TableQuery.Decimal

/-!
# Reading decimals in steps

A reader that keeps one word of digits, and works in the binary format from there on, rounds several
times: the significand is rounded first, and what comes of it is multiplied or divided by powers of
ten that are rounded themselves.  Where significand and power are both exact in the format this is
the nearest number; elsewhere it may be a neighbour of it.

* `Decimal.ofPartsWithin` keeps the leading digits that a bounded significand has room for;
* `Decimal.roundStepwise` is the 64-bit magnitude that the steps arrive at.
-/

namespace TableQuery

namespace Decimal

/-- Writes digits behind a natural number for as long as the result stays within the limit, and
gives back the digits that found no room. -/
def appendWithin (limit : Nat) : Nat → List Char → Nat × List Char
  | n, [] => (n, [])
  | n, d :: ds =>
    let next := 10 * n + digitValue d
    if next ≤ limit then appendWithin limit next ds else (n, d :: ds)

/-- The number written as `whole.fraction` times a power of ten, cut down to a significand within
the limit.  A whole digit without room raises the exponent in its stead.  The fraction goes on
behind the digits that were kept, and what it has no room for is left out. -/
def ofPartsWithin (limit : Nat) (whole fraction : List Char) (exponent : Int) : Decimal :=
  let (kept, wholeLeft) := appendWithin limit 0 whole
  let (significand, fractionLeft) := appendWithin limit kept fraction
  ⟨significand, exponent + wholeLeft.length + fractionLeft.length - fraction.length⟩

namespace Stepwise

open Binary (format64)

/-- The greatest exponent of a power of ten within the 64-bit format. -/
def reach : Int := 308

/-- One step: the magnitude is multiplied by the rounded power of ten of an exponent within reach,
or divided by that of the opposite exponent where it is negative, and the result is rounded. -/
def scale (magnitude : Nat) (exponent : Int) : Nat :=
  let power := format64.nearest (Nat.pow 10 exponent.natAbs) 1
  match format64.decode magnitude, format64.decode power with
  | .finite a p, .finite b q =>
    if 0 ≤ exponent then format64.nearestScaled (a * b) 1 (p + q)
    else format64.nearestScaled a b (p - q)
  | _, _ => format64.infinity

/-- All steps: an exponent below reach is worked off by whole reaches while anything is left, and
one above it takes everything but zero past the largest number. -/
def scaleFully (magnitude : Nat) (exponent : Int) : Nat :=
  if magnitude = 0 then 0
  else if exponent < -reach then scaleFully (scale magnitude (-reach)) (exponent + reach)
  else if exponent ≤ reach then scale magnitude exponent
  else format64.infinity
termination_by (-exponent).toNat
decreasing_by simp only [reach] at *; omega

end Stepwise

/-- The 64-bit magnitude that a decimal is brought to in steps. -/
def roundStepwise (d : Decimal) : Nat :=
  Stepwise.scaleFully (Binary.format64.nearest d.significand 1) d.exponent

end Decimal

/-- The 64-bit number that a signed decimal is brought to in steps. -/
def Binary64.ofDecimalStepwise (negative : Bool) (d : Decimal) : Binary64 :=
  .ofMagnitude negative d.roundStepwise

end TableQuery
