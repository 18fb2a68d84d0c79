/-!
# Binary floating point numbers

A number of a binary interchange format is one sign bit, an exponent field and a fraction field.
The bits below the sign are its *magnitude*; the number they stand for is `significand * 2 ^ exponent`
with naturals and integers, and all arithmetic here is exact on those.

* `Format` describes a format by the widths of its two fields;
* `Format.decode` reads a magnitude;
* `Format.nearest` is the magnitude nearest to a ratio of naturals, a half going to the even
  significand and everything past the largest number becoming infinite;
* `Binary64` and `Binary32` are the two formats in use, and `Binary32.widen` carries the narrow one
  into the wide one without loss.
-/

namespace TableQuery

/-- A binary interchange format, given by the widths of its two fields. -/
structure Binary.Format where
  /-- Bits of the fraction field. -/
  fractionBits : Nat
  /-- Bits of the exponent field. -/
  exponentBits : Nat

namespace Binary

/-- What a magnitude stands for. -/
inductive Magnitude where
  /-- The number `significand * 2 ^ exponent`. -/
  | finite (significand : Nat) (exponent : Int)
  | infinite
  | nan
  deriving DecidableEq, Repr

namespace Format

/-- The exponent of the least positive number, which is one unit of it. -/
def leastExponent (f : Format) : Int :=
  2 - (Nat.pow 2 (f.exponentBits - 1) : Nat) - f.fractionBits

/-- The magnitude of infinity: an exponent field of ones and an empty fraction. -/
def infinity (f : Format) : Nat :=
  (Nat.pow 2 f.exponentBits - 1) * Nat.pow 2 f.fractionBits

/-- Reads a magnitude.  An exponent field of zero marks the numbers without an implicit leading
bit, one of all ones the values that are no numbers. -/
def decode (f : Format) (magnitude : Nat) : Magnitude :=
  let unit := Nat.pow 2 f.fractionBits
  let field := magnitude / unit
  let fraction := magnitude % unit
  if f.infinity < magnitude then .nan
  else if magnitude = f.infinity then .infinite
  else if field = 0 then .finite fraction f.leastExponent
  else .finite (unit + fraction) (f.leastExponent + field - 1)

/-- The quotient rounded to the nearest natural, a half to the even one. -/
def roundHalfEven (num den : Nat) : Nat :=
  let quotient := num / den
  let rest := 2 * (num % den)
  if den < rest ∨ (rest = den ∧ quotient % 2 = 1) then quotient + 1 else quotient

/-- The two sides of `num / (den * 2 ^ exponent)`. -/
def scaleDown (num den : Nat) (exponent : Int) : Nat × Nat :=
  (num * Nat.pow 2 (-exponent).toNat, den * Nat.pow 2 exponent.toNat)

/-- The magnitude nearest to `num / den`.

The exponent is chosen so that the quotient fills the significand; a significand that rounding
carries to the next power of two then moves the exponent field up by one of its own accord, since
the field is added to the significand and not stored beside it. -/
def nearest (f : Format) (num den : Nat) : Nat :=
  if num = 0 then 0
  else
    let full := f.fractionBits + 1
    let guess : Int := (num.log2 : Int) - den.log2 - full
    let (n, d) := scaleDown num den guess
    let fitted := if n / d < Nat.pow 2 full then guess else guess + 1
    let exponent := max f.leastExponent fitted
    let (n, d) := scaleDown num den exponent
    let field := (exponent - f.leastExponent).toNat
    let magnitude := field * Nat.pow 2 f.fractionBits + roundHalfEven n d
    min f.infinity magnitude

/-- The magnitude nearest to `num / den * 2 ^ exponent`. -/
def nearestScaled (f : Format) (num den : Nat) (exponent : Int) : Nat :=
  f.nearest (num * Nat.pow 2 exponent.toNat) (den * Nat.pow 2 (-exponent).toNat)

end Format

/-- The 64-bit format. -/
def format64 : Format := ⟨52, 11⟩

/-- The 32-bit format. -/
def format32 : Format := ⟨23, 8⟩

end Binary

/-- A 64-bit floating point number, by its bits. -/
structure Binary64 where
  bits : UInt64
  deriving DecidableEq, Repr

/-- A 32-bit floating point number, by its bits. -/
structure Binary32 where
  bits : UInt32
  deriving DecidableEq, Repr

namespace Binary64

/-- The sign bit. -/
def signBit : Nat := 0x8000000000000000

/-- The number with the given sign and magnitude. -/
def ofMagnitude (negative : Bool) (magnitude : Nat) : Binary64 :=
  ⟨UInt64.ofNat (if negative then signBit + magnitude else magnitude)⟩

/-- Whether the sign bit is set. -/
def negative (x : Binary64) : Bool :=
  signBit ≤ x.bits.toNat

/-- What the bits below the sign stand for. -/
def magnitude (x : Binary64) : Binary.Magnitude :=
  Binary.format64.decode (x.bits.toNat % signBit)

/-- Whether the gap to the number next below is half the gap to the one next above, as it is at a
power of two whose neighbour below has a smaller exponent. -/
def narrowBelow (x : Binary64) : Bool :=
  let unit := Nat.pow 2 Binary.format64.fractionBits
  let magnitude := x.bits.toNat % signBit
  magnitude % unit = 0 ∧ unit < magnitude

def isFinite (x : Binary64) : Bool :=
  x.magnitude matches .finite ..

/-- The quiet number that stands for no value. -/
def nan : Binary64 := ⟨0x7FF8000000000000⟩

/-- Infinity of the given sign. -/
def infinity (negative : Bool) : Binary64 :=
  ofMagnitude negative Binary.format64.infinity

end Binary64

namespace Binary32

/-- The sign bit. -/
def signBit : Nat := 0x80000000

/-- The number with the given sign and magnitude. -/
def ofMagnitude (negative : Bool) (magnitude : Nat) : Binary32 :=
  ⟨UInt32.ofNat (if negative then signBit + magnitude else magnitude)⟩

/-- Whether the sign bit is set. -/
def negative (x : Binary32) : Bool :=
  signBit ≤ x.bits.toNat

/-- What the bits below the sign stand for. -/
def magnitude (x : Binary32) : Binary.Magnitude :=
  Binary.format32.decode (x.bits.toNat % signBit)

/-- The same number in the 64-bit format, which holds every 32-bit one. -/
def widen (x : Binary32) : Binary64 :=
  match x.magnitude with
  | .nan => .nan
  | .infinite => .infinity x.negative
  | .finite significand exponent =>
    .ofMagnitude x.negative (Binary.format64.nearestScaled significand 1 exponent)

/-- The quiet number that stands for no value. -/
def nan : Binary32 := ⟨0x7FC00000⟩

/-- Infinity of the given sign. -/
def infinity (negative : Bool) : Binary32 :=
  ofMagnitude negative Binary.format32.infinity

end Binary32

end TableQuery
