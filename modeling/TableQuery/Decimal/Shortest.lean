import TableQuery.Decimal

/-!
# The shortest decimal that reads back

Every binary number stands for an interval of reals, those that round to it.  Its shortest decimal
is a point of that interval with as few digits as possible, and among those the one nearest to the
number.  `shortest` finds it by exact arithmetic: it walks the powers of ten downwards and on each
such grid tests the two neighbours of the number, so the first hit has the fewest digits.

`ReadsBack` is the interval, stated on naturals; `readsBack_of_onGrid?` says that an answer found on a
grid lies in it.
-/

namespace TableQuery.Decimal

/-- Which of two equally near decimals is taken. -/
inductive Tie where
  /-- The one with an even last digit. -/
  | toEven
  /-- The larger one. -/
  | up
  deriving DecidableEq, Repr

/-- A positive binary number `significand * 2 ^ exponent` with the width of the gap below it. -/
structure Point where
  significand : Nat
  exponent : Int
  /-- Whether the gap below is half the gap above. -/
  narrowBelow : Bool

/-- Compares a decimal with `n * 2 ^ q`. -/
def compareBinary (d : Decimal) (n : Nat) (q : Int) : Ordering :=
  compare (d.significand * Nat.pow 10 d.exponent.toNat * Nat.pow 2 (-q).toNat)
    (n * Nat.pow 2 q.toNat * Nat.pow 10 (-d.exponent).toNat)

/-- The decimal lies among the reals that round to the point.  The interval reaches half way to
either neighbour and holds its ends exactly when the significand is even. -/
def ReadsBack (p : Point) (d : Decimal) : Prop :=
  let low := 4 * p.significand - (if p.narrowBelow then 1 else 2)
  let high := 4 * p.significand + 2
  let closed := p.significand % 2 = 0
  (compareBinary d low (p.exponent - 2) = .gt ∨
    closed ∧ compareBinary d low (p.exponent - 2) = .eq) ∧
  (compareBinary d high (p.exponent - 2) = .lt ∨
    closed ∧ compareBinary d high (p.exponent - 2) = .eq)

instance (p : Point) (d : Decimal) : Decidable (ReadsBack p d) := by
  unfold ReadsBack; infer_instance

/-- The largest multiple of `10 ^ k` that is not above the point. -/
def below (p : Point) (k : Int) : Decimal :=
  ⟨p.significand * Nat.pow 2 p.exponent.toNat * Nat.pow 10 (-k).toNat /
    (Nat.pow 10 k.toNat * Nat.pow 2 (-p.exponent).toNat), k⟩

/-- The next multiple on the same grid. -/
def next (d : Decimal) : Decimal :=
  ⟨d.significand + 1, d.exponent⟩

/-- Whether the point lies nearer to `d.next` than to `d`, a tie decided by the given rule. -/
def preferNext (tie : Tie) (p : Point) (d : Decimal) : Bool :=
  match compareBinary ⟨2 * d.significand + 1, d.exponent⟩ (2 * p.significand) p.exponent with
  | .lt => true
  | .gt => false
  | .eq => tie = .up ∨ d.significand % 2 = 1

/-- The better of the two neighbours on the grid `10 ^ k`, if one of them reads back. -/
def onGrid? (tie : Tie) (p : Point) (k : Int) : Option Decimal :=
  let d := below p k
  if ReadsBack p d then
    if ReadsBack p d.next ∧ preferNext tie p d then some d.next else some d
  else if ReadsBack p d.next then some d.next
  else none

/-- A grid exponent at or above that of the leading digit. -/
def coarsestGrid (p : Point) : Int :=
  ((p.significand.log2 + 1 : Nat) + p.exponent) * 30103 / 100000 + 1

/-- All digits of the point. -/
def exact (p : Point) : Decimal :=
  if p.exponent < 0 then ⟨p.significand * Nat.pow 5 (-p.exponent).toNat, p.exponent⟩
  else ⟨p.significand * Nat.pow 2 p.exponent.toNat, 0⟩

/-- The shortest decimal that reads back as the point, without trailing zeros.  Twenty grids reach
past the seventeen digits that always suffice in the 64-bit format. -/
def shortest (tie : Tie) (p : Point) : Decimal :=
  let found := (List.range 20).findSome? (fun (i : Nat) => onGrid? tie p (coarsestGrid p - i))
  let d := found.getD (exact p)
  d.stripZeros d.digits.length

/-- What a grid yields reads back. -/
theorem readsBack_of_onGrid? {tie : Tie} {p : Point} {k : Int} {d : Decimal}
    (hfound : onGrid? tie p k = some d) : ReadsBack p d := by
  unfold onGrid? at hfound
  grind

end TableQuery.Decimal
