import PhaseAssertions.Decimal.Binary64

/-!
# Shortest decimal forms

The decimal form of a double is the shortest one that is rounded back to it,
and of two such forms the nearer one.  The numbers that are rounded to a
double lie between the midpoints to its two neighbours, the midpoints included
if the factor of the double is even.  Coarse decimal grids are tried before
fine ones; if a grid has a point between the midpoints then one of the two
grid points next to the double itself is such a point.
-/

namespace PhaseAssertions.Decimal

/-- A decimal number `digits * 10 ^ exponent`. -/
structure DecimalForm where
  digits : Nat
  /-- The place of the last digit. -/
  exponent : Int
deriving DecidableEq

/--
The numbers that are rounded to a double, in units of `numerator / denominator`.
-/
structure RoundingInterval where
  /-- The midpoint to the smaller neighbour. -/
  low : Nat
  value : Nat
  /-- The midpoint to the greater neighbour. -/
  high : Nat
  /-- Whether the midpoints are rounded to the double. -/
  closed : Bool
  /-- The numerator of the unit. -/
  numerator : Nat
  /-- The denominator of the unit. -/
  denominator : Nat

namespace RoundingInterval

/-- The interval of a double `mantissa * 2 ^ exponent`. -/
def ofMagnitude (mantissa : Nat) (exponent : Int) : RoundingInterval :=
  let narrow := mantissa = Nat.pow 2 52 && Magnitude.leastExponent < exponent
  { low := 4 * mantissa - (if narrow then 1 else 2)
    value := 4 * mantissa
    high := 4 * mantissa + 2
    closed := mantissa % 2 = 0
    numerator := Nat.pow 2 (exponent - 2).toNat
    denominator := Nat.pow 2 (2 - exponent).toNat }

/-- The parts of a decimal power as a quotient. -/
def powerOfTen (exponent : Int) : Nat × Nat :=
  (Nat.pow 10 exponent.toNat, Nat.pow 10 (-exponent).toNat)

/-- Whether a grid point is rounded to the double. -/
def holds (interval : RoundingInterval) (form : DecimalForm) : Bool :=
  let (power, divisor) := powerOfTen form.exponent
  let point := form.digits * power * interval.denominator
  let low := interval.low * interval.numerator * divisor
  let high := interval.high * interval.numerator * divisor
  if interval.closed then low ≤ point && point ≤ high else low < point && point < high

/-- The greatest point of a grid that is not above the double. -/
def pointBelow (interval : RoundingInterval) (exponent : Int) : DecimalForm :=
  let (power, divisor) := powerOfTen exponent
  { digits :=
      interval.value * interval.numerator * divisor / (interval.denominator * power)
    exponent }

/-- Whether the double is nearer to a grid point than to the next one above. -/
def isNearer (interval : RoundingInterval) (form : DecimalForm) : Bool :=
  let (power, divisor) := powerOfTen form.exponent
  2 * interval.value * interval.numerator * divisor ≤
    (2 * form.digits + 1) * power * interval.denominator

/-- The form on the coarsest of some grids that is rounded to the double. -/
def search (interval : RoundingInterval) (exponent : Int) : Nat → DecimalForm
  | 0 => interval.pointBelow exponent
  | grids + 1 =>
    let below := interval.pointBelow exponent
    let above := { below with digits := below.digits + 1 }
    if interval.holds below then
      if interval.holds above && !interval.isNearer below then above else below
    else if interval.holds above then above
    else search interval (exponent - 1) grids

end RoundingInterval

/-- The shortest decimal form of a double `mantissa * 2 ^ exponent`. -/
def shortest (mantissa : Nat) (exponent : Int) : DecimalForm :=
  if mantissa = 0 then { digits := 0, exponent := 0 }
  else
    let interval := RoundingInterval.ofMagnitude mantissa exponent
    let coarsest := ((mantissa.log2 : Int) + exponent + 1) * 30103 / 100000 + 2
    interval.search coarsest 22

end PhaseAssertions.Decimal
