/-!
# Numbers in double precision

The magnitudes that a double can have are zero, the whole multiples of a power
of two with a factor below `2 ^ 53`, and infinity.  A quotient of two natural
numbers is rounded to the nearest of them, a tie to the one with an even
factor.  All of this is exact arithmetic on natural numbers.
-/

namespace PhaseAssertions.Decimal

/-- The magnitude of a double. -/
inductive Magnitude where
  /-- The number `mantissa * 2 ^ exponent`. -/
  | finite (mantissa : Nat) (exponent : Int)
  /-- A number that is too great. -/
  | infinite
deriving DecidableEq, Inhabited

namespace Magnitude

def leastExponent : Int :=
  -1074

def greatestExponent : Int :=
  971

def zero : Magnitude :=
  .finite 0 leastExponent

/-- The quotient of two numbers, rounded to the nearest, a tie to the even one. -/
def divideToNearest (numerator denominator : Nat) : Nat :=
  let quotient := numerator / denominator
  let twice := 2 * (numerator % denominator)
  if twice < denominator then quotient
  else if denominator < twice then quotient + 1
  else quotient + quotient % 2

/-- A quotient divided by a power of two, as a quotient. -/
def scaleDown (numerator denominator : Nat) (exponent : Int) : Nat × Nat :=
  if 0 ≤ exponent then
    (numerator, denominator * Nat.pow 2 exponent.toNat)
  else
    (numerator * Nat.pow 2 (-exponent).toNat, denominator)

/-- The magnitude that a mantissa of at most `2 ^ 53` has with an exponent. -/
def normalize (mantissa : Nat) (exponent : Int) : Magnitude :=
  if mantissa = 0 then zero
  else
    let (mantissa, exponent) :=
      if mantissa = Nat.pow 2 53 then (Nat.pow 2 52, exponent + 1)
      else (mantissa, exponent)
    if greatestExponent < exponent then .infinite else .finite mantissa exponent

/-- The magnitude nearest to the quotient of two numbers. -/
def ofQuotient (numerator denominator : Nat) : Magnitude :=
  if numerator = 0 then zero
  else
    let estimate : Int := (numerator.log2 : Int) - (denominator.log2 : Int) - 53
    let (scaled, divisor) := scaleDown numerator denominator estimate
    let fitting := if Nat.pow 2 53 ≤ scaled / divisor then estimate + 1 else estimate
    let exponent := max fitting leastExponent
    let (scaled, divisor) := scaleDown numerator denominator exponent
    normalize (divideToNearest scaled divisor) exponent

/--
The magnitude nearest to `digits * 10 ^ exponent`.  Numbers that are far too
great or far too small are told by their number of digits alone.
-/
def ofDecimal (digits : Nat) (exponent : Int) : Magnitude :=
  let size : Int := (Nat.toDigits 10 digits).length + exponent
  if digits = 0 || size < -330 then zero
  else if 310 < size then .infinite
  else if 0 ≤ exponent then ofQuotient (digits * Nat.pow 10 exponent.toNat) 1
  else ofQuotient digits (Nat.pow 10 (-exponent).toNat)

/-- The product of two magnitudes, rounded. -/
def multiply : Magnitude → Magnitude → Magnitude
  | .finite m p, .finite n q =>
    if 0 ≤ p + q then
      ofQuotient (m * n * Nat.pow 2 (p + q).toNat) 1
    else
      ofQuotient (m * n) (Nat.pow 2 (-(p + q)).toNat)
  | _, _ => .infinite

/-- The quotient of two magnitudes, rounded; the second must not be zero. -/
def divide : Magnitude → Magnitude → Magnitude
  | .finite m p, .finite n q =>
    if q ≤ p then
      ofQuotient (m * Nat.pow 2 (p - q).toNat) n
    else
      ofQuotient m (n * Nat.pow 2 (q - p).toNat)
  | _, _ => .infinite

end Magnitude

/-- A number in double precision with its sign. -/
structure Double where
  negative : Bool
  magnitude : Magnitude
deriving DecidableEq

end PhaseAssertions.Decimal
