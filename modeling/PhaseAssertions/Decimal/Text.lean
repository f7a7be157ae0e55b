import PhaseAssertions.Decimal.Shortest

/-!
# Written forms of doubles

A double is written with the digits of its shortest decimal form.  The two
written forms differ in when they place the point among the digits and when
they use an exponent.
-/

namespace PhaseAssertions.Decimal

/-- What the written form of a double looks like. -/
structure FloatStyle where
  /-- The greatest place of the first digit for which no exponent is used. -/
  greatestPlace : Option Int
  /-- The least place of the first digit for which no exponent is used. -/
  leastPlace : Option Int

/-- Every number is written without an exponent. -/
def FloatStyle.positional : FloatStyle :=
  { greatestPlace := none, leastPlace := none }

/-- An exponent is used below `1e-5` and from `1e16` on. -/
def FloatStyle.scientific : FloatStyle :=
  { greatestPlace := some 15, leastPlace := some (-5) }

/-- Digits with a point and at least one digit on either side of it. -/
def positionalText (digits : List Char) (exponent : Int) : List Char :=
  if 0 ≤ exponent then
    digits ++ List.replicate exponent.toNat '0' ++ ['.', '0']
  else
    let places := (-exponent).toNat
    let padded := List.replicate (places + 1 - digits.length) '0' ++ digits
    padded.take (padded.length - places) ++ '.' :: padded.drop (padded.length - places)

/-- Digits with a point behind the first one, followed by an exponent with its sign. -/
def scientificText (digits : List Char) (place : Int) : List Char :=
  let sign := if place < 0 then '-' else '+'
  let fraction := digits.drop 1
  digits.take 1 ++ (if fraction.isEmpty then [] else '.' :: fraction) ++
    'e' :: sign :: Nat.toDigits 10 place.natAbs

/-- A double in a given style. -/
def Double.text (style : FloatStyle) (double : Double) : String :=
  let sign := if double.negative then "-" else ""
  match double.magnitude with
  | .infinite => sign ++ "inf"
  | .finite mantissa exponent =>
    let form := shortest mantissa exponent
    let digits := Nat.toDigits 10 form.digits
    let place := (digits.length : Int) - 1 + form.exponent
    let plain :=
      mantissa = 0 ||
        (style.greatestPlace.all (place ≤ ·) && style.leastPlace.all (· ≤ place))
    sign ++ String.ofList
      (if plain then positionalText digits form.exponent else scientificText digits place)

end PhaseAssertions.Decimal
