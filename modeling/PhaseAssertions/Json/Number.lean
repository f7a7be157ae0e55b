import PhaseAssertions.Decimal.Text
import PhaseAssertions.Json.Document
import PhaseAssertions.Schema.Fault

/-!
# The numbers that JSON literals stand for

A literal without a point and an exponent is an integer if it fits into 64
bits, with a sign if it has one.  Every other literal is a double, and so is a
zero with a minus sign.

The double of a literal is found in two roundings.  As many digits as fit into
an unsigned 64-bit number are kept and rounded to a double, and this is
multiplied or divided once by the power of ten that is left, itself rounded;
only powers below `1e-308` take more than one division.
-/

namespace PhaseAssertions.Json

open Schema (Fault)
open Decimal

/-- The number that a literal stands for. -/
inductive Number where
  /-- An integer of at most 64 bits. -/
  | integer (value : Int)
  | float (value : Double)
deriving DecidableEq

namespace Number

/--
Takes digits into an unsigned 64-bit number as long as they fit: the number,
how many digits it took, and how many were left.
-/
def absorb (significand : Nat) : List Nat → Nat × Nat × Nat
  | [] => (significand, 0, 0)
  | digit :: rest =>
    if significand * 10 + digit < UInt64.size then
      let (total, taken, left) := absorb (significand * 10 + digit) rest
      (total, taken + 1, left)
    else
      (significand, 0, rest.length + 1)

def power (exponent : Nat) : Magnitude :=
  Magnitude.ofDecimal 1 exponent

/--
A magnitude times a power of ten.  Below `1e-308` it is divided in steps, of
which three reach zero from any 64-bit number.
-/
def scale (magnitude : Magnitude) (exponent : Int) : Nat → Except Fault Magnitude
  | 0 => .ok magnitude
  | steps + 1 =>
    if 0 ≤ exponent then
      if magnitude = .zero then .ok magnitude
      else if 308 < exponent then .error .numberOutOfRange
      else
        match magnitude.multiply (power exponent.toNat) with
        | .infinite => .error .numberOutOfRange
        | product => .ok product
    else if -308 ≤ exponent then
      .ok (magnitude.divide (power (-exponent).toNat))
    else if magnitude = .zero then .ok magnitude
    else scale (magnitude.divide (power 308)) (exponent + 308) steps

/-- The greatest exponent that is counted; greater ones decide by their sign. -/
def exponentBound : Nat :=
  2147483647

def ofDigits (digits : List Nat) : Nat :=
  digits.foldl (fun value digit => 10 * value + digit) 0

/-- The double of a significand with a counted and a written exponent. -/
def double (negative : Bool) (significand : Nat) (counted : Int)
    (written : Option (Bool × List Nat)) : Except Fault Number := do
  let signed (magnitude : Magnitude) : Number := .float { negative, magnitude }
  match written with
  | none =>
    return signed (← scale (.ofQuotient significand 1) counted 5)
  | some (below, digits) =>
    let exponent := ofDigits digits
    if exponentBound < exponent then
      if significand ≠ 0 && !below then throw .numberOutOfRange
      return signed .zero
    else
      let total := if below then counted - exponent else counted + exponent
      return signed (← scale (.ofQuotient significand 1) total 5)

end Number

def Numeral.value (numeral : Numeral) : Except Fault Number :=
  let (significand, _, left) := Number.absorb 0 numeral.whole
  match numeral.fraction, numeral.exponent with
  | none, none =>
    if left ≠ 0 then
      Number.double numeral.negative significand left none
    else if !numeral.negative then
      .ok (.integer significand)
    else if significand = 0 || Nat.pow 2 63 < significand then
      .ok (.float { negative := true, magnitude := .ofQuotient significand 1 })
    else
      .ok (.integer (-significand))
  | none, exponent => Number.double numeral.negative significand left exponent
  | some fraction, exponent =>
    let (significand, taken, _) := Number.absorb significand fraction
    Number.double numeral.negative significand (left - taken) exponent

end PhaseAssertions.Json
