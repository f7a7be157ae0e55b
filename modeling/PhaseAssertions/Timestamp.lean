/-!
# Timestamps

Snapshots are placed on a time line by a signed 64-bit count of nanoseconds.
This module says how such a count is shown to people, and what an inclusive
range of timestamps is.

A count that is not negative is taken apart greedily into years, months, days,
hours, minutes, seconds, milliseconds, microseconds and nanoseconds; parts
that are zero are left out.  A year is a quarter of a day longer than 365 days
and a month is a twelfth of a year, so the larger units are not multiples of
one another.
-/

namespace PhaseAssertions

/-- Anything that can be placed on a time line. -/
class Snapshot (Entry : Type u) where
  /-- The time of the observation in nanoseconds. -/
  timestamp : Entry → Int64

namespace Timestamp

/-- A unit of time as it is written after a count. -/
structure TimeUnit where
  /-- The length of the unit in nanoseconds. -/
  nanoseconds : Nat
  /-- What follows a count of one. -/
  singular : String
  /-- What follows any other count. -/
  plural : String

def TimeUnit.ofSymbol (nanoseconds : Nat) (symbol : String) : TimeUnit :=
  { nanoseconds, singular := symbol, plural := symbol }

def units : List TimeUnit :=
  [ ⟨31557600 * 1000000000, "year", "years"⟩,
    ⟨2630016 * 1000000000, "month", "months"⟩,
    ⟨86400 * 1000000000, "day", "days"⟩,
    .ofSymbol (3600 * 1000000000) "h",
    .ofSymbol (60 * 1000000000) "m",
    .ofSymbol 1000000000 "s",
    .ofSymbol 1000000 "ms",
    .ofSymbol 1000 "us",
    .ofSymbol 1 "ns" ]

/-- The counts of a greedy decomposition, zero counts left out. -/
def decompose : List TimeUnit → Nat → List (Nat × TimeUnit)
  | [], _ => []
  | unit :: rest, amount =>
    let count := amount / unit.nanoseconds
    let remaining := decompose rest (amount % unit.nanoseconds)
    if count = 0 then remaining else (count, unit) :: remaining

/-- One item of a duration, such as `2years` or `15ms`. -/
def itemText (item : Nat × TimeUnit) : String :=
  toString item.1 ++ (if item.1 = 1 then item.2.singular else item.2.plural)

/-- A length of time as its items separated by spaces; no time at all is `0s`. -/
def durationText (nanoseconds : Nat) : String :=
  match decompose units nanoseconds with
  | [] => "0s"
  | items => " ".intercalate (items.map itemText)

/--
A timestamp for people: a duration since time zero, or, before time zero, the
plain count of nanoseconds.
-/
def text (timestamp : Int64) : String :=
  match timestamp.toInt with
  | .ofNat nanoseconds => durationText nanoseconds
  | count => toString count ++ "ns"

end Timestamp

/-- An inclusive range of timestamps whose bounds are in order. -/
structure TimestampRange where
  first : Int64
  last : Int64
  first_le_last : first ≤ last
deriving DecidableEq

namespace TimestampRange

/-- The range with these bounds, if they are in order. -/
def ofBounds? (first last : Int64) : Option TimestampRange :=
  if ordered : first ≤ last then some ⟨first, last, ordered⟩ else none

/-- Whether `timestamp` lies within the range, bounds included. -/
def contains (range : TimestampRange) (timestamp : Int64) : Bool :=
  range.first ≤ timestamp && timestamp ≤ range.last

end TimestampRange

end PhaseAssertions
