import PhaseAssertions.Json.Document
import PhaseAssertions.Schema.Fault

/-!
# The texts that JSON strings denote

A unit between `D800` and `DBFF` has to be followed by one between `DC00` and
`DFFF`; the two stand for one character.  Faults in such pairs are found
before bytes that belong to no character.
-/

namespace PhaseAssertions.Json

open Schema (Fault)

/-- Whether a unit is the first half of a surrogate pair. -/
def isLeading (unit : Nat) : Bool :=
  0xd800 ≤ unit && unit ≤ 0xdbff

/-- Whether a unit is the second half of a surrogate pair. -/
def isTrailing (unit : Nat) : Bool :=
  0xdc00 ≤ unit && unit ≤ 0xdfff

/-- The character of a surrogate pair. -/
def pairChar (leading trailing : Nat) : Char :=
  Char.ofNat (0x10000 + (leading - 0xd800) * 0x400 + (trailing - 0xdc00))

/-- The characters of a spelled string, bytes without a character left in. -/
def resolveUnits : List Spelled → Except Fault (List (Option Char))
  | [] => .ok []
  | .char character :: rest => (resolveUnits rest).map (some character :: ·)
  | .stray :: rest => (resolveUnits rest).map (none :: ·)
  | .unit leading :: .unit trailing :: rest =>
    if isTrailing leading then .error .loneSurrogate
    else if isLeading leading then
      if isTrailing trailing then
        (resolveUnits rest).map (some (pairChar leading trailing) :: ·)
      else
        .error .loneSurrogate
    else
      (resolveUnits (.unit trailing :: rest)).map (some (Char.ofNat leading) :: ·)
  | .unit unit :: rest =>
    if isTrailing unit then .error .loneSurrogate
    else if isLeading unit then .error .unfinishedSurrogate
    else (resolveUnits rest).map (some (Char.ofNat unit) :: ·)

/-- The text that a spelled string denotes. -/
def textOf (spelled : List Spelled) : Except Fault String :=
  match resolveUnits spelled with
  | .error fault => .error fault
  | .ok characters =>
    match characters.mapM id with
    | some characters => .ok (String.ofList characters)
    | none => .error .invalidCodePoint

end PhaseAssertions.Json
