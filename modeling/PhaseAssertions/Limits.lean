/-!
# Limits

Bounds on what is loaded: the size of a trace file, the size of a plan file and
the number of phases of a plan.  Each can be set by a variable of the
environment; a variable that is missing or that is no 64-bit unsigned decimal
number, with or without a plus sign, leaves the default.
-/

namespace PhaseAssertions

/-- Bounds on the sizes of files and plans. -/
structure Limits where
  /-- The greatest size of a trace file in bytes. -/
  maxTraceSize : Nat := 64 * 1024 * 1024
  /-- The greatest size of a plan file in bytes. -/
  maxPlanSize : Nat := 1024 * 1024
  maxPhases : Nat := 100
deriving DecidableEq

namespace Limits

/-- The number written by a non-empty list of decimal digits. -/
def digitsToNat? : List Char → Option Nat
  | [] => none
  | digits =>
    if digits.all Char.isDigit then
      some (digits.foldl (fun value digit => 10 * value + (digit.toNat - '0'.toNat)) 0)
    else
      none

/-- The 64-bit number that a text writes in decimal, with or without a plus sign. -/
def parseUnsigned? (text : String) : Option Nat :=
  let digits :=
    match text.toList with
    | '+' :: rest => rest
    | characters => characters
  (digitsToNat? digits).filter fun value => value < UInt64.size

/-- The limit that the environment sets under `name`, or the default. -/
def read (environment : String → Option String) (name : String) (default : Nat) : Nat :=
  ((environment name).bind parseUnsigned?).getD default

def ofEnvironment (environment : String → Option String) : Limits :=
  { maxTraceSize :=
      read environment "TRACEPHASE_MAX_TRACE_SIZE" ({} : Limits).maxTraceSize
    maxPlanSize :=
      read environment "TRACEPHASE_MAX_PLAN_SIZE" ({} : Limits).maxPlanSize
    maxPhases := read environment "TRACEPHASE_MAX_PHASES" ({} : Limits).maxPhases }

end Limits

end PhaseAssertions
