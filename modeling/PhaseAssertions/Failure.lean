import PhaseAssertions.Timestamp

/-!
# Failures

A failure says which phase was not satisfied, where in the evaluated entries
this was seen, and why.  Positions count within the entries that were
evaluated, that is, after entries outside a requested range were dropped.
-/

namespace PhaseAssertions

/-- Why a verification failed. -/
inductive FailureKind where
  | noEntries
  /-- A phase was never reached or never matched. -/
  | phaseMismatch
  | predicateFailure
deriving DecidableEq

def FailureKind.name : FailureKind → String
  | .noEntries => "no_entries"
  | .phaseMismatch => "phase_mismatch"
  | .predicateFailure => "predicate_failure"

/-- Where in the evaluated entries a failure was seen. -/
inductive FailureLocation where
  | entry (index : Nat) (timestamp : Int64)
  /-- Over a run of entries, given by the times of the first and the last. -/
  | span (start finish : Int64)
  | trace
deriving DecidableEq

namespace FailureLocation

/-- The time or times of the location; the whole trace has none. -/
def text : FailureLocation → String
  | .entry _ timestamp => Timestamp.text timestamp
  | .span start finish => Timestamp.text start ++ ".." ++ Timestamp.text finish
  | .trace => "-"

/-- The time at which the location starts. -/
def timestamp? : FailureLocation → Option Int64
  | .entry _ timestamp => some timestamp
  | .span start _ => some start
  | .trace => none

end FailureLocation

/-- One localised failure. -/
structure Failure where
  kind : FailureKind
  /-- The name of the phase group, or of the predicate in boundary checks. -/
  phase : String
  location : FailureLocation
  /-- The explanation; that of the predicate where one rejected an entry. -/
  reason : String
deriving DecidableEq

namespace Failure

/-- The failure that stands for an empty list of entries. -/
def noEntries : Failure :=
  { kind := .noEntries, phase := "", location := .trace,
    reason := "No entries found." }

/-- The failure of a predicate or group that rejected the entry at `index`. -/
def rejection (phase : String) (index : Nat) (timestamp : Int64)
    (reason : String) : Failure :=
  { kind := .predicateFailure, phase, location := .entry index timestamp, reason }

def timestamp? (failure : Failure) : Option Int64 :=
  failure.location.timestamp?

def text (failure : Failure) : String :=
  match failure.kind with
  | .noEntries => failure.reason
  | .phaseMismatch | .predicateFailure =>
    "Timestamp: " ++ failure.location.text ++
      "\nAssertion: " ++ failure.phase ++
      "\nReason:   " ++ failure.reason

end Failure

end PhaseAssertions
