import PhaseAssertions.Predicate
import PhaseAssertions.Timestamp

/-!
# What a checker reports while it works

A checker does more than answer: it tells which predicates it asked about
which entry, where one phase handed over to the next, and what it found odd
about the declared phases.  Each of these is an event; a run yields its events
in the order in which they happened.
-/

namespace PhaseAssertions

universe u

/-- Which entries a terminal evaluation looks at. -/
inductive CheckMode where
  | allEntries
  /-- Only the first entry, against all predicates at once. -/
  | firstEntry
  /-- Only the last entry, against all predicates at once. -/
  | lastEntry
deriving DecidableEq, Inhabited

/-- One predicate asked about one entry. -/
structure Call where
  predicate : String
  timestamp : Int64
  passed : Bool
deriving DecidableEq

/-- One group evaluated on one entry. -/
structure Evaluation where
  /-- The position of the entry among the evaluated ones. -/
  entry : Nat
  /-- The position of the group among the declared ones. -/
  group : Nat
  calls : List Call
deriving DecidableEq

/-- The questions and answers of evaluating `group` on `entry`. -/
def PhaseGroup.calls {Entry : Type u} [Snapshot Entry]
    (group : PhaseGroup Entry) (entry : Entry) : List Call :=
  (PhaseGroup.inquire entry group.members).map fun (predicate, verdict) =>
    { predicate := predicate.name
      timestamp := Snapshot.timestamp entry
      passed := verdict.passed }

/-- Something a checker reports while it works. -/
inductive CheckEvent where
  /-- A phase has the same name as the phase before it. -/
  | phaseRepeats (phase : String)
  /-- None of `total` entries lies within the range. -/
  | nothingToCheck (total : Nat) (range : Option TimestampRange)
  | noPhases
  | started (mode : CheckMode) (entries phases : Nat) (skipUntilFirst : Bool)
  | evaluated (evaluation : Evaluation)
  /-- The entries before the first match of the first phase were passed over. -/
  | skipped (count : Nat)
  | boundary (source target : Nat) (timestamp : Int64)
  | finished (failures : Nat)
deriving DecidableEq

namespace CheckEvent

/-- The event of evaluating `group`, the one at `position`, on an entry. -/
def ofEvaluation {Entry : Type u} [Snapshot Entry]
    (position : Nat) (group : PhaseGroup Entry)
    (index : Nat) (entry : Entry) : CheckEvent :=
  .evaluated { entry := index, group := position, calls := group.calls entry }

def evaluation? : CheckEvent → Option Evaluation
  | .evaluated evaluation => some evaluation
  | _ => none

def calls (events : List CheckEvent) : List Call :=
  (events.filterMap evaluation?).flatMap Evaluation.calls

end CheckEvent

end PhaseAssertions
