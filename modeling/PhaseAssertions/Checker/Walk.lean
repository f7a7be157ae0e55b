import PhaseAssertions.Checker.Event
import PhaseAssertions.Failure

/-!
# The walk through a trace

The phases of a program are matched against entries in one pass.  The state of
the pass is a cursor: the phases already left, the current phase, the phases
still to come, and whether the current phase has matched an entry yet.

An entry that satisfies the current phase keeps the cursor there.  An entry
that does not hands over to the next phase, provided that the current one has
matched before; the next phase is then asked about the same entry and has to
accept it, since it has not matched yet.  So every entry is evaluated against
at most two phases, and the first entry that cannot be placed ends the walk.
-/

namespace PhaseAssertions

universe u

/-- The state of a walk between two entries. -/
structure Cursor (Entry : Type u) where
  passed : List (PhaseGroup Entry)
  /-- The phase that the next entry is compared with first. -/
  current : PhaseGroup Entry
  later : List (PhaseGroup Entry)
  /-- Whether the current phase has matched an entry. -/
  matched : Bool

/-- What a walk comes to, with the events on the way. -/
structure Progress (Entry : Type u) where
  /-- The cursor after the entries, or the failure that ended the walk. -/
  outcome : Except Failure (Cursor Entry)
  events : List CheckEvent

namespace Cursor

variable {Entry : Type u}

/-- The cursor before the first entry of a program. -/
def start (first : PhaseGroup Entry) (later : List (PhaseGroup Entry)) :
    Cursor Entry :=
  { passed := [], current := first, later, matched := false }

def position (cursor : Cursor Entry) : Nat :=
  cursor.passed.length

variable [Snapshot Entry]

/-- The failure of `group`, which rejected an entry for a given reason. -/
def rejection (group : PhaseGroup Entry) (index : Nat) (entry : Entry) : Failure :=
  Failure.rejection group.name index (Snapshot.timestamp entry)
    (group.evaluate entry).reason

/-- The cursor after one more entry, which stands at `index`. -/
def advance (cursor : Cursor Entry) (index : Nat) (entry : Entry) :
    Progress Entry :=
  let asked := CheckEvent.ofEvaluation cursor.position cursor.current index entry
  if (cursor.current.evaluate entry).passed then
    { outcome := .ok { cursor with matched := true }, events := [asked] }
  else
    match cursor.matched, cursor.later with
    | true, next :: rest =>
      let events :=
        [ asked,
          .boundary cursor.position (cursor.position + 1) (Snapshot.timestamp entry),
          .ofEvaluation (cursor.position + 1) next index entry ]
      if (next.evaluate entry).passed then
        { outcome := .ok
            { passed := cursor.passed ++ [cursor.current]
              current := next
              later := rest
              matched := true }
          events }
      else
        { outcome := .error (rejection next index entry), events }
    | _, _ =>
      { outcome := .error (rejection cursor.current index entry)
        events := [asked] }

/-- The cursor after a list of entries, the first of which stands at `index`. -/
def walk (cursor : Cursor Entry) (index : Nat) : List Entry → Progress Entry
  | [] => { outcome := .ok cursor, events := [] }
  | entry :: rest =>
    let step := cursor.advance index entry
    match step.outcome with
    | .error failure => { outcome := .error failure, events := step.events }
    | .ok next =>
      let remaining := next.walk (index + 1) rest
      { outcome := remaining.outcome, events := step.events ++ remaining.events }

omit [Snapshot Entry] in
/--
The failures of the phases that a walk over the entries from `start` to
`finish` did not reach.
-/
def unreached (cursor : Cursor Entry) (start finish : Int64) : List Failure :=
  let reached := (cursor.passed ++ [cursor.current]).map PhaseGroup.name
  cursor.later.map fun group =>
    { kind := .phaseMismatch
      phase := group.name
      location := .span start finish
      reason :=
        "trace ended before this phase was reached (passed: " ++
          ", ".intercalate reached ++ ")" }

end Cursor

/-- The failures of a walk over the entries from `start` to `finish`. -/
def Progress.failures {Entry : Type u} (progress : Progress Entry)
    (start finish : Int64) : List Failure :=
  match progress.outcome with
  | .error failure => [failure]
  | .ok cursor => cursor.unreached start finish

end PhaseAssertions
