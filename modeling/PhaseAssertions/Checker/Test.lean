import PhaseAssertions.Checker.Basic
import PhaseAssertions.Checker.Walk

/-!
# Testing entries against a checker

A test first drops the entries outside of the requested range.  With no entry
left there is one failure that says so; with no phase declared there is
nothing to verify and no failure.  Otherwise the mode decides: either the
phases are walked through all entries, or every declared predicate is asked
about a single entry and the first that rejects it is reported.
-/

namespace PhaseAssertions

universe u

/-- The failures of a test, with the events on the way. -/
structure TestOutcome where
  failures : List Failure
  events : List CheckEvent

/-- What a scan for the first match of a group comes to. -/
structure Scan (Entry : Type u) where
  /-- How many entries the group rejected. -/
  skipped : Nat
  /-- The entries from the first match on, none if there is no match. -/
  remaining : List Entry
  events : List CheckEvent

namespace Checker

variable {Entry : Type u} [Snapshot Entry]

def lastTimestamp (entry : Entry) (rest : List Entry) : Int64 :=
  Snapshot.timestamp (rest.getLast?.getD entry)

/--
Evaluates `group`, the first one of a program, on entries from position `index`
on until it passes.
-/
def scan (group : PhaseGroup Entry) (index : Nat) : List Entry → Scan Entry
  | [] => { skipped := 0, remaining := [], events := [] }
  | entry :: rest =>
    let asked := CheckEvent.ofEvaluation 0 group index entry
    if (group.evaluate entry).passed then
      { skipped := 0, remaining := entry :: rest, events := [asked] }
    else
      let later := scan group (index + 1) rest
      { later with skipped := later.skipped + 1, events := asked :: later.events }

/-- Walks the phases through all entries, from the first entry on. -/
def walkAll (first : PhaseGroup Entry) (later : List (PhaseGroup Entry))
    (entry : Entry) (rest : List Entry) : TestOutcome :=
  let progress := (Cursor.start first later).walk 0 (entry :: rest)
  { failures :=
      progress.failures (Snapshot.timestamp entry) (lastTimestamp entry rest)
    events := progress.events }

/--
Walks the phases through the entries from the first match of the first phase
on.  That match is found by a scan, so the walk continues behind it with the
first phase already matched.
-/
def walkFromFirst (first : PhaseGroup Entry) (later : List (PhaseGroup Entry))
    (entry : Entry) (rest : List Entry) : TestOutcome :=
  let scan := scan first 0 (entry :: rest)
  match scan.remaining with
  | [] =>
    { failures :=
        [{ kind := .phaseMismatch
           phase := first.name
           location :=
             .span (Snapshot.timestamp entry) (lastTimestamp entry rest)
           reason := "no entry satisfies " ++ first.name }]
      events := scan.events }
  | begin :: behind =>
    let progress :=
      { Cursor.start first later with matched := true }.walk (scan.skipped + 1) behind
    { failures :=
        progress.failures (Snapshot.timestamp begin) (lastTimestamp begin behind)
      events := scan.events ++ .skipped scan.skipped :: progress.events }

/--
Asks the groups one after the other about a single entry; the first rejecting
member ends this.  The first group asked stands at `position`.
-/
def checkBoundary (position index : Nat) (entry : Entry) :
    List (PhaseGroup Entry) → TestOutcome
  | [] => { failures := [], events := [] }
  | group :: rest =>
    let asked := CheckEvent.ofEvaluation position group index entry
    match group.firstFailure? entry with
    | some (predicate, verdict) =>
      { failures :=
          [.rejection predicate.name index (Snapshot.timestamp entry) verdict.reason]
        events := [asked] }
    | none =>
      let remaining := checkBoundary (position + 1) index entry rest
      { remaining with events := asked :: remaining.events }

/-- Evaluates a non-empty program on a non-empty list of entries. -/
def evaluate (checker : Checker Entry)
    (first : PhaseGroup Entry) (later : List (PhaseGroup Entry))
    (entry : Entry) (rest : List Entry) : TestOutcome :=
  match checker.mode with
  | .firstEntry => checkBoundary 0 0 entry (first :: later)
  | .lastEntry =>
    checkBoundary 0 rest.length (rest.getLast?.getD entry) (first :: later)
  | .allEntries =>
    if checker.skipUntilFirst then
      walkFromFirst first later entry rest
    else
      walkAll first later entry rest

def selected (checker : Checker Entry) (entries : List Entry) : List Entry :=
  match checker.range with
  | some range => entries.filter fun entry => range.contains (Snapshot.timestamp entry)
  | none => entries

def run (checker : Checker Entry) (entries : List Entry) : TestOutcome :=
  match checker.selected entries with
  | [] =>
    { failures := [Failure.noEntries]
      events := [.nothingToCheck entries.length checker.range] }
  | entry :: rest =>
    match checker.groups with
    | [] => { failures := [], events := [.noPhases] }
    | first :: later =>
      let outcome := checker.evaluate first later entry rest
      { failures := outcome.failures
        events :=
          checker.openEvents ++
            .started checker.mode (rest.length + 1) (later.length + 1)
              checker.skipUntilFirst ::
            outcome.events ++ [.finished outcome.failures.length] }

/-- The failures found on `entries`; none means that they satisfy the phases. -/
def test (checker : Checker Entry) (entries : List Entry) : List Failure :=
  (checker.run entries).failures

end Checker

end PhaseAssertions
