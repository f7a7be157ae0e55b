import PhaseAssertions.Checker.Event

/-!
# Phase checkers

A checker holds the declared phases and says how they are to be evaluated.
The phase under construction is kept open, so that further predicates can join
it; declaring a new phase seals it.  Read from outside, a checker is the list
of all its groups, the open one last.

Two neighbouring phases of the same name are legal but odd: the second can
only repeat the first.  `advisories` lists them; the same names are reported
one by one, each at the moment when the later of the two groups is complete.
-/

namespace PhaseAssertions

universe u

/-- How a verification was assembled wrongly. -/
inductive Misuse where
  | extendWithoutPhase (predicate : String)
  | invertedRange (first last : Int64)
deriving DecidableEq

def Misuse.message : Misuse → String
  | .extendWithoutPhase predicate =>
    "cannot extend phase '" ++ predicate ++ "': no phase has been started"
  | .invertedRange first last =>
    "invalid range: start " ++ toString first.toInt ++
      " is after end " ++ toString last.toInt

/-- The range with these bounds, or the misuse of giving them out of order. -/
def TimestampRange.ofBounds (first last : Int64) :
    Except Misuse TimestampRange :=
  match TimestampRange.ofBounds? first last with
  | some range => .ok range
  | none => .error (.invertedRange first last)

/-- Declared phases and the way in which they are evaluated. -/
structure Checker (Entry : Type u) where
  complete : List (PhaseGroup Entry) := []
  /-- The group that further predicates can still join. -/
  opened : Option (PhaseGroup Entry) := none
  mode : CheckMode := .allEntries
  /-- The range outside of which entries are dropped, if there is one. -/
  range : Option TimestampRange := none
  /-- Whether entries before the first match of the first phase are passed over. -/
  skipUntilFirst : Bool := false

namespace Checker

variable {Entry : Type u}

def empty : Checker Entry :=
  {}

/-- The declared groups in order, the open one last. -/
def groups (checker : Checker Entry) : List (PhaseGroup Entry) :=
  checker.complete ++ checker.opened.toList

/--
The event that the open group gives rise to when it is complete: a warning if
it has the name of the group before it.
-/
def openEvents (checker : Checker Entry) : List CheckEvent :=
  match checker.complete.getLast?, checker.opened with
  | some previous, some group =>
    if previous.name = group.name then [.phaseRepeats group.name] else []
  | _, _ => []

/-- Seals the open group and starts a new one with `predicate`. -/
def add (checker : Checker Entry) (predicate : Predicate Entry) : Checker Entry :=
  { checker with
    complete := checker.groups
    opened := some { first := predicate } }

/-- Adds `predicate` to the open group, if there is one. -/
def append (checker : Checker Entry) (predicate : Predicate Entry) :
    Except Misuse (Checker Entry) :=
  match checker.opened with
  | some group => .ok { checker with opened := some (group.push predicate) }
  | none => .error (.extendWithoutPhase predicate.name)

/-- Passes over the entries before the first match of the first phase. -/
def skippingUntilFirst (checker : Checker Entry) : Checker Entry :=
  { checker with skipUntilFirst := true }

def withinRange (checker : Checker Entry) (range : TimestampRange) : Checker Entry :=
  { checker with range := some range }

def atFirstEntry (checker : Checker Entry) : Checker Entry :=
  { checker with mode := .firstEntry }

def atLastEntry (checker : Checker Entry) : Checker Entry :=
  { checker with mode := .lastEntry }

/-- The names that equal the name before them. -/
def repeated : List String → List String
  | first :: second :: rest =>
    if first = second then
      second :: repeated (second :: rest)
    else
      repeated (second :: rest)
  | _ => []

def advisories (checker : Checker Entry) : List String :=
  repeated (checker.groups.map PhaseGroup.name)

@[simp]
theorem groups_empty : (empty : Checker Entry).groups = [] :=
  rfl

@[simp]
theorem groups_add (checker : Checker Entry) (predicate : Predicate Entry) :
    (checker.add predicate).groups =
      checker.groups ++ [{ first := predicate }] :=
  rfl

end Checker

end PhaseAssertions
