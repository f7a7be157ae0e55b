import PhaseAssertions.Predicate
import PhaseAssertions.Text.EditDistance
import PhaseAssertions.Window.Basic

/-!
# The library of window assertions

Every assertion about a window comes as a pair: it is shown, or it is hidden.
What can be shown is a window of one of the four layers, or an application
window that is visible and on top.  Assertions are known by name; a name that
is not known is answered with the nearest known one, as long as it takes at
most three edits to get there.
-/

namespace PhaseAssertions

/-- What an assertion is about. -/
inductive WindowAspect where
  | layer (kind : WindowKind)
  /-- An application window is visible and is the top-most visible one. -/
  | appOnTop
deriving DecidableEq

/-- An assertion about the windows whose titles have a given part. -/
structure WindowAssertion where
  aspect : WindowAspect
  /-- Whether it asserts this or the opposite. -/
  shown : Bool
deriving DecidableEq

/-- A name that stands for no assertion, with the nearest one that does. -/
structure UnknownAssertion where
  name : String
  /-- The nearest known name, unless all are far away. -/
  suggestion : Option String
deriving DecidableEq

def UnknownAssertion.message (unknown : UnknownAssertion) : String :=
  "unknown assertion '" ++ unknown.name ++ "'" ++
    match unknown.suggestion with
    | some suggestion => " (did you mean '" ++ suggestion ++ "'?)"
    | none => ""

namespace WindowAspect

def all : List WindowAspect :=
  WindowKind.all.map layer ++ [appOnTop]

/-- The aspect as the names of assertions have it. -/
def name : WindowAspect → String
  | .layer kind => kind.name ++ "_window"
  | .appOnTop => "app_window_on_top"

/-- Whether the aspect holds of a window stack, for windows with `part` in their titles. -/
def isShown (aspect : WindowAspect) (entry : WindowManagerEntry) (part : String) :
    Verdict :=
  match aspect with
  | .layer kind => entry.isVisible kind part
  | .appOnTop =>
    (entry.isVisible .app part).andThen fun _ => entry.isAppOnTop part

/--
Whether the aspect does not hold of a window stack.  An application window is
off the top if it is hidden, and otherwise if another one is on top.
-/
def isHidden (aspect : WindowAspect) (entry : WindowManagerEntry) (part : String) :
    Verdict :=
  match aspect with
  | .layer kind => (entry.isVisible kind part).negate
  | .appOnTop =>
    let hidden := (entry.isVisible .app part).negate
    if hidden.passed then hidden else (entry.isAppOnTop part).negate

end WindowAspect

namespace WindowAssertion

def all : List WindowAssertion :=
  WindowAspect.all.flatMap fun aspect => [⟨aspect, true⟩, ⟨aspect, false⟩]

/-- The name of an assertion, as it is written in plans. -/
def name (assertion : WindowAssertion) : String :=
  (if assertion.shown then "shows_" else "hides_") ++ assertion.aspect.name

/-- The verdict of an assertion on a window stack. -/
def holds (assertion : WindowAssertion) (part : String) (entry : WindowManagerEntry) :
    Verdict :=
  if assertion.shown then
    assertion.aspect.isShown entry part
  else
    assertion.aspect.isHidden entry part

/-- The predicate that an assertion is for windows with `part` in their titles. -/
def predicate (assertion : WindowAssertion) (part : String) :
    Predicate WindowManagerEntry :=
  { name := assertion.name ++ "(" ++ part ++ ")"
    evaluate := assertion.holds part }

/-- The greatest number of edits for which a name is suggested. -/
def suggestionReach : Nat :=
  3

/-- The first of some names at the least distance from `input`, with that distance. -/
def nearest? (input : String) : List String → Option (String × Nat)
  | [] => none
  | name :: rest =>
    let distance := Text.editDistance input name
    match nearest? input rest with
    | some (other, least) =>
      if distance ≤ least then some (name, distance) else some (other, least)
    | none => some (name, distance)

/-- The known name nearest to `input`, unless all are out of reach. -/
def suggest? (input : String) : Option String :=
  match nearest? input (all.map name) with
  | some (name, distance) => if distance ≤ suggestionReach then some name else none
  | none => none

def ofName (name : String) : Except UnknownAssertion WindowAssertion :=
  match all.find? fun assertion => assertion.name = name with
  | some assertion => .ok assertion
  | none => .error { name, suggestion := suggest? name }

end WindowAssertion

end PhaseAssertions
