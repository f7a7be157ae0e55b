import PhaseAssertions.Limits
import PhaseAssertions.Plan.File
import PhaseAssertions.Text.Blank
import PhaseAssertions.Window.Assertion

/-!
# Validation of plan files

Every issue of a plan file is collected, so that a plan can be mended in one
pass: first the issues of the mode and the range, then those of the phases as
a whole, then those of each phase by itself.  Errors keep a plan from being
used, warnings do not.
-/

namespace PhaseAssertions

/-- How much an issue weighs. -/
inductive Severity where
  /-- The plan cannot be used. -/
  | error
  /-- The plan can be used. -/
  | warning
deriving DecidableEq

def Severity.name : Severity → String
  | .error => "error"
  | .warning => "warning"

/-- One issue of a plan. -/
structure PlanIssue where
  /-- The part of the plan that has the issue. -/
  path : String
  message : String
  severity : Severity
deriving DecidableEq

def PlanIssue.text (issue : PlanIssue) : String :=
  issue.severity.name ++ ": " ++ issue.message ++ " at " ++ issue.path

/-- The issues of a plan. -/
structure Validation where
  errors : List PlanIssue
  warnings : List PlanIssue
deriving DecidableEq

/-- Whether a plan with these issues cannot be used. -/
def Validation.hasErrors (validation : Validation) : Bool :=
  !validation.errors.isEmpty

namespace PlanFile

def errorAt (path message : String) : PlanIssue :=
  { path, message, severity := .error }

def warningAt (path message : String) : PlanIssue :=
  { path, message, severity := .warning }

def phasePath (phase : Nat) : String :=
  "phases[" ++ toString phase ++ "]"

def stepPath (phase step : Nat) : String :=
  phasePath phase ++ "[" ++ toString step ++ "]"

/-- The errors of the range: it must be there and in order where it is used. -/
def rangeErrors (file : PlanFile) : List PlanIssue :=
  match file.mode, file.range with
  | .range, none => [errorAt "range" "mode 'range' requires a range"]
  | .range, some range =>
    if range.last < range.first then
      [ errorAt "range"
          ("start " ++ toString range.first.toInt ++ " is after end " ++
            toString range.last.toInt) ]
    else
      []
  | _, _ => []

/-- The warnings about fields that have no effect in the mode of the plan. -/
def modeWarnings (file : PlanFile) : List PlanIssue :=
  (if file.mode ≠ .range && file.range.isSome then
    [warningAt "range" "range is ignored unless mode is 'range'"]
  else
    []) ++
  (if file.skipUntilFirst && (file.mode = .first || file.mode = .last) then
    [ warningAt "skip_until_first"
        "skip_until_first has no effect when checking a single entry" ]
  else
    [])

/-- The error of having more phases than the limit allows. -/
def countErrors (limits : Limits) (file : PlanFile) : List PlanIssue :=
  if limits.maxPhases < file.phases.length then
    [ errorAt "phases"
        ("plan declares " ++ toString file.phases.length ++ " phases (limit: " ++
          toString limits.maxPhases ++ ")") ]
  else
    []

/-- The errors of a step: it must be one known assertion about some window. -/
def stepErrors (path : String) (step : TextMap) : List PlanIssue :=
  match step.pairs with
  | [(name, window)] =>
    (match WindowAssertion.ofName name with
      | .ok _ => []
      | .error unknown => [errorAt path unknown.message]) ++
      (if Text.isBlankText window then [errorAt path "window title is empty"] else [])
  | _ => [errorAt path "expected exactly one '<assertion>: <window>' pair"]

/-- The errors of the steps of a phase, the first of which stands at `position`. -/
def stepsErrors (phase position : Nat) : List TextMap → List PlanIssue
  | [] => []
  | step :: rest =>
    stepErrors (stepPath phase position) step ++ stepsErrors phase (position + 1) rest

def phaseErrors (position : Nat) (phase : PhaseSpec) : List PlanIssue :=
  if phase.isEmpty then
    [errorAt (phasePath position) "phase is empty"]
  else
    stepsErrors position 0 phase

/-- The errors of the phases one by one, the first of which stands at `position`. -/
def phasesErrors (position : Nat) : List PhaseSpec → List PlanIssue
  | [] => []
  | phase :: rest => phaseErrors position phase ++ phasesErrors (position + 1) rest

/-- Whether two phases have the same steps, the order of the pairs in a step apart. -/
def samePhase : PhaseSpec → PhaseSpec → Bool
  | [], [] => true
  | step :: rest, other :: others => step.agrees other && samePhase rest others
  | _, _ => false

/--
The warnings about phases that repeat the phase before them; the first of the
given phases stands at `position`.
-/
def repeatWarnings (position : Nat) : List PhaseSpec → List PlanIssue
  | first :: second :: rest =>
    (if !second.isEmpty && samePhase first second then
      [ warningAt (phasePath (position + 1))
          "phase repeats the phase before it and can never be reached" ]
    else
      []) ++ repeatWarnings (position + 1) (second :: rest)
  | _ => []

def errors (limits : Limits) (file : PlanFile) : List PlanIssue :=
  file.rangeErrors ++
    if file.phases.isEmpty then
      [errorAt "phases" "plan declares no phases"]
    else
      file.countErrors limits ++ phasesErrors 0 file.phases

def warnings (file : PlanFile) : List PlanIssue :=
  file.modeWarnings ++ repeatWarnings 0 file.phases

def validate (limits : Limits) (file : PlanFile) : Validation :=
  { errors := file.errors limits, warnings := file.warnings }

end PlanFile

end PhaseAssertions
