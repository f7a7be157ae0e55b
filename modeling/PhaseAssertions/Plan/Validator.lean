import PhaseAssertions.Plan.Validation

/-!
# Validators

A validator goes through a plan file once and notes the issues that it comes
across, errors and warnings apart.  A plan file without phases ends this early,
and an empty phase is noted and passed over.  The same validator can look at one
plan file after the other: it drops what it holds before it starts and hands
over what it noted at the end.

What it hands over are the issues of the plan file, whatever it was used for
before.
-/

namespace PhaseAssertions

/-- The issues noted so far. -/
structure Validator where
  errors : List PlanIssue := []
  warnings : List PlanIssue := []
deriving DecidableEq

namespace Validator

open PlanFile

/-- A validator that was not used yet. -/
def fresh : Validator :=
  {}

def clear (_ : Validator) : Validator :=
  fresh

def noteErrors (validator : Validator) (issues : List PlanIssue) : Validator :=
  { validator with errors := validator.errors ++ issues }

def noteWarnings (validator : Validator) (issues : List PlanIssue) : Validator :=
  { validator with warnings := validator.warnings ++ issues }

/-- Looks at the mode and at the fields whose use depends on it. -/
def visitMode (validator : Validator) (file : PlanFile) : Validator :=
  (validator.noteErrors file.rangeErrors).noteWarnings file.modeWarnings

/-- Looks at the steps of a phase, the first of which stands at `position`. -/
def visitSteps (validator : Validator) (phase position : Nat) : List TextMap → Validator
  | [] => validator
  | step :: rest =>
    (validator.noteErrors (stepErrors (stepPath phase position) step)).visitSteps phase
      (position + 1) rest

/-- Compares the phase at `position` with the phase before it, if there is one. -/
def compare (validator : Validator) (position : Nat) (previous : Option PhaseSpec)
    (phase : PhaseSpec) : Validator :=
  match previous with
  | none => validator
  | some previous =>
    if samePhase previous phase then
      validator.noteWarnings
        [ warningAt (phasePath position)
            "phase repeats the phase before it and can never be reached" ]
    else
      validator

/-- Looks at the phase at `position`; an empty one is not compared with another. -/
def visitPhase (validator : Validator) (position : Nat) (previous : Option PhaseSpec)
    (phase : PhaseSpec) : Validator :=
  if phase.isEmpty then
    validator.noteErrors [errorAt (phasePath position) "phase is empty"]
  else
    (validator.visitSteps position 0 phase).compare position previous phase

/-- Looks at the phases behind `previous`, the first of which stands at `position`. -/
def visitPhases (validator : Validator) (position : Nat) (previous : Option PhaseSpec) :
    List PhaseSpec → Validator
  | [] => validator
  | phase :: rest =>
    (validator.visitPhase position previous phase).visitPhases (position + 1) (some phase) rest

def visit (validator : Validator) (limits : Limits) (file : PlanFile) : Validator :=
  let moded := validator.visitMode file
  if file.phases.isEmpty then
    moded.noteErrors [errorAt "phases" "plan declares no phases"]
  else
    (moded.noteErrors (file.countErrors limits)).visitPhases 0 none file.phases

/-- The issues of a plan file, with the validator as it is left. -/
def validate (validator : Validator) (limits : Limits) (file : PlanFile) :
    Validation × Validator :=
  let visited := validator.clear.visit limits file
  ({ errors := visited.errors, warnings := visited.warnings }, visited.clear)

/-! ## What is noted -/

variable (validator : Validator)

@[simp]
theorem errors_noteErrors (issues : List PlanIssue) :
    (validator.noteErrors issues).errors = validator.errors ++ issues :=
  rfl

@[simp]
theorem warnings_noteErrors (issues : List PlanIssue) :
    (validator.noteErrors issues).warnings = validator.warnings :=
  rfl

@[simp]
theorem errors_noteWarnings (issues : List PlanIssue) :
    (validator.noteWarnings issues).errors = validator.errors :=
  rfl

@[simp]
theorem warnings_noteWarnings (issues : List PlanIssue) :
    (validator.noteWarnings issues).warnings = validator.warnings ++ issues :=
  rfl

theorem visitSteps_eq (phase position : Nat) (steps : List TextMap) :
    validator.visitSteps phase position steps =
      validator.noteErrors (stepsErrors phase position steps) := by
  induction steps generalizing validator position with
  | nil => simp [visitSteps, stepsErrors, noteErrors]
  | cons step rest induction =>
      rw [visitSteps, induction, stepsErrors, noteErrors, noteErrors, noteErrors,
        List.append_assoc]

@[simp]
theorem errors_compare
    (position : Nat) (previous : Option PhaseSpec) (phase : PhaseSpec) :
    (validator.compare position previous phase).errors = validator.errors := by
  cases previous with
  | none => rfl
  | some previous =>
      unfold compare
      dsimp only
      split <;> rfl

@[simp]
theorem errors_visitPhase
    (position : Nat) (previous : Option PhaseSpec) (phase : PhaseSpec) :
    (validator.visitPhase position previous phase).errors =
      validator.errors ++ phaseErrors position phase := by
  unfold visitPhase phaseErrors
  split
  · rfl
  · rw [errors_compare, visitSteps_eq, errors_noteErrors]

theorem warnings_visitPhase_none (position : Nat) (phase : PhaseSpec) :
    (validator.visitPhase position none phase).warnings = validator.warnings := by
  unfold visitPhase
  split
  · rfl
  · rw [visitSteps_eq]
    rfl

theorem warnings_visitPhase_some (position : Nat) (previous phase : PhaseSpec) :
    (validator.visitPhase (position + 1) (some previous) phase).warnings =
      validator.warnings ++ repeatWarnings position [previous, phase] := by
  cases phase with
  | nil => simp [visitPhase, repeatWarnings]
  | cons step rest =>
      by_cases same : samePhase previous (step :: rest) = true <;>
        simp [visitPhase, visitSteps_eq, compare, repeatWarnings, same]

theorem errors_visitPhases
    (position : Nat) (previous : Option PhaseSpec) (phases : List PhaseSpec) :
    (validator.visitPhases position previous phases).errors =
      validator.errors ++ phasesErrors position phases := by
  induction phases generalizing validator position previous with
  | nil => simp [visitPhases, phasesErrors]
  | cons phase rest induction =>
      rw [visitPhases, induction, errors_visitPhase, phasesErrors, List.append_assoc]

theorem warnings_visitPhases_some
    (position : Nat) (previous : PhaseSpec) (phases : List PhaseSpec) :
    (validator.visitPhases (position + 1) (some previous) phases).warnings =
      validator.warnings ++ repeatWarnings position (previous :: phases) := by
  induction phases generalizing validator position previous with
  | nil => simp [visitPhases, repeatWarnings]
  | cons phase rest induction =>
      rw [visitPhases, induction, warnings_visitPhase_some, List.append_assoc]
      simp only [repeatWarnings, List.append_nil]

theorem warnings_visitPhases_none (position : Nat) (phases : List PhaseSpec) :
    (validator.visitPhases position none phases).warnings =
      validator.warnings ++ repeatWarnings position phases := by
  cases phases with
  | nil => simp [visitPhases, repeatWarnings]
  | cons phase rest =>
      rw [visitPhases, warnings_visitPhases_some, warnings_visitPhase_none]

theorem errors_visit (limits : Limits) (file : PlanFile) :
    (validator.visit limits file).errors = validator.errors ++ file.errors limits := by
  unfold visit visitMode PlanFile.errors
  dsimp only
  split
  · simp
  · simp [errors_visitPhases]

theorem warnings_visit (limits : Limits) (file : PlanFile) :
    (validator.visit limits file).warnings = validator.warnings ++ file.warnings := by
  unfold visit visitMode PlanFile.warnings
  dsimp only
  split
  · next undeclared => simp [List.isEmpty_iff.1 undeclared, repeatWarnings]
  · simp [warnings_visitPhases_none]

/-- Any validator hands over the issues of the plan file and is left as if it were fresh. -/
@[simp]
theorem validate_eq (limits : Limits) (file : PlanFile) :
    validator.validate limits file = (file.validate limits, fresh) := by
  simp [validate, clear, errors_visit, warnings_visit, fresh, PlanFile.validate]

end Validator

end PhaseAssertions
