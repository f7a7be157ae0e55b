import PhaseAssertions.Command.Outcome
import PhaseAssertions.CommandLine.Invocation
import PhaseAssertions.Log.Event

/-!
# The command that validates plans

Every file is looked at, whatever the others are like, so one run tells about
all of them; the first file that is not valid decides how the command ends.
Where it is asked to be strict, a plan with warnings is not valid.
-/

namespace PhaseAssertions.Validate

open Log

def target : String :=
  "tracephase::cli::commands::validate"

/-- What was found out about one file. -/
structure FileReport where
  file : String
  valid : Bool
  /-- Why there is no plan, apart from its issues. -/
  error : Option String := none
  issues : List PlanIssue := []
  warnings : List PlanWarning := []
deriving DecidableEq

/-- A report on a file, with the error if there is one and the records. -/
structure FileOutcome where
  report : FileReport
  error : Option PlanError := none
  records : List Record
deriving DecidableEq

def startedRecord (path : String) : Record :=
  { level := .info, target, message := "validating plan", fields := [("file", .plain path)] }

def warningRecord (path : String) (warning : PlanWarning) : Record :=
  { level := .warn, target, message := warning.message
    fields := [("file", .plain path), ("location", .quoted warning.location)] }

/-- A warning where warnings count as errors. -/
def strictIssue (warning : PlanWarning) : PlanIssue :=
  { path := warning.location, message := warning.message, severity := .error }

/-- Validates the plan of one file. -/
def validateFile (files : Files) (limits : Limits) (strict : Bool) (path : String) :
    FileOutcome :=
  let started := startedRecord path
  match Plan.load files limits path with
  | .ok loaded =>
    let warnings := loaded.warnings
    let records := started :: warnings.map (warningRecord path)
    let issues := if strict then warnings.map strictIssue else []
    { report := { file := path, valid := issues.isEmpty, issues, warnings }
      error := if issues.isEmpty then none else some (.invalid path issues)
      records }
  | .error (.invalid label issues) =>
    { report := { file := path, valid := false, issues }
      error := some (.invalid label issues)
      records := [started] }
  | .error cause =>
    { report := { file := path, valid := false, error := some cause.message }
      error := some cause
      records := [started] }

/-- The report for people, line by line. -/
def FileReport.lines (report : FileReport) : List String :=
  (report.file ++ ": " ++ (if report.valid then "ok" else "FAILED")) ::
    (report.error.toList.map fun error => "  " ++ error) ++
    (report.issues.map fun issue => "  " ++ issue.text) ++
    if report.issues.isEmpty then
      report.warnings.map fun warning => "  warning: " ++ warning.text
    else
      []

def issueJson (issue : PlanIssue) : Json.Value :=
  .object
    [ ("path", .str issue.path), ("message", .str issue.message),
      ("severity", .str issue.severity.name) ]

/-- The report as a JSON object; an error that there is not is left out. -/
def FileReport.json (report : FileReport) : Json.Value :=
  .object <|
    [("file", .str report.file), ("valid", .bool report.valid)] ++
      (report.error.toList.map fun error => ("error", .str error)) ++
      [ ("issues", .array (report.issues.map issueJson)),
        ("warnings", .array (report.warnings.map PlanWarning.json)) ]

def output (format : OutputFormat) (reports : List FileReport) : String :=
  match format with
  | .human => String.join ((reports.flatMap FileReport.lines).map (· ++ "\n"))
  | .json => (Json.Value.array (reports.map FileReport.json)).pretty ++ "\n"

/-- Validates the plans of some files. -/
def run (files : Files) (limits : Limits) (arguments : ValidateArguments) : CommandOutcome :=
  let outcomes := arguments.files.map (validateFile files limits arguments.strict)
  { output := output arguments.format (outcomes.map FileOutcome.report)
    error := (outcomes.findSome? FileOutcome.error).map .plan
    records := outcomes.flatMap FileOutcome.records }

end PhaseAssertions.Validate
