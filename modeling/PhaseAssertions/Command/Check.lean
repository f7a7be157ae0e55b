import PhaseAssertions.Command.Outcome
import PhaseAssertions.CommandLine.Invocation
import PhaseAssertions.Log.Event

/-!
# The command that checks a trace

The plan is loaded before the trace is looked at, so a plan that cannot be used
is reported whatever the trace is.  A trace that does not satisfy the plan is
reported in full in the output.
-/

namespace PhaseAssertions.Check

open Log

def target : String :=
  "tracephase::cli::commands::check"

def warningRecord (warning : PlanWarning) : Record :=
  { level := .warn, target, message := warning.message
    fields := [("location", .quoted warning.location)] }

def finishedRecord (arguments : CheckArguments) (plan : Plan) (passed : Bool) : Record :=
  { level := .info, target, message := "verification finished"
    fields :=
      [ ("plan", .quoted (plan.name.getD unnamedPlan)), ("trace", .plain arguments.trace),
        ("passed", .bool passed) ] }

/-- The name of a plan for people: its own, or that of its file. -/
def planLabel (arguments : CheckArguments) (plan : Plan) : String :=
  (plan.name.or (Path.fileStem? arguments.plan)).getD "plan"

def passText (label : String) (entries : Nat) : String :=
  "PASS " ++ label ++ " (" ++ toString entries ++ " entries)"

def json (arguments : CheckArguments) (plan : Plan) (trace : Trace WindowManagerEntry)
    (report : Option FailureReport) : Json.Value :=
  .object <|
    [ ("plan", .ofOption plan.name), ("trace", .str arguments.trace),
      ("entries", .int trace.entries.length),
      ("checksum", .ofOption (trace.provenance.bind Provenance.checksum)),
      ("passed", .bool report.isNone) ] ++
      report.toList.map fun report => ("report", report.json)

def output (arguments : CheckArguments) (plan : Plan) (trace : Trace WindowManagerEntry)
    (report : Option FailureReport) : String :=
  match arguments.format, report with
  | .human, none => passText (planLabel arguments plan) trace.entries.length ++ "\n"
  | .human, some report => report.text ++ "\n"
  | .json, report => (json arguments plan trace report).pretty ++ "\n"

/-- Applies a plan to a trace; `before` are the records so far. -/
def verify (arguments : CheckArguments) (plan : Plan) (trace : Trace WindowManagerEntry)
    (before : List Record) : CommandOutcome :=
  let application := plan.apply trace
  let records := before ++ application.events.flatMap PlanEvent.records
  match application.result with
  | .ok _ =>
    { output := output arguments plan trace none
      records := records ++ [finishedRecord arguments plan true] }
  | .error (.failed report) =>
    { output := output arguments plan trace (some report)
      error := some (.verify (.failed report))
      records := records ++ [finishedRecord arguments plan false] }
  | .error (.misuse cause) => { error := some (.verify (.misuse cause)), records }

/-- Checks a trace against a plan. -/
def run (files : Files) (limits : Limits) (arguments : CheckArguments) : CommandOutcome :=
  match Plan.load files limits arguments.plan with
  | .error cause => { error := some (.plan cause) }
  | .ok loaded =>
    let loading := Trace.load files limits arguments.trace arguments.checksum
    let records :=
      loaded.warnings.map warningRecord ++ loading.events.map LoadEvent.record
    match loading.result with
    | .error cause => { error := some (.trace cause), records }
    | .ok trace => verify arguments loaded.plan trace records

end PhaseAssertions.Check
