import PhaseAssertions.Command.Check
import PhaseAssertions.Command.Completions
import PhaseAssertions.Command.Validate
import PhaseAssertions.Command.Version
import PhaseAssertions.CommandLine.Help
import PhaseAssertions.Log.Filter
import PhaseAssertions.Log.Line

/-!
# Runs of the program

A run does what a command line asks for, with the files that there are and the
variables of the environment.  It prints something, logs the records that pass
the filter, and ends with an exit code; only if a run is quiet is nothing
logged.
-/

namespace PhaseAssertions

/-- The variables of the environment that a run depends on. -/
def environmentNames : List String :=
  [ "TRACEPHASE_TRACE", "TRACEPHASE_PLAN", "TRACEPHASE_COLOR", "TRACEPHASE_LOG_LEVEL",
    "TRACEPHASE_MAX_TRACE_SIZE", "TRACEPHASE_MAX_PLAN_SIZE", "TRACEPHASE_MAX_PHASES",
    "NO_COLOR" ]

def Command.paths : Command → List String
  | .check arguments => [arguments.plan, arguments.trace]
  | .validate arguments => arguments.files
  | .completions _ | .version _ => []

def Command.run (files : Files) (limits : Limits) : Command → CommandOutcome
  | .check arguments => Check.run files limits arguments
  | .validate arguments => Validate.run files limits arguments
  | .completions shell => { output := Completions.script shell }
  | .version format => { output := Version.output format }

namespace Invocation

def filter (invocation : Invocation) (environment : String → Option String) : Log.Filter :=
  .ofSetting (environment "TRACEPHASE_LOG_LEVEL") invocation.verbosity

/--
How the records of a run are written.  Where colours are left open, they are
used on a terminal unless the environment forbids it.
-/
def lineStyle (invocation : Invocation) (environment : String → Option String)
    (terminal : Bool) : Log.LineStyle :=
  { json := invocation.logFormat = .json
    color :=
      match invocation.color with
      | .always => true
      | .never => false
      | .auto => terminal && (environment "NO_COLOR").isNone
    target := 2 ≤ invocation.verbosity }

/-- What a run comes to, with the records that are logged. -/
def run (invocation : Invocation) (environment : String → Option String)
    (files : Files) : CommandOutcome :=
  let outcome := invocation.command.run files (.ofEnvironment environment)
  let filter := invocation.filter environment
  { outcome with
    records := if invocation.quiet then [] else outcome.records.filter filter.passes }

end Invocation

end PhaseAssertions
