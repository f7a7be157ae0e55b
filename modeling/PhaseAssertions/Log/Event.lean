import PhaseAssertions.Inspect
import PhaseAssertions.Log.Record
import PhaseAssertions.Plan.Apply
import PhaseAssertions.Plan.Load
import PhaseAssertions.Trace.Load

/-!
# Events as log records

Every event of the library in the words of the log.  Calls of predicates are
the finest detail, transitions between phases come next, loads and outcomes
after them, and oddities of a plan are always worth a warning.
-/

namespace PhaseAssertions

open Log

def Call.record (call : Call) : Record :=
  { level := .trace
    target := "tracephase::phase::group"
    message := "evaluated"
    fields := [("predicate", .quoted call.predicate), ("passed", .bool call.passed)] }

def checkerRecord (level : Level) (message : String)
    (fields : List (String × FieldValue)) : Record :=
  { level, target := "tracephase::phase::checker", message, fields }

/-- The records of an event of the checker. -/
def CheckEvent.records : CheckEvent → List Record
  | .phaseRepeats phase =>
    [checkerRecord .warn "phase repeats the phase before it" [("phase", .plain phase)]]
  | .nothingToCheck total range =>
    [ checkerRecord .debug "no entries to check"
        [ ("total", .count total),
          ("range", .plain (Inspect.optional (range.map TimestampRange.inspect))) ] ]
  | .noPhases => [checkerRecord .warn "no phases declared; nothing to verify" []]
  | .started mode entries phases skipUntilFirst =>
    [ checkerRecord .debug "checking trace"
        [ ("mode", .plain mode.inspect), ("entries", .count entries),
          ("phases", .count phases), ("skip_until_first", .bool skipUntilFirst) ] ]
  | .evaluated evaluation => evaluation.calls.map Call.record
  | .skipped entries =>
    [checkerRecord .debug "skipped leading entries" [("skipped", .count entries)]]
  | .boundary source target timestamp =>
    [ checkerRecord .debug "phase boundary"
        [ ("from", .count source), ("to", .count target),
          ("timestamp", .number timestamp.toInt) ] ]
  | .finished failures =>
    [checkerRecord .debug "check complete" [("failures", .count failures)]]

def subjectRecord (message : String) (fields : List (String × FieldValue)) : Record :=
  { level := .debug, target := "tracephase::subject", message, fields }

/-- The records of an event of a verification. -/
def VerifyEvent.records : VerifyEvent → List Record
  | .check event => event.records
  | .passed trace mode =>
    [ subjectRecord "verification passed"
        [("trace", .plain trace), ("mode", .plain mode.inspect)] ]
  | .failed trace failures =>
    [ subjectRecord "verification failed"
        [("trace", .plain trace), ("failures", .count failures)] ]

def PlanEvaluation.inspect : PlanEvaluation → String
  | .allEntries => "AllEntries"
  | .range bounds => "Range(" ++ bounds.inspect ++ ")"
  | .firstEntry => "FirstEntry"
  | .lastEntry => "LastEntry"

/-- What stands for the name of a plan that has none. -/
def unnamedPlan : String :=
  "<unnamed>"

def PlanEvent.records : PlanEvent → List Record
  | .applying plan evaluation phases =>
    [ { level := .debug
        target := "tracephase::plan"
        message := "applying plan"
        fields :=
          [ ("plan", .quoted (plan.getD unnamedPlan)),
            ("evaluation", .plain evaluation.inspect), ("phases", .count phases) ] } ]
  | .verifying event => event.records

def LoadEvent.record : LoadEvent → Record
  | .decoded entries label =>
    { level := .debug
      target := "tracephase::trace::loader"
      message := "decoded trace"
      fields := [("entries", .count entries), ("input", .quoted label)] }
  | .loaded label entries checksum =>
    { level := .info
      target := "tracephase::trace::loader"
      message := "loaded trace"
      fields :=
        [ ("trace", .plain label), ("entries", .count entries),
          ("checksum", .plain checksum) ] }

end PhaseAssertions
