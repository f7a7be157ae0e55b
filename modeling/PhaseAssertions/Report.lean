import PhaseAssertions.Failure
import PhaseAssertions.Json.Value
import PhaseAssertions.Trace

/-!
# Failure reports

A report gathers the failures of one verification and says which trace they
were found on: by its description, and by the path and the checksum of its
file where these are known.
-/

namespace PhaseAssertions

universe u

/-- The failures of one verification and the identity of the trace. -/
structure FailureReport where
  failures : List Failure
  /-- The trace in a few words. -/
  trace : String
  /-- The absolute path of the file of the trace, if it is known. -/
  source : Option String
  checksum : Option String
deriving DecidableEq

def FailureLocation.json : FailureLocation → Json.Value
  | .entry index timestamp =>
    .object
      [ ("at", .str "entry"), ("index", .int index),
        ("timestamp", .int timestamp.toInt) ]
  | .span start finish =>
    .object
      [ ("at", .str "span"), ("start", .int start.toInt), ("end", .int finish.toInt) ]
  | .trace => .object [("at", .str "trace")]

def Failure.json (failure : Failure) : Json.Value :=
  .object
    [ ("kind", .str failure.kind.name), ("phase", .str failure.phase),
      ("location", failure.location.json), ("reason", .str failure.reason) ]

namespace FailureReport

def ofTrace {Entry : Type u} [Snapshot Entry] (trace : Trace Entry)
    (failures : List Failure) : FailureReport :=
  { failures
    trace := trace.text
    source := trace.provenance.map Provenance.absoluteSource
    checksum := trace.provenance.bind Provenance.checksum }

/--
The report as it is shown to people: the failures, and before them the file of
the trace or, if that is not known, after them the trace in a few words.
-/
def text (report : FailureReport) : String :=
  let body := "\n".intercalate (report.failures.map Failure.text)
  match report.source with
  | some source =>
    "\nTrace can be found in: " ++ source ++
      "\nChecksum: " ++ report.checksum.getD "<unknown>" ++ "\n" ++ body
  | none => body ++ "\ntrace: " ++ report.trace

/-- A member of an object that is left out when it has no value. -/
def optionalMember (name : String) : Option String → List (String × Json.Value)
  | some value => [(name, .str value)]
  | none => []

/-- The report as a JSON object; what is not known is left out. -/
def json (report : FailureReport) : Json.Value :=
  .object <|
    [ ("failures", .array (report.failures.map Failure.json)),
      ("trace", .str report.trace) ] ++
      optionalMember "source" report.source ++
      optionalMember "checksum" report.checksum

end FailureReport

end PhaseAssertions
