import PhaseAssertions.Digest
import PhaseAssertions.Files
import PhaseAssertions.Json.Format
import PhaseAssertions.Limits
import PhaseAssertions.Text.Blank
import PhaseAssertions.Trace
import PhaseAssertions.Trace.Schema
import PhaseAssertions.Yaml.Format

/-!
# Loading traces

A trace is loaded from a file in stages: its size is compared with the limit
before it is read, its checksum with the expected one before it is decoded,
and the entries are checked for their order last.  The first stage that fails
decides the error.
-/

namespace PhaseAssertions

/-- Why a trace could not be loaded. -/
inductive TraceError where
  | unordered (disorder : Disorder)
  /-- The input with this label could not be decoded. -/
  | undecodable (label : String) (cause : DecodeError)
  | checksumMismatch (path expected actual : String)
  | tooLarge (path : String) (size limit : Nat)
  | unreadable (path : String) (fault : AccessFault)
deriving DecidableEq

def TraceError.message : TraceError → String
  | .unordered disorder => disorder.message
  | .undecodable label cause => "parse error in " ++ label ++ ": " ++ cause.message
  | .checksumMismatch path expected actual =>
    "checksum mismatch for " ++ path ++ ": expected " ++ expected ++
      ", computed " ++ actual
  | .tooLarge path size limit =>
    "trace file " ++ path ++ " is " ++ toString size ++ " bytes (limit: " ++
      toString limit ++ ")"
  | .unreadable path fault => "failed to read trace " ++ path ++ ": " ++ fault.message

/-- Something that is reported while a trace is loaded. -/
inductive LoadEvent where
  | decoded (entries : Nat) (label : String)
  | loaded (label : String) (entries : Nat) (checksum : String)
deriving DecidableEq

/-- The result of loading a trace, with the events on the way. -/
structure TraceLoading where
  result : Except TraceError (Trace WindowManagerEntry)
  events : List LoadEvent

namespace Trace

/-- The entries of a trace document in a given format. -/
def decode (format : DocumentFormat) (bytes : List UInt8) :
    Except DecodeError (List WindowManagerEntry) :=
  match format with
  | .json => Json.decode (Schema.entries Json.format) (Text.Utf8.withoutMark bytes)
  | .yaml => Yaml.decode (Schema.entries Yaml.format) (Text.Utf8.withoutMark bytes)

/-- The trace that some bytes spell; `label` names them in errors. -/
def parse (format : DocumentFormat) (label : String) (bytes : List UInt8) :
    TraceLoading :=
  match decode format bytes with
  | .error cause => { result := .error (.undecodable label cause), events := [] }
  | .ok entries =>
    { result := (ofEntries entries).mapError .unordered
      events := [.decoded entries.length label] }

/--
Whether a text is the expected checksum, white space around it and the case of
its letters apart.
-/
def isChecksum (expected checksum : String) : Bool :=
  (Text.trimChars expected.toList).map Char.toLower = checksum.toList.map Char.toLower

/-- The trace with the place that it was loaded from. -/
def loadedFrom (files : Files) (path checksum : String)
    (trace : Trace WindowManagerEntry) : Trace WindowManagerEntry :=
  trace.withProvenance
    { source := path, directory := files.directory, checksum := some checksum }

/-- The trace that the contents of a file spell, if they have the expected checksum. -/
def ofContents (files : Files) (path : String) (expected : Option String)
    (contents : List UInt8) : TraceLoading :=
  let checksum := Digest.sha256Hex contents
  match expected.filter fun expected => !isChecksum expected checksum with
  | some expected =>
    { result := .error (.checksumMismatch path expected checksum), events := [] }
  | none =>
    let parsed := parse (.ofPath path) path contents
    match parsed.result with
    | .error error => { parsed with result := .error error }
    | .ok trace =>
      { result := .ok (trace.loadedFrom files path checksum)
        events := parsed.events ++ [.loaded path trace.entries.length checksum] }

/-- Loads the trace at a path. -/
def load (files : Files) (limits : Limits) (path : String) (expected : Option String) :
    TraceLoading :=
  match files.find path with
  | .error fault => { result := .error (.unreadable path fault), events := [] }
  | .ok entry =>
    if limits.maxTraceSize < entry.size then
      { result := .error (.tooLarge path entry.size limits.maxTraceSize), events := [] }
    else
      match entry.read with
      | .error fault => { result := .error (.unreadable path fault), events := [] }
      | .ok contents => ofContents files path expected contents

end Trace

end PhaseAssertions
