import PhaseAssertions.Json.Number
import PhaseAssertions.Json.Text
import PhaseAssertions.Schema.Decode
import PhaseAssertions.Schema.Record
import PhaseAssertions.Text.Utf8

/-!
# Reading JSON documents by a schema

The first fault in the order of the document is reported.  A record may be
written as an object or as an array of its fields in order, in which fields
with a default may be missing at the end.  A choice is a string, or an object
whose only member has the chosen name and a null value.
-/

namespace PhaseAssertions.Json

open Schema (Fault Found Record Field Format)

/-- Actions that read a value of a document. -/
abbrev Reading := Except Fault

/-- A number for messages. -/
def Number.found : Number → Found
  | .integer value => .integer value
  | .float value => .float (value.text .scientific)

namespace Document

/-- What a value is, for messages. -/
def found : Document → Reading Found
  | .null => return .absent "null"
  | .bool value => return .bool value
  | .number numeral => return (← numeral.value).found
  | .string spelled => return .text (← textOf spelled)
  | .array _ => return .sequence
  | .object _ => return .map

/-- The fault that a value is not of the expected type. -/
def refuse {Result : Type} (document : Document) (expected : String) :
    Reading Result := do
  throw (.invalidType (← document.found) expected)

def integer : Document → Reading Int64
  | .number numeral => do
    match ← numeral.value with
    | .integer value =>
      if value ≤ Int64.maxValue.toInt then return Int64.ofInt value
      else throw (.invalidValue (.integer value) "i64")
    | .float value => throw (.invalidType (Number.float value).found "i64")
  | other => other.refuse "i64"

def text : Document → Reading String
  | .string spelled => textOf spelled
  | other => other.refuse "a string"

def truth : Document → Reading Bool
  | .bool value => return value
  | other => other.refuse "a boolean"

def choose {Result : Type} (known : List (String × Result)) (name : String) :
    Reading Result :=
  match known.find? fun pair => pair.1 = name with
  | some pair => return pair.2
  | none => throw (.unknownVariant name (known.map Prod.fst))

def choice {Result : Type} (known : List (String × Result)) : Document → Reading Result
  | .string spelled => do choose known (← textOf spelled)
  | .object ((spelled, content) :: others) => do
    let result ← choose known (← textOf spelled)
    match content with
    | .null => if others.isEmpty then return result else throw .expectedValue
    | other => other.refuse "unit"
  | _ => throw .expectedValue

def sequence {Result : Type} (read : Document → Reading Result) :
    Document → Reading (List Result)
  | .array items => items.mapM read
  | other => other.refuse "a sequence"

def optional {Result : Type} (read : Document → Reading Result) :
    Document → Reading (Option Result)
  | .null => return none
  | other => return some (← read other)

/-- The draft of a record after the members of an object. -/
def readMembers {Draft Result : Type} (record : Record Reading Document Draft Result) :
    Draft → List (List Spelled × Document) → Reading Draft
  | draft, [] => return draft
  | draft, (spelled, content) :: rest => do
    let name ← textOf spelled
    match record.field? name with
    | some field =>
      if field.isFilled draft then throw (.duplicateField name)
      readMembers record (← field.read draft content) rest
    | none =>
      if record.closed then throw (.unknownField name record.fieldNames)
      readMembers record draft rest

/--
The draft of a record after the items of an array, the first of which belongs
to the field at `position`.
-/
def readItems {Draft Result : Type} (record : Record Reading Document Draft Result) :
    (position : Nat) → List (Field Reading Document Draft) → Draft → List Document →
      Reading Draft
  | _, [], draft, [] => return draft
  | _, [], _, _ :: _ => throw .trailingCharacters
  | position, field :: fields, draft, [] =>
    if field.required then
      throw (.invalidLength position record.sequenceName)
    else
      readItems record (position + 1) fields draft []
  | position, field :: fields, draft, item :: items => do
    readItems record (position + 1) fields (← field.read draft item) items

def record {Draft Result : Type} (record : Record Reading Document Draft Result) :
    Document → Reading Result
  | .object members => do record.finish (← readMembers record record.start members)
  | .array items => do record.finish (← readItems record 0 record.fields record.start items)
  | other => other.refuse record.name

/-- A map after the members of an object. -/
def readPairs : TextMap → List (List Spelled × Document) → Reading TextMap
  | map, [] => return map
  | map, (spelled, content) :: rest => do
    let key ← textOf spelled
    let value ← content.text
    readPairs (map.insert key value) rest

def textMap : Document → Reading TextMap
  | .object members => readPairs .empty members
  | other => other.refuse "a map"

end Document

/-- How JSON documents are read. -/
def format : Format Reading Document where
  integer := Document.integer
  text := Document.text
  truth := Document.truth
  choice := Document.choice
  sequence := Document.sequence
  optional := Document.optional
  record := Document.record
  textMap := Document.textMap

/-- Decodes the document that some bytes spell. -/
def decode {Result : Type} (read : Document → Reading Result) (bytes : List UInt8) :
    Except DecodeError Result :=
  match Document.parse? (Text.Utf8.decode bytes) with
  | none => .error (.malformed .json)
  | some document =>
    match read document with
    | .ok result => .ok result
    | .error fault => .error (.unexpected fault.message none)

end PhaseAssertions.Json
