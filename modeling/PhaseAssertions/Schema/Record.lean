import PhaseAssertions.Schema.Fault
import PhaseAssertions.Schema.TextMap

/-!
# Schemas

A schema says what a document of some kind consists of, independently of the
format in which it is written.  A format in turn says how its values are read
as integers, texts, sequences or records.  Records are read field by field
into a draft, in the order of the document; when all members were read, the
draft is completed with defaults, or the first required field that is missing
is reported.
-/

namespace PhaseAssertions.Schema

universe u

/-- A field of a record, read from values by actions in `Reading`. -/
structure Field (Reading : Type → Type) (Value : Type) (Draft : Type) where
  name : String
  /-- Whether the field has no default. -/
  required : Bool
  /-- Whether the draft has the field already. -/
  isFilled : Draft → Bool
  /-- The draft with the field read from a value. -/
  read : Draft → Value → Reading Draft

/-- A record: its fields and how a draft of it is completed. -/
structure Record (Reading : Type → Type) (Value : Type) (Draft Result : Type) where
  /-- The name of the record in messages. -/
  name : String
  fields : List (Field Reading Value Draft)
  /-- Whether other fields are refused; if not, they are passed over. -/
  closed : Bool
  start : Draft
  /-- The record of a draft, or the first required field that is missing. -/
  finish : Draft → Except Fault Result

namespace Record

variable {Reading : Type → Type} {Value Draft Result : Type}

def fieldNames (record : Record Reading Value Draft Result) : List String :=
  record.fields.map Field.name

def field? (record : Record Reading Value Draft Result) (name : String) :
    Option (Field Reading Value Draft) :=
  record.fields.find? fun field => field.name = name

/-- What is expected where the record is written as a sequence. -/
def sequenceName (record : Record Reading Value Draft Result) : String :=
  record.name ++ " with " ++ toString record.fields.length ++
    (if record.fields.length = 1 then " element" else " elements")

end Record

/-- How the values of a format are read. -/
structure Format (Reading : Type → Type) (Value : Type) where
  integer : Value → Reading Int64
  text : Value → Reading String
  truth : Value → Reading Bool
  choice : {Result : Type} → List (String × Result) → Value → Reading Result
  sequence : {Result : Type} → (Value → Reading Result) → Value → Reading (List Result)
  /-- A thing that may be absent. -/
  optional : {Result : Type} → (Value → Reading Result) → Value → Reading (Option Result)
  record : {Draft Result : Type} → Record Reading Value Draft Result →
    Value → Reading Result
  textMap : Value → Reading TextMap

/-- The value of a required field, or the fault that it is missing. -/
def required {Result : Type} (name : String) : Option Result → Except Fault Result
  | some value => .ok value
  | none => .error (.missingField name)

end PhaseAssertions.Schema
