import PhaseAssertions.Text.Quoted

/-!
# Faults in documents

Why a well-formed document is not a document of the expected kind: a value of
the wrong type, a field that is missing, given twice or not known, or something
that a format cannot express.  The wording names what was found and what was
expected.
-/

namespace PhaseAssertions.Schema

/-- What was found where something else was expected. -/
inductive Found where
  /-- The absence of a value, by the word that the format has for it. -/
  | absent (word : String)
  | bool (value : Bool)
  /-- An integer of at most 64 bits. -/
  | integer (value : Int)
  /-- An integer of more than 64 bits. -/
  | wideInteger (value : Int)
  /-- A number that is no integer, as it is shown. -/
  | float (text : String)
  | text (value : String)
  | sequence
  | map

def Found.description : Found → String
  | .absent word => word
  | .bool value => "boolean `" ++ toString value ++ "`"
  | .integer value => "integer `" ++ toString value ++ "`"
  | .wideInteger value =>
    "integer `" ++ toString value ++ "` as " ++ (if 0 ≤ value then "u128" else "i128")
  | .float shown => "floating point `" ++ shown ++ "`"
  | .text value => "string " ++ Text.quoted value
  | .sequence => "sequence"
  | .map => "map"

/-- Why a document is not of the expected kind. -/
inductive Fault where
  | invalidType (found : Found) (expected : String)
  /-- A value has the right type but is not allowed. -/
  | invalidValue (found : Found) (expected : String)
  /-- A record that is written as a sequence has too few items. -/
  | invalidLength (length : Nat) (expected : String)
  | missingField (name : String)
  | duplicateField (name : String)
  | unknownField (name : String) (known : List String)
  /-- A name is none of those that can be chosen. -/
  | unknownVariant (name : String) (known : List String)
  /-- Something else stands where a value has to start or to end. -/
  | expectedValue
  /-- A record that is written as a sequence has too many items. -/
  | trailingCharacters
  | numberOutOfRange
  /-- One half of a surrogate pair stands where it makes no pair. -/
  | loneSurrogate
  /-- The first half of a surrogate pair is not followed by an escape. -/
  | unfinishedSurrogate
  /-- A text holds bytes that are no character. -/
  | invalidCodePoint
  | moreThanOneDocument
  /-- Aliases stand for too much. -/
  | repetitionLimit
  /-- A value is missing altogether. -/
  | endOfDocument

namespace Fault

/-- A name between backquotes. -/
def ticked (name : String) : String :=
  "`" ++ name ++ "`"

/-- The names that would have been allowed, in words. -/
def oneOf : List String → String
  | [] => "there are no fields"
  | [name] => "expected " ++ ticked name
  | [first, second] => "expected " ++ ticked first ++ " or " ++ ticked second
  | names => "expected one of " ++ ", ".intercalate (names.map ticked)

def message : Fault → String
  | .invalidType found expected =>
    "invalid type: " ++ found.description ++ ", expected " ++ expected
  | .invalidValue found expected =>
    "invalid value: " ++ found.description ++ ", expected " ++ expected
  | .invalidLength length expected =>
    "invalid length " ++ toString length ++ ", expected " ++ expected
  | .missingField name => "missing field " ++ ticked name
  | .duplicateField name => "duplicate field " ++ ticked name
  | .unknownField name known => "unknown field " ++ ticked name ++ ", " ++ oneOf known
  | .unknownVariant name known => "unknown variant " ++ ticked name ++ ", " ++ oneOf known
  | .expectedValue => "expected value"
  | .trailingCharacters => "trailing characters"
  | .numberOutOfRange => "number out of range"
  | .loneSurrogate => "lone leading surrogate in hex escape"
  | .unfinishedSurrogate => "unexpected end of hex escape"
  | .invalidCodePoint => "invalid unicode code point"
  | .moreThanOneDocument =>
    "deserializing from YAML containing more than one document is not supported"
  | .repetitionLimit => "repetition limit exceeded"
  | .endOfDocument => "EOF while parsing a value"

/-- Whether a fault is about a value, and so is reported with the place of one. -/
def isAboutValue : Fault → Bool
  | .moreThanOneDocument | .repetitionLimit | .endOfDocument => false
  | _ => true

end Fault

end PhaseAssertions.Schema
