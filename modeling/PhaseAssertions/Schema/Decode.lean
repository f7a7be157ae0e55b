import PhaseAssertions.Path

/-!
# Decoding documents

A document is encoded in one of two formats.  Decoding it goes wrong in one of
two ways: the bytes may not be a document of the format at all, or the
document may not be of the expected kind.
-/

namespace PhaseAssertions

/-- How a document is encoded. -/
inductive DocumentFormat where
  | json
  | yaml
deriving DecidableEq

namespace DocumentFormat

def name : DocumentFormat → String
  | .json => "JSON"
  | .yaml => "YAML"

/-- The format that the extension of a path stands for. -/
def ofPath (path : String) : DocumentFormat :=
  match Path.extension? path with
  | some extension =>
    if extension.toList.map Char.toLower = ['j', 's', 'o', 'n'] then .json else .yaml
  | none => .yaml

end DocumentFormat

/-- Why a document could not be decoded. -/
inductive DecodeError where
  /-- The bytes are no document of the format. -/
  | malformed (format : DocumentFormat)
  /-- The document is not of the expected kind; the line counts from one. -/
  | unexpected (detail : String) (line : Option Nat)
deriving DecidableEq

def DecodeError.message : DecodeError → String
  | .malformed format => "the text is not well-formed " ++ format.name
  | .unexpected detail _ => detail

end PhaseAssertions
