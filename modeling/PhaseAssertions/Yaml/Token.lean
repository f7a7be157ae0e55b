/-!
# Tokens of YAML streams

A stream is a sequence of tokens: indicators, properties and scalars as they
are written, and the starts and ends of block collections, which are not
written but follow from the indentation.
-/

namespace PhaseAssertions.Yaml

/-- How a scalar is written. -/
inductive ScalarStyle where
  | plain
  | singleQuoted
  | doubleQuoted
  /-- As a block whose lines are kept. -/
  | literal
  /-- As a block whose lines are folded. -/
  | folded
deriving DecidableEq

/-- What a token is. -/
inductive TokenKind where
  | versionDirective (major minor : Nat)
  /-- The directive that gives a handle for the start of tags. -/
  | tagDirective (handle : List UInt8) (start : List UInt8)
  | documentStart
  | documentEnd
  | streamEnd
  /-- The start of a sequence by indentation. -/
  | blockSequenceStart
  /-- The start of a mapping by indentation. -/
  | blockMappingStart
  /-- The end of a collection by indentation. -/
  | blockEnd
  | flowSequenceStart
  | flowSequenceEnd
  | flowMappingStart
  | flowMappingEnd
  /-- The hyphen before an item of a sequence. -/
  | blockEntry
  | flowEntry
  /-- The start of a key, written or not. -/
  | key
  | value
  | alias (name : String)
  | anchor (name : String)
  /-- A tag; the handle is empty if the tag is given in full. -/
  | tag (handle : List UInt8) (suffix : List UInt8)
  | scalar (text : String) (style : ScalarStyle)
deriving DecidableEq

/-- A token with the line on which it starts. -/
structure Token where
  kind : TokenKind
  /-- The number of lines before its line. -/
  line : Nat
deriving DecidableEq

/-- The tokens that can be taken from a stream. -/
structure TokenStream where
  tokens : List Token
  /-- Whether they end with the stream, and not with something unreadable. -/
  complete : Bool

end PhaseAssertions.Yaml
