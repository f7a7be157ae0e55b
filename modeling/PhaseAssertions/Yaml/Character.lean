import PhaseAssertions.Text.Utf8

/-!
# Characters of YAML streams

The classes of characters that the grammar of YAML speaks of, and the
characters of a stream of bytes.  Classes are asked of optional characters,
where `none` is the end of the stream.

A stream has to be well-formed UTF-8 and free of control characters.  It is
read in blocks, and a block that violates this cannot be read at all; what
comes before such a block can.
-/

namespace PhaseAssertions.Yaml

/-- The end of a line. -/
def isBreak : Option Char → Bool
  | some character =>
    character = '\n' || character = '\r' || character = '\x85' ||
      character = '\u2028' || character = '\u2029'
  | none => false

/-- A space or a tab. -/
def isBlank : Option Char → Bool
  | some character => character = ' ' || character = '\t'
  | none => false

/-- The end of a line or of the stream. -/
def isBreakOrEnd (character : Option Char) : Bool :=
  character.isNone || isBreak character

/-- White space or the end of the stream. -/
def isBlankOrEnd (character : Option Char) : Bool :=
  isBlank character || isBreakOrEnd character

/-- A letter, a digit, an underscore or a hyphen. -/
def isWord (character : Char) : Bool :=
  character.isAlphanum || character = '_' || character = '-'

/-- A character that may be part of a stream. -/
def isAllowed (character : Char) : Bool :=
  let code := character.toNat
  code == 0x09 || code == 0x0a || code == 0x0d || (0x20 ≤ code && code ≤ 0x7e) ||
    code == 0x85 || (0xa0 ≤ code && code ≤ 0xd7ff) ||
    (0xe000 ≤ code && code ≤ 0xfffd) || 0x10000 ≤ code

def hexDigit? (character : Char) : Option Nat :=
  let code := character.toNat
  if character.isDigit then some (code - 48)
  else if 97 ≤ code && code ≤ 102 then some (code - 87)
  else if 65 ≤ code && code ≤ 70 then some (code - 55)
  else none

/-- What can be read of a stream. -/
structure Source where
  /-- The characters of the blocks before the first one that cannot be read. -/
  characters : List Char
  /-- Whether there is a block that cannot be read. -/
  broken : Bool

namespace Source

/-- The number of bytes of a block. -/
def blockSize : Nat :=
  16384

/-- The number of bytes of a character. -/
def width (character : Option Char) : Nat :=
  match character with
  | some character => character.utf8Size
  | none => 1

/--
Reads characters.  `block` holds, in reverse, the complete characters of the
current block, which ends at the byte `limit`; `offset` is the place of the
next byte.  A character that does not fit into a block opens the next one.
-/
def ofCharacters (read block : List Char) (offset limit : Nat) :
    List (Option Char) → Source
  | [] => { characters := (block ++ read).reverse, broken := false }
  | character :: rest =>
    let finish := offset + width character
    let (read, block, limit) :=
      if limit < finish then (block ++ read, [], offset + blockSize) else (read, block, limit)
    match character with
    | some value =>
      if isAllowed value then
        ofCharacters read (value :: block) finish limit rest
      else
        { characters := read.reverse, broken := true }
    | none => { characters := read.reverse, broken := true }

/-- What can be read of some bytes. -/
def ofBytes (bytes : List UInt8) : Source :=
  ofCharacters [] [] 0 blockSize (Text.Utf8.decode bytes)

end Source

end PhaseAssertions.Yaml
