import PhaseAssertions.Yaml.Character

/-!
# Places in a stream

A cursor is what is left of a stream together with the place that was reached.
Two characters that end a line together count as one step to the next line.
-/

namespace PhaseAssertions.Yaml

/-- A place in a stream. -/
structure Mark where
  /-- The number of characters before it. -/
  index : Nat
  /-- The number of lines before its line. -/
  line : Nat
  /-- The number of characters before it on its line. -/
  column : Nat
deriving DecidableEq

/-- What is left of a stream from some place on. -/
structure Cursor where
  rest : List Char
  /-- The place of the first of them. -/
  mark : Mark
  /-- The number of characters of the whole stream, which bounds every loop. -/
  size : Nat

namespace Cursor

def start (characters : List Char) : Cursor :=
  { rest := characters, mark := ⟨0, 0, 0⟩, size := characters.length }

/-- The character at some distance, `none` behind the end of the stream. -/
def peek (cursor : Cursor) (distance : Nat) : Option Char :=
  cursor.rest[distance]?

def next (cursor : Cursor) : Option Char :=
  cursor.rest.head?

/-- Whether the next characters are the given ones. -/
def sees (cursor : Cursor) (characters : List Char) : Bool :=
  characters.isPrefixOf cursor.rest

/-- The cursor behind a number of characters on the same line. -/
def skip (cursor : Cursor) (count : Nat) : Cursor :=
  { cursor with
    rest := cursor.rest.drop count
    mark :=
      { cursor.mark with
        index := cursor.mark.index + count
        column := cursor.mark.column + count } }

/-- The start of the next line, behind a number of characters that end this one. -/
def newLine (cursor : Cursor) (count : Nat) : Cursor :=
  { cursor with
    rest := cursor.rest.drop count
    mark := ⟨cursor.mark.index + count, cursor.mark.line + 1, 0⟩ }

/--
The end of a line at the cursor and the cursor behind it.  In the result every
end of a line is a line feed, except for the two that are only separators.
-/
def takeBreak (cursor : Cursor) : List Char × Cursor :=
  match cursor.rest with
  | '\r' :: '\n' :: _ => (['\n'], cursor.newLine 2)
  | '\r' :: _ | '\n' :: _ | '\x85' :: _ => (['\n'], cursor.newLine 1)
  | '\u2028' :: _ => (['\u2028'], cursor.newLine 1)
  | '\u2029' :: _ => (['\u2029'], cursor.newLine 1)
  | _ => ([], cursor)

def skipBreak (cursor : Cursor) : Cursor :=
  cursor.takeBreak.2

/-- The characters of the current line for which a condition holds. -/
def takeWhile (cursor : Cursor) (condition : Char → Bool) : List Char × Cursor :=
  let taken := cursor.rest.takeWhile fun character =>
    !isBreak (some character) && condition character
  (taken, cursor.skip taken.length)

/-- The cursor behind the characters of the line for which a condition holds. -/
def skipWhile (cursor : Cursor) (condition : Char → Bool) : Cursor :=
  (cursor.takeWhile condition).2

/-- The cursor behind spaces and tabs. -/
def skipBlanks (cursor : Cursor) : Cursor :=
  cursor.skipWhile fun character => isBlank (some character)

/-- The cursor at the end of the line, if only a comment is left of it. -/
def skipComment (cursor : Cursor) : Cursor :=
  if cursor.next = some '#' then cursor.skipWhile fun _ => true else cursor

/--
The cursor behind the end of a line on which only blanks and a comment are
left; a line that holds anything else is refused.
-/
def finishLine (cursor : Cursor) : Option Cursor :=
  let ended := cursor.skipBlanks.skipComment
  if isBreakOrEnd ended.next then some ended.skipBreak else none

/-- Whether three equal characters and white space stand at the start of a line. -/
def atMarker (cursor : Cursor) (character : Char) : Bool :=
  cursor.mark.column = 0 && cursor.sees [character, character, character] &&
    isBlankOrEnd (cursor.peek 3)

/-- Whether a marker of the start or the end of a document is next. -/
def atDocumentMarker (cursor : Cursor) : Bool :=
  cursor.atMarker '-' || cursor.atMarker '.'

end Cursor

end PhaseAssertions.Yaml
