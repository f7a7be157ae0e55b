import PhaseAssertions.Yaml.Property
import PhaseAssertions.Yaml.ScalarText

/-!
# From characters to tokens

The tokens of a stream are found from left to right.  Block collections are
delimited by indentation: a stack of columns tells which are open, and a token
further to the left closes them.

A key without an indicator is recognised only by the colon behind it.  So a
token that may turn out to be a key is remembered, one for each flow level,
and is held back until a colon follows on the same line within a bounded
distance, or can no longer follow.  A token that has to be a key, because it
stands where the next key of a mapping is due, must be followed by its colon.
-/

namespace PhaseAssertions.Yaml

/-- A token that may turn out to be a key. -/
structure KeyCandidate where
  /-- Whether it has to be a key. -/
  required : Bool
  /-- The number of tokens before it. -/
  number : Nat
  mark : Mark

/-- The state between two tokens. -/
structure Lexer where
  cursor : Cursor
  /-- The column of the innermost open block collection; `-1` outside of all. -/
  indent : Int
  /-- The columns of the block collections around it, innermost first. -/
  outerIndents : List Int
  /-- The candidates for keys, one place for each flow level, innermost first. -/
  candidates : List (Option KeyCandidate)
  keyAllowed : Bool
  /-- The number of tokens given away. -/
  given : Nat
  held : List Token
  ended : Bool

namespace Lexer

def start (characters : List Char) : Lexer :=
  { cursor := .start characters, indent := -1, outerIndents := [], candidates := [none]
    keyAllowed := true, given := 0, held := [], ended := false }

/-- Whether the cursor is within a flow collection. -/
def inFlow (lexer : Lexer) : Bool :=
  1 < lexer.candidates.length

def mark (lexer : Lexer) : Mark :=
  lexer.cursor.mark

def count (lexer : Lexer) : Nat :=
  lexer.given + lexer.held.length

/-- The greatest distance from a key to the colon behind it. -/
def keyReach : Nat :=
  1024

/-! ### Indentation -/

def push (lexer : Lexer) (kind : TokenKind) (mark : Mark) : Lexer :=
  { lexer with held := lexer.held ++ [{ kind, line := mark.line }] }

/-- Closes the block collections to the right of a column. -/
def unindentFrom (column : Int) (token : Token) :
    (indent : Int) → List Int → Int × List Int × List Token
  | indent, [] => (indent, [], [])
  | indent, outer :: outers =>
    if column < indent then
      let (indent, outers, tokens) := unindentFrom column token outer outers
      (indent, outers, token :: tokens)
    else
      (indent, outer :: outers, [])

/-- Closes the block collections to the right of a column, outside of flow collections. -/
def unindent (lexer : Lexer) (column : Int) : Lexer :=
  if lexer.inFlow then lexer
  else
    let ended : Token := { kind := .blockEnd, line := lexer.mark.line }
    let (indent, outerIndents, tokens) :=
      unindentFrom column ended lexer.indent lexer.outerIndents
    { lexer with indent, outerIndents, held := lexer.held ++ tokens }

/--
Opens a block collection at a column that is to the right of the innermost open
one.  Its token is inserted before the token with the given number.
-/
def openBlock (lexer : Lexer) (kind : TokenKind) (number : Nat) (mark : Mark) : Lexer :=
  if !lexer.inFlow && lexer.indent < mark.column then
    { lexer with
      indent := mark.column
      outerIndents := lexer.indent :: lexer.outerIndents
      held :=
        lexer.held.insertIdx (number - lexer.given) { kind, line := mark.line } }
  else
    lexer

/-! ### Candidates for keys -/

/-- Whether a candidate can no longer be followed by its colon. -/
def isStale (mark : Mark) (candidate : KeyCandidate) : Bool :=
  candidate.mark.line < mark.line || candidate.mark.index + keyReach < mark.index

/-- Gives up the candidates that are stale; none of them may be required. -/
def dropStale (lexer : Lexer) : Option Lexer :=
  let stale := isStale lexer.mark
  if lexer.candidates.any fun place => place.any fun key => stale key && key.required then
    none
  else
    some { lexer with
      candidates := lexer.candidates.map fun place => place.filter fun key => !stale key }

/-- Gives up the candidate of the current flow level; it must not be required. -/
def dropCandidate (lexer : Lexer) : Option Lexer :=
  match lexer.candidates with
  | some candidate :: outer =>
    if candidate.required then none
    else some { lexer with candidates := none :: outer }
  | _ => some lexer

/-- Remembers that the next token may be a key, where keys are allowed. -/
def markCandidate (lexer : Lexer) : Option Lexer :=
  if lexer.keyAllowed then do
    let candidate : KeyCandidate :=
      { required := !lexer.inFlow && lexer.indent = lexer.mark.column
        number := lexer.count
        mark := lexer.mark }
    let lexer ← lexer.dropCandidate
    return { lexer with candidates := some candidate :: lexer.candidates.drop 1 }
  else
    some lexer

/-! ### One token -/

/-- Adds the token of an indicator of some characters and moves behind it. -/
def pushIndicator (lexer : Lexer) (kind : TokenKind) (length : Nat) : Lexer :=
  { lexer.push kind lexer.mark with cursor := lexer.cursor.skip length }

/-- The end of the stream, which also ends its last line. -/
def takeEnd (lexer : Lexer) : Option Lexer := do
  let mark := lexer.mark
  let place : Mark :=
    if mark.column = 0 then mark else { mark with line := mark.line + 1, column := 0 }
  let lexer := { lexer with cursor := { lexer.cursor with mark := place } }
  let lexer ← (lexer.unindent (-1)).dropCandidate
  return { lexer.push .streamEnd lexer.mark with keyAllowed := false, ended := true }

def takeDirective (lexer : Lexer) : Option Lexer := do
  let lexer ← (lexer.unindent (-1)).dropCandidate
  let (kind, cursor) ← Property.readDirective lexer.cursor
  return { lexer.push kind lexer.mark with keyAllowed := false, cursor }

/-- A marker of the start or the end of a document. -/
def takeDocumentMarker (lexer : Lexer) (kind : TokenKind) : Option Lexer := do
  let lexer ← (lexer.unindent (-1)).dropCandidate
  return { lexer.pushIndicator kind 3 with keyAllowed := false }

def takeFlowStart (lexer : Lexer) (kind : TokenKind) : Option Lexer := do
  let lexer ← lexer.markCandidate
  return { lexer.pushIndicator kind 1 with
    candidates := none :: lexer.candidates, keyAllowed := true }

def takeFlowEnd (lexer : Lexer) (kind : TokenKind) : Option Lexer := do
  let lexer ← lexer.dropCandidate
  let candidates :=
    if lexer.inFlow then lexer.candidates.drop 1 else lexer.candidates
  return { lexer.pushIndicator kind 1 with candidates, keyAllowed := false }

def takeFlowEntry (lexer : Lexer) : Option Lexer := do
  let lexer ← lexer.dropCandidate
  return { lexer.pushIndicator .flowEntry 1 with keyAllowed := true }

def takeBlockEntry (lexer : Lexer) : Option Lexer := do
  if !lexer.inFlow && !lexer.keyAllowed then failure
  let lexer ←
    (lexer.openBlock .blockSequenceStart lexer.count lexer.mark).dropCandidate
  return { lexer.pushIndicator .blockEntry 1 with keyAllowed := true }

def takeKey (lexer : Lexer) : Option Lexer := do
  if !lexer.inFlow && !lexer.keyAllowed then failure
  let lexer ←
    (lexer.openBlock .blockMappingStart lexer.count lexer.mark).dropCandidate
  return { lexer.pushIndicator .key 1 with keyAllowed := !lexer.inFlow }

/-- The colon before a value, which makes a key of the candidate before it. -/
def takeValue (lexer : Lexer) : Option Lexer :=
  match lexer.candidates with
  | some candidate :: outer =>
    let key : Token := { kind := .key, line := candidate.mark.line }
    let lexer :=
      { lexer with
        held := lexer.held.insertIdx (candidate.number - lexer.given) key
        candidates := none :: outer }
    let lexer := lexer.openBlock .blockMappingStart candidate.number candidate.mark
    some { lexer.pushIndicator .value 1 with keyAllowed := false }
  | _ =>
    if !lexer.inFlow && !lexer.keyAllowed then none
    else
      let lexer := lexer.openBlock .blockMappingStart lexer.count lexer.mark
      some { lexer.pushIndicator .value 1 with keyAllowed := !lexer.inFlow }

def takeName (lexer : Lexer) (kind : String → TokenKind) : Option Lexer := do
  let lexer ← lexer.markCandidate
  let (name, cursor) ← Property.readName lexer.cursor
  return { lexer.push (kind name) lexer.mark with keyAllowed := false, cursor }

def takeTag (lexer : Lexer) : Option Lexer := do
  let lexer ← lexer.markCandidate
  let (kind, cursor) ← Property.readTag lexer.inFlow lexer.cursor
  return { lexer.push kind lexer.mark with keyAllowed := false, cursor }

def takeBlockScalar (lexer : Lexer) (style : ScalarStyle) : Option Lexer := do
  let lexer ← lexer.dropCandidate
  let (text, cursor) ←
    ScalarText.readBlock (style = .folded) lexer.indent (lexer.cursor.skip 1)
  return { lexer.push (.scalar (String.ofList text) style) lexer.mark with
    keyAllowed := true, cursor }

def takeQuoted (lexer : Lexer) (style : ScalarStyle) : Option Lexer := do
  let lexer ← lexer.markCandidate
  let behind := lexer.cursor.skip 1
  let (text, cursor) ←
    ScalarText.readQuoted (style = .singleQuoted) [] (behind.size + 1) behind
  return { lexer.push (.scalar (String.ofList text) style) lexer.mark with
    keyAllowed := false, cursor }

def takePlain (lexer : Lexer) : Option Lexer := do
  let lexer ← lexer.markCandidate
  let plain ←
    ScalarText.readPlain lexer.inFlow (lexer.indent + 1).toNat [] {}
      (lexer.cursor.size + 1) lexer.cursor
  return { lexer.push (.scalar (String.ofList plain.text) .plain) lexer.mark with
    keyAllowed := plain.lineEnded, cursor := plain.cursor }

/-- Whether a character is an indicator and so starts no plain scalar. -/
def isIndicator (character : Char) : Bool :=
  [ '-', '?', ':', ',', '[', ']', '\x7b', '\x7d', '#', '&', '*', '!', '|', '>', '\'', '"',
    '%', '@', '\x60' ].contains character

/-- Whether a plain scalar starts with the next character. -/
def startsPlain (lexer : Lexer) (character : Char) : Bool :=
  let following := lexer.cursor.peek 1
  !(isBlankOrEnd (some character) || isIndicator character) ||
    (character = '-' && !isBlank following) ||
    (!lexer.inFlow && (character = '?' || character = ':') && !isBlankOrEnd following)

/-- The token that starts with a character, where no blanks or comments are next. -/
def takeToken (lexer : Lexer) (character : Char) : Option Lexer :=
  let cursor := lexer.cursor
  let spaced := isBlankOrEnd (cursor.peek 1)
  if cursor.mark.column = 0 && character = '%' then lexer.takeDirective
  else if cursor.atMarker '-' then lexer.takeDocumentMarker .documentStart
  else if cursor.atMarker '.' then lexer.takeDocumentMarker .documentEnd
  else if character = '[' then lexer.takeFlowStart .flowSequenceStart
  else if character = '\x7b' then lexer.takeFlowStart .flowMappingStart
  else if character = ']' then lexer.takeFlowEnd .flowSequenceEnd
  else if character = '\x7d' then lexer.takeFlowEnd .flowMappingEnd
  else if character = ',' then lexer.takeFlowEntry
  else if character = '-' && spaced then lexer.takeBlockEntry
  else if character = '?' && (lexer.inFlow || spaced) then lexer.takeKey
  else if character = ':' && (lexer.inFlow || spaced) then lexer.takeValue
  else if character = '*' then lexer.takeName .alias
  else if character = '&' then lexer.takeName .anchor
  else if character = '!' then lexer.takeTag
  else if character = '|' && !lexer.inFlow then lexer.takeBlockScalar .literal
  else if character = '>' && !lexer.inFlow then lexer.takeBlockScalar .folded
  else if character = '\'' then lexer.takeQuoted .singleQuoted
  else if character = '"' then lexer.takeQuoted .doubleQuoted
  else if lexer.startsPlain character then lexer.takePlain
  else none

/-! ### All tokens -/

/--
Passes over blanks, comments and ends of lines.  Tabs count as blanks only
where no key may start, and behind the end of a line a key may start again.
-/
def skipToToken (lexer : Lexer) : Nat → Lexer
  | 0 => lexer
  | fuel + 1 =>
    let cursor :=
      if lexer.mark.column = 0 && lexer.cursor.next = some '\ufeff' then lexer.cursor.skip 1
      else lexer.cursor
    let tabs := lexer.inFlow || !lexer.keyAllowed
    let cursor :=
      (cursor.skipWhile fun character =>
        character = ' ' || (tabs && character = '\t')).skipComment
    if isBreak cursor.next then
      skipToToken
        { lexer with cursor := cursor.skipBreak, keyAllowed := lexer.keyAllowed || !lexer.inFlow }
        fuel
    else
      { lexer with cursor }

/-- Finds one more token, or several if block collections start or end. -/
def advance (broken : Bool) (lexer : Lexer) : Option Lexer := do
  let lexer := lexer.skipToToken (lexer.cursor.size + 1)
  let lexer ← lexer.dropStale
  let lexer := lexer.unindent lexer.mark.column
  if broken && lexer.cursor.rest.length < 4 then failure
  let lexer ←
    match lexer.cursor.next with
    | some character => lexer.takeToken character
    | none => lexer.takeEnd
  if broken && lexer.cursor.rest.isEmpty then failure
  return lexer

/-- Whether the first of the tokens held back may turn out to be a key. -/
def holdsCandidate (lexer : Lexer) : Bool :=
  lexer.candidates.any fun place => place.any fun key => key.number = lexer.given

/-- The tokens that need not be held back any longer. -/
def release (lexer : Lexer) : Nat → List Token × Lexer
  | 0 => ([], lexer)
  | fuel + 1 =>
    match lexer.held with
    | token :: held =>
      if lexer.holdsCandidate then ([], lexer)
      else
        let (tokens, lexer) := release { lexer with held, given := lexer.given + 1 } fuel
        (token :: tokens, lexer)
    | [] => ([], lexer)

/-- The tokens from some state on. -/
def run (broken : Bool) (lexer : Lexer) : Nat → TokenStream
  | 0 => { tokens := [], complete := false }
  | fuel + 1 =>
    match (lexer.advance broken).bind dropStale with
    | none => { tokens := [], complete := false }
    | some lexer =>
      let (tokens, lexer) := lexer.release lexer.held.length
      if lexer.ended then
        { tokens := tokens ++ lexer.held, complete := true }
      else
        let others := run broken lexer fuel
        { others with tokens := tokens ++ others.tokens }

end Lexer

/-- The tokens of a stream.  Every step takes at least one character. -/
def TokenStream.ofSource (source : Source) : TokenStream :=
  (Lexer.start source.characters).run source.broken (source.characters.length + 2)

end PhaseAssertions.Yaml
