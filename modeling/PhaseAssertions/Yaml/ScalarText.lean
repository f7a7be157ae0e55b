import PhaseAssertions.Yaml.Cursor

/-!
# How scalars are spelled

The text of a scalar in each of its styles.  Within plain and quoted scalars
the white space around the end of a line is folded: a single end of a line
becomes a space and of several the first is dropped.  Block scalars keep their
lines and either keep or fold the ends of lines between them.
-/

namespace PhaseAssertions.Yaml.ScalarText

/-- White space that was read and is not yet part of a text. -/
structure Gap where
  blanks : List Char := []
  /-- Whether the gap reaches beyond the current line. -/
  broken : Bool := false
  firstBreak : List Char := []
  moreBreaks : List Char := []

/-- What a gap contributes to a text. -/
def Gap.text (gap : Gap) : List Char :=
  if gap.broken then
    if gap.firstBreak = ['\n'] then
      if gap.moreBreaks.isEmpty then [' '] else gap.moreBreaks
    else
      gap.firstBreak ++ gap.moreBreaks
  else
    gap.blanks

/-- The gap after one more end of a line. -/
def Gap.pushBreak (gap : Gap) (ended : List Char) : Gap :=
  if gap.broken then
    { gap with moreBreaks := gap.moreBreaks ++ ended }
  else
    { gap with blanks := [], broken := true, firstBreak := ended }

/--
The gap that starts at a cursor, and the cursor behind it.  Blanks at the start
of further lines are dropped; a tab left of `indent` among them is refused.
-/
def readGap (indent : Nat) (gap : Gap) : Nat → Cursor → Option (Gap × Cursor)
  | 0, cursor => some (gap, cursor)
  | fuel + 1, cursor =>
    match cursor.next with
    | some character =>
      if isBlank (some character) then
        if gap.broken then
          if cursor.mark.column < indent && character = '\t' then none
          else readGap indent gap fuel (cursor.skip 1)
        else
          readGap indent { gap with blanks := gap.blanks ++ [character] } fuel
            (cursor.skip 1)
      else if isBreak (some character) then
        let (ended, cursor) := cursor.takeBreak
        readGap indent (gap.pushBreak ended) fuel cursor
      else
        some (gap, cursor)
    | none => some (gap, cursor)

/-! ### Plain scalars -/

/-- Whether a character delimits the items of flow collections. -/
def isFlowIndicator : Option Char → Bool
  | some character =>
    character = ',' || character = '[' || character = ']' || character = '\x7b' ||
      character = '\x7d'
  | none => false

/-- Whether a plain scalar ends before the next character. -/
def endsPlain (flow : Bool) (cursor : Cursor) : Bool :=
  isBlankOrEnd cursor.next ||
    (cursor.next = some ':' && isBlankOrEnd (cursor.peek 1)) ||
    (flow && isFlowIndicator cursor.next)

/-- Whether a colon stands before an indicator of a flow collection. -/
def isMisplacedColon (flow : Bool) (cursor : Cursor) : Bool :=
  flow && cursor.next = some ':' &&
    (isFlowIndicator (cursor.peek 1) || cursor.peek 1 = some '?')

/-- The characters of a plain scalar up to white space or an indicator. -/
def readWord (flow : Bool) (word : List Char) : Nat → Cursor → Option (List Char × Cursor)
  | 0, _ => none
  | fuel + 1, cursor =>
    if isBlankOrEnd cursor.next then some (word.reverse, cursor)
    else if isMisplacedColon flow cursor then none
    else if endsPlain flow cursor then some (word.reverse, cursor)
    else
      match cursor.next with
      | some character => readWord flow (character :: word) fuel (cursor.skip 1)
      | none => none

/-- A plain scalar that was read. -/
structure Plain where
  text : List Char
  /-- Whether it is followed by the end of a line. -/
  lineEnded : Bool
  cursor : Cursor

/--
The rest of a plain scalar after `text` and a gap.  In block collections it
ends at a line that is indented less than `indent`.
-/
def readPlain (flow : Bool) (indent : Nat) (text : List Char) (gap : Gap) :
    Nat → Cursor → Option Plain
  | 0, _ => none
  | fuel + 1, cursor =>
    let ended : Plain := { text, lineEnded := gap.broken, cursor }
    if cursor.atDocumentMarker || cursor.next = some '#' then
      some ended
    else do
      let (word, behind) ← readWord flow [] (cursor.size + 1) cursor
      let text := if word.isEmpty then text else text ++ gap.text ++ word
      let gap := if word.isEmpty then gap else {}
      if isBlank behind.next || isBreak behind.next then
        let (gap, behind) ← readGap indent gap (behind.size + 1) behind
        if !flow && behind.mark.column < indent then
          return { text, lineEnded := gap.broken, cursor := behind }
        else
          readPlain flow indent text gap fuel behind
      else
        return { text, lineEnded := gap.broken, cursor := behind }

/-! ### Quoted scalars -/

/-- The characters that an escape of one letter stands for. -/
def simpleEscape? : Char → Option (List Char)
  | '0' => some ['\x00']
  | 'a' => some ['\x07']
  | 'b' => some ['\x08']
  | 't' | '\t' => some ['\t']
  | 'n' => some ['\n']
  | 'v' => some ['\x0b']
  | 'f' => some ['\x0c']
  | 'r' => some ['\r']
  | 'e' => some ['\x1b']
  | ' ' => some [' ']
  | '"' => some ['"']
  | '/' => some ['/']
  | '\\' => some ['\\']
  | 'N' => some ['\x85']
  | '_' => some ['\xa0']
  | 'L' => some ['\u2028']
  | 'P' => some ['\u2029']
  | _ => none

/-- The number of hexadecimal digits behind the letter of an escape. -/
def escapeLength? : Char → Option Nat
  | 'x' => some 2
  | 'u' => some 4
  | 'U' => some 8
  | _ => none

def escapedChar? (digits : List Char) : Option Char := do
  let values ← digits.mapM hexDigit?
  let code := values.foldl (fun total value => 16 * total + value) 0
  if code.isValidChar then some (Char.ofNat code) else none

/-- The text of an escape behind its backslash, and the cursor behind it. -/
def readEscape (cursor : Cursor) : Option (List Char × Cursor) := do
  let letter ← cursor.next
  match simpleEscape? letter, escapeLength? letter with
  | some characters, _ => return (characters, cursor.skip 1)
  | none, some length =>
    let digits := (cursor.rest.drop 1).take length
    if digits.length < length then failure
    let character ← escapedChar? digits
    return ([character], cursor.skip (length + 1))
  | none, none => failure

/-- What ends a run of characters within a quoted scalar. -/
structure QuotedRun where
  /-- The characters, in reverse. -/
  reversed : List Char
  /-- Whether the run ended with an end of a line that is escaped. -/
  escapedBreak : Bool
  cursor : Cursor

/-- A run of characters within a quoted scalar, up to white space or the quote. -/
def readQuotedRun (single : Bool) (reversed : List Char) : Nat → Cursor → Option QuotedRun
  | 0, _ => none
  | fuel + 1, cursor =>
    match cursor.next with
    | none => some { reversed, escapedBreak := false, cursor }
    | some character =>
      if isBlankOrEnd (some character) then
        some { reversed, escapedBreak := false, cursor }
      else if single && cursor.sees ['\'', '\''] then
        readQuotedRun single ('\'' :: reversed) fuel (cursor.skip 2)
      else if character = (if single then '\'' else '"') then
        some { reversed, escapedBreak := false, cursor }
      else if !single && character = '\\' then
        if isBreak (cursor.peek 1) then
          some { reversed, escapedBreak := true, cursor := (cursor.skip 1).skipBreak }
        else
          match readEscape (cursor.skip 1) with
          | some (characters, behind) =>
            readQuotedRun single (characters.reverse ++ reversed) fuel behind
          | none => none
      else
        readQuotedRun single (character :: reversed) fuel (cursor.skip 1)

/-- The rest of a quoted scalar up to its closing quote, after `reversed`. -/
def readQuoted (single : Bool) (reversed : List Char) :
    Nat → Cursor → Option (List Char × Cursor)
  | 0, _ => none
  | fuel + 1, cursor => do
    if cursor.atDocumentMarker || cursor.next.isNone then failure
    let run ← readQuotedRun single reversed (cursor.size + 1) cursor
    if run.cursor.next = some (if single then '\'' else '"') then
      return (run.reversed.reverse, run.cursor.skip 1)
    let (gap, behind) ←
      readGap 0 { broken := run.escapedBreak } (run.cursor.size + 1) run.cursor
    readQuoted single (gap.text.reverse ++ run.reversed) fuel behind

/-! ### Block scalars -/

/-- What is done with the ends of lines at the end of a block scalar. -/
inductive Chomping where
  | strip
  /-- The first one is kept. -/
  | clip
  | keep

/-- The sign that sets the chomping, if it is next. -/
def readChomping (cursor : Cursor) : Option Chomping × Cursor :=
  match cursor.next with
  | some '+' => (some .keep, cursor.skip 1)
  | some '-' => (some .strip, cursor.skip 1)
  | _ => (none, cursor)

/-- The digit that sets the indentation, if one is next; it must not be zero. -/
def readIncrement (cursor : Cursor) : Option (Option Nat × Cursor) :=
  match cursor.next with
  | some character =>
    if character.isDigit then
      if character = '0' then none
      else some (some (character.toNat - 48), cursor.skip 1)
    else
      some (none, cursor)
  | none => some (none, cursor)

/-- The chomping and the indentation that the head of a block scalar sets. -/
def readBlockHead (cursor : Cursor) : Option ((Chomping × Option Nat) × Cursor) := do
  match readChomping cursor with
  | (some chomping, behind) =>
    let (increment, behind) ← readIncrement behind
    return ((chomping, increment), ← behind.finishLine)
  | (none, _) =>
    let (increment, behind) ← readIncrement cursor
    let (chomping, behind) :=
      if increment.isSome then readChomping behind else (none, behind)
    return ((chomping.getD .clip, increment), ← behind.finishLine)

/-- Empty lines of a block scalar. -/
structure EmptyLines where
  breaks : List Char
  /-- The greatest number of spaces on them and at the start of the line behind. -/
  widest : Nat
  /-- The cursor on the first line that is not empty, behind its indentation. -/
  cursor : Cursor

/--
Reads empty lines and the indentation of the line behind them, at most
`indent` spaces where that is known.  A tab within the indentation is refused.
-/
def readEmptyLines (indent : Option Nat) (breaks : List Char) (widest : Nat) :
    Nat → Cursor → Option EmptyLines
  | 0, _ => none
  | fuel + 1, cursor =>
    let spaces := (cursor.takeWhile (· = ' ')).1.length
    let cursor :=
      cursor.skip (indent.elim spaces fun width => min spaces (width - cursor.mark.column))
    let column := cursor.mark.column
    let widest := max widest column
    if indent.all (column < ·) && cursor.next = some '\t' then none
    else if isBreak cursor.next then
      let (ended, cursor) := cursor.takeBreak
      readEmptyLines indent (breaks ++ ended) widest fuel cursor
    else
      some { breaks, widest, cursor }

/-- The lines of a block scalar that were read. -/
structure BlockText where
  /-- The text without what follows its last line. -/
  text : List Char
  lastBreak : List Char
  /-- The ends of the empty lines behind it. -/
  breaks : List Char
  cursor : Cursor

/--
Reads the lines of a block scalar that are indented by `indent`.  A folded end
of a line between two lines that do not start with a blank becomes a space, or
nothing before empty lines.
-/
def readBlockLines (folded : Bool) (indent : Nat) (afterBlank : Bool) (block : BlockText) :
    Nat → Option BlockText
  | 0 => none
  | fuel + 1 =>
    let cursor := block.cursor
    if cursor.mark.column = indent && cursor.next.isSome then do
      let startsBlank := isBlank cursor.next
      let joint :=
        if folded && block.lastBreak = ['\n'] && !afterBlank && !startsBlank then
          if block.breaks.isEmpty then [' '] else []
        else
          block.lastBreak
      let (line, behind) := cursor.takeWhile fun _ => true
      let (ended, behind) := behind.takeBreak
      let empty ← readEmptyLines (some indent) [] 0 (behind.size + 1) behind
      readBlockLines folded indent startsBlank
        { text := block.text ++ joint ++ block.breaks ++ line
          lastBreak := ended
          breaks := empty.breaks
          cursor := empty.cursor }
        fuel
    else
      some block

/-- A block scalar behind its indicator, in a collection of the given indentation. -/
def readBlock (folded : Bool) (outer : Int) (cursor : Cursor) :
    Option (List Char × Cursor) := do
  let ((chomping, increment), cursor) ← readBlockHead cursor
  let given := increment.map fun width => (max outer 0).toNat + width
  let empty ← readEmptyLines given [] 0 (cursor.size + 1) cursor
  let indent := given.getD (max empty.widest (max (outer + 1).toNat 1))
  let block ←
    readBlockLines folded indent false
      { text := [], lastBreak := [], breaks := empty.breaks, cursor := empty.cursor }
      (cursor.size + 1)
  let tail :=
    match chomping with
    | .strip => []
    | .clip => block.lastBreak
    | .keep => block.lastBreak ++ block.breaks
  return (block.text ++ tail, block.cursor)

end PhaseAssertions.Yaml.ScalarText
