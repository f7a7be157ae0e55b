import PhaseAssertions.Yaml.Cursor
import PhaseAssertions.Yaml.Token

/-!
# How properties and directives are spelled

Anchors and aliases are names behind an indicator.  A tag is given in full
between angle brackets, or by a handle and a suffix; it may hold escaped bytes.
Directives stand on lines of their own before a document.
-/

namespace PhaseAssertions.Yaml.Property

def bytes (characters : List Char) : List UInt8 :=
  Text.Utf8.encode (String.ofList characters)

/-- Whether a character may follow the name of an anchor. -/
def endsName (character : Option Char) : Bool :=
  isBlankOrEnd character ||
    match character with
    | some character =>
      ['?', ':', ',', ']', '\x7d', '%', '@', '\x60'].contains character
    | none => false

/-- The name of an anchor or alias behind its indicator. -/
def readName (cursor : Cursor) : Option (String × Cursor) :=
  let (name, behind) := (cursor.skip 1).takeWhile isWord
  if name.isEmpty || !endsName behind.next then none
  else some (String.ofList name, behind)

/-- The handle of a tag: word characters behind a mark, and another mark behind them. -/
def readHandle (directive : Bool) (cursor : Cursor) : Option (List Char × Cursor) :=
  if cursor.next = some '!' then
    let (name, behind) := (cursor.skip 1).takeWhile isWord
    if behind.next = some '!' then
      some ('!' :: name ++ ['!'], behind.skip 1)
    else if directive && !name.isEmpty then none
    else some ('!' :: name, behind)
  else
    none

/-- Whether a character may be part of a tag as it is. -/
def isTagChar (full : Bool) (character : Char) : Bool :=
  isWord character ||
    [';', '/', '?', ':', '@', '&', '=', '+', '$', '.', '!', '~', '*', '\'', '(', ')'].contains
      character ||
    (full && [',', '[', ']'].contains character)

/-- The byte of an escape. -/
def escapedByte? : List Char → Option UInt8
  | '%' :: high :: low :: _ => do
    let high ← hexDigit? high
    let low ← hexDigit? low
    return UInt8.ofNat (16 * high + low)
  | _ => none

/-- The number of bytes in a sequence that starts with the given byte. -/
def sequenceLength? (byte : UInt8) : Option Nat :=
  let value := byte.toNat
  if value < 0x80 then some 1
  else if value < 0xc0 then none
  else if value < 0xe0 then some 2
  else if value < 0xf0 then some 3
  else if value < 0xf8 then some 4
  else none

/-- A number of escaped bytes that continue a sequence. -/
def readContinuation : Nat → Cursor → Option (List UInt8 × Cursor)
  | 0, cursor => some ([], cursor)
  | count + 1, cursor => do
    let byte ← escapedByte? cursor.rest
    if byte.toNat / 64 ≠ 2 then failure
    let (others, behind) ← readContinuation count (cursor.skip 3)
    return (byte :: others, behind)

/-- A sequence of escaped bytes. -/
def readEscapes (cursor : Cursor) : Option (List UInt8 × Cursor) := do
  let byte ← escapedByte? cursor.rest
  let length ← sequenceLength? byte
  let (others, behind) ← readContinuation (length - 1) (cursor.skip 3)
  return (byte :: others, behind)

/-- The characters of a tag after `start`, as bytes. -/
def readTagText (full : Bool) (start : List UInt8) : Nat → Cursor → Option (List UInt8 × Cursor)
  | 0, _ => none
  | fuel + 1, cursor =>
    match cursor.next with
    | some '%' =>
      match readEscapes cursor with
      | some (escaped, behind) => readTagText full (start ++ escaped) fuel behind
      | none => none
    | some character =>
      if isTagChar full character then
        readTagText full (start ++ bytes [character]) fuel (cursor.skip 1)
      else
        some (start, cursor)
    | none => some (start, cursor)

/-- The text of a tag, which must not be empty unless something stood before it. -/
def readTagUri (full : Bool) (head : List Char) (cursor : Cursor) :
    Option (List UInt8 × Cursor) := do
  let (text, behind) ←
    readTagText full (bytes (head.drop 1)) (cursor.size + 1) cursor
  if head.isEmpty && text.isEmpty then failure
  return (text, behind)

/-- The handle and the suffix of a tag. -/
def readTagParts (cursor : Cursor) : Option ((List UInt8 × List UInt8) × Cursor) := do
  if cursor.peek 1 = some '<' then
    let (uri, behind) ← readTagUri true [] (cursor.skip 2)
    if behind.next ≠ some '>' then failure
    return (([], uri), behind.skip 1)
  let (handle, behind) ← readHandle false cursor
  if 1 < handle.length && handle.getLast? = some '!' then
    let (suffix, behind) ← readTagUri false [] behind
    return ((bytes handle, suffix), behind)
  let (suffix, behind) ← readTagUri false handle behind
  if suffix.isEmpty then
    return (([], bytes ['!']), behind)
  else
    return ((bytes ['!'], suffix), behind)

/-- A tag; in flow collections a comma may follow it directly. -/
def readTag (flow : Bool) (cursor : Cursor) : Option (TokenKind × Cursor) := do
  let ((handle, suffix), behind) ← readTagParts cursor
  if isBlankOrEnd behind.next || (flow && behind.next = some ',') then
    return (.tag handle suffix, behind)
  else
    failure

/-- A part of a version: one to nine digits. -/
def readVersionPart (cursor : Cursor) : Option (Nat × Cursor) :=
  let (digits, behind) := cursor.takeWhile Char.isDigit
  if digits.isEmpty || 9 < digits.length then none
  else some (digits.foldl (fun total digit => 10 * total + (digit.toNat - 48)) 0, behind)

/-- The version that a directive names. -/
def readVersion (cursor : Cursor) : Option (TokenKind × Cursor) := do
  let (major, behind) ← readVersionPart cursor.skipBlanks
  if behind.next ≠ some '.' then failure
  let (minor, behind) ← readVersionPart (behind.skip 1)
  return (.versionDirective major minor, behind)

/-- The handle that a directive gives for the start of tags. -/
def readTagDirective (cursor : Cursor) : Option (TokenKind × Cursor) := do
  let (handle, behind) ← readHandle true cursor.skipBlanks
  if !isBlank behind.next then failure
  let (start, behind) ← readTagUri true [] behind.skipBlanks
  if !isBlankOrEnd behind.next then failure
  return (.tagDirective (bytes handle) start, behind)

/-- A directive, and the cursor at the start of the line behind it. -/
def readDirective (cursor : Cursor) : Option (TokenKind × Cursor) := do
  let (name, behind) := (cursor.skip 1).takeWhile isWord
  if name.isEmpty || !isBlankOrEnd behind.next then failure
  let (kind, behind) ←
    match String.ofList name with
    | "YAML" => readVersion behind
    | "TAG" => readTagDirective behind
    | _ => none
  return (kind, ← behind.finishLine)

end PhaseAssertions.Yaml.Property
