/-!
# JSON documents as they are written

A document is read in two stages.  The first, here, goes by the grammar alone:
it finds the values and keeps strings and numbers as they were spelled.
Whether a spelled string denotes a text, and which number a literal stands
for, is asked only where a value of the document is used.

A document may come from bytes that are not all well-formed, so the characters
are optional; a place without a character is allowed within a string only.
-/

namespace PhaseAssertions.Json

/-- One element of a spelled string. -/
inductive Spelled where
  /-- A character, written as it is or by a short escape. -/
  | char (value : Char)
  /-- A 16-bit unit, written by four hexadecimal digits. -/
  | unit (value : Nat)
  /-- A byte that belongs to no character. -/
  | stray
deriving DecidableEq

/-- A number as it was written. -/
structure Numeral where
  negative : Bool
  whole : List Nat
  fraction : Option (List Nat)
  /-- The sign and the digits of the exponent, if there is one. -/
  exponent : Option (Bool × List Nat)
deriving DecidableEq

/-- A value of a document as it was written. -/
inductive Document where
  | null
  | bool (value : Bool)
  | number (numeral : Numeral)
  | string (spelled : List Spelled)
  | array (items : List Document)
  | object (members : List (List Spelled × Document))
deriving Inhabited

namespace Document

/-- What is left to read. -/
abbrev Input := List (Option Char)

/-- Reads something off the front of the input, or refuses it. -/
abbrev Reader (α : Type) := Input → Option (α × Input)

/-- Whether a character may stand between the parts of a document. -/
def isSpace : Option Char → Bool
  | some character =>
    character = ' ' || character = '\n' || character = '\r' || character = '\t'
  | none => false

def skipSpace (input : Input) : Input :=
  input.dropWhile isSpace

def digit? : Option Char → Option Nat
  | some character => if character.isDigit then some (character.toNat - 48) else none
  | none => none

def hexDigit? : Option Char → Option Nat
  | some character =>
    let code := character.toNat
    if character.isDigit then some (code - 48)
    else if 97 ≤ code && code ≤ 102 then some (code - 87)
    else if 65 ≤ code && code ≤ 70 then some (code - 55)
    else none
  | none => none

def digits : Input → List Nat × Input
  | [] => ([], [])
  | character :: rest =>
    match digit? character with
    | some value =>
      let (values, rest) := digits rest
      (value :: values, rest)
    | none => ([], character :: rest)

def someDigits : Reader (List Nat) := fun input =>
  match digits input with
  | ([], _) => none
  | (values, rest) => some (values, rest)

/-- The digits before the point: a single zero, or no zero at the front. -/
def wholePart : Reader (List Nat) := fun input =>
  match digits input with
  | ([], _) => none
  | ([0], rest) => some ([0], rest)
  | (0 :: _, _) => none
  | (values, rest) => some (values, rest)

def fractionPart : Reader (Option (List Nat)) := fun input =>
  match input with
  | some '.' :: rest => do
    let (values, rest) ← someDigits rest
    return (some values, rest)
  | _ => some (none, input)

/-- The sign of an exponent; true stands for a minus sign. -/
def exponentSign : Input → Bool × Input
  | some '-' :: rest => (true, rest)
  | some '+' :: rest => (false, rest)
  | rest => (false, rest)

def exponentPart : Reader (Option (Bool × List Nat)) := fun input =>
  match input with
  | some 'e' :: rest | some 'E' :: rest => do
    let (negative, rest) := exponentSign rest
    let (values, rest) ← someDigits rest
    return (some (negative, values), rest)
  | _ => some (none, input)

/-- A number behind its sign. -/
def numeral (negative : Bool) : Reader Numeral := fun input => do
  let (whole, rest) ← wholePart input
  let (fraction, rest) ← fractionPart rest
  let (exponent, rest) ← exponentPart rest
  return ({ negative, whole, fraction, exponent }, rest)

def shortEscape? : Option Char → Option Char
  | some '"' => some '"'
  | some '\\' => some '\\'
  | some '/' => some '/'
  | some 'b' => some '\x08'
  | some 'f' => some '\x0c'
  | some 'n' => some '\n'
  | some 'r' => some '\r'
  | some 't' => some '\t'
  | _ => none

/-- The unit of four hexadecimal digits. -/
def unit? (d₀ d₁ d₂ d₃ : Option Char) : Option Nat := do
  let d₀ ← hexDigit? d₀
  let d₁ ← hexDigit? d₁
  let d₂ ← hexDigit? d₂
  let d₃ ← hexDigit? d₃
  return ((d₀ * 16 + d₁) * 16 + d₂) * 16 + d₃

/-- A string behind its opening quote. -/
def stringRest : Reader (List Spelled)
  | some '"' :: rest => some ([], rest)
  | some '\\' :: some 'u' :: d₀ :: d₁ :: d₂ :: d₃ :: rest => do
    let unit ← unit? d₀ d₁ d₂ d₃
    let (spelled, rest) ← stringRest rest
    return (.unit unit :: spelled, rest)
  | some '\\' :: escape :: rest => do
    let character ← shortEscape? escape
    let (spelled, rest) ← stringRest rest
    return (.char character :: spelled, rest)
  | some character :: rest =>
    if character.toNat < 0x20 || character = '\\' then none
    else do
      let (spelled, rest) ← stringRest rest
      return (.char character :: spelled, rest)
  | none :: rest => do
    let (spelled, rest) ← stringRest rest
    return (.stray :: spelled, rest)
  | [] => none

def word (expected : List Char) (value : Document) : Reader Document := fun input =>
  if (expected.map some).isPrefixOf input then
    some (value, input.drop expected.length)
  else
    none

mutual

/-- A value at the front of the input, within `depth` steps of nesting. -/
def value (depth : Nat) : Reader Document := fun input =>
  match depth with
  | 0 => none
  | depth + 1 =>
    match input with
    | some '"' :: rest => (stringRest rest).map fun (spelled, rest) => (.string spelled, rest)
    | some '[' :: rest =>
      match skipSpace rest with
      | some ']' :: rest => some (.array [], rest)
      | rest => (items depth rest).map fun (values, rest) => (.array values, rest)
    | some '\x7b' :: rest =>
      match skipSpace rest with
      | some '\x7d' :: rest => some (.object [], rest)
      | rest => (members depth rest).map fun (values, rest) => (.object values, rest)
    | some 't' :: _ => word ['t', 'r', 'u', 'e'] (.bool true) input
    | some 'f' :: _ => word ['f', 'a', 'l', 's', 'e'] (.bool false) input
    | some 'n' :: _ => word ['n', 'u', 'l', 'l'] .null input
    | some '-' :: rest => (numeral true rest).map fun (literal, rest) => (.number literal, rest)
    | _ => (numeral false input).map fun (literal, rest) => (.number literal, rest)

/-- The items of an array up to its closing bracket, at least one. -/
def items (depth : Nat) : Reader (List Document) := fun input =>
  match depth with
  | 0 => none
  | depth + 1 =>
    match value depth input with
    | none => none
    | some (first, rest) =>
      match skipSpace rest with
      | some ']' :: rest => some ([first], rest)
      | some ',' :: rest =>
        (items depth (skipSpace rest)).map fun (others, rest) => (first :: others, rest)
      | _ => none

/-- The members of an object up to its closing brace, at least one. -/
def members (depth : Nat) : Reader (List (List Spelled × Document)) := fun input =>
  match depth with
  | 0 => none
  | depth + 1 =>
    match input with
    | some '"' :: rest =>
      match stringRest rest with
      | none => none
      | some (name, rest) =>
        match skipSpace rest with
        | some ':' :: rest =>
          match value depth (skipSpace rest) with
          | none => none
          | some (first, rest) =>
            match skipSpace rest with
            | some '\x7d' :: rest => some ([(name, first)], rest)
            | some ',' :: rest =>
              (members depth (skipSpace rest)).map fun (others, rest) =>
                ((name, first) :: others, rest)
            | _ => none
        | _ => none
    | _ => none

end

/--
The document that some characters spell: one value with white space around it.
Every step of nesting takes a character, so their number is a sufficient depth.
-/
def parse? (input : Input) : Option Document :=
  match value (input.length + 1) (skipSpace input) with
  | some (document, rest) => if (skipSpace rest).isEmpty then some document else none
  | none => none

end Document

end PhaseAssertions.Json
