/-!
# JSON values and how they are written

A JSON value for output, and its two written forms: one line without any
space, and an indented form with two spaces for each level.  Strings are
written as they are except for the quote, the backslash and control
characters.
-/

namespace PhaseAssertions.Json

/-- A JSON value to be written; numbers are integers. -/
inductive Value where
  | null
  | bool (value : Bool)
  | int (value : Int)
  | str (value : String)
  | array (items : List Value)
  /-- An object whose members keep their order. -/
  | object (members : List (String × Value))
deriving Inhabited

namespace Value

/-- A string, or null where there is none. -/
def ofOption : Option String → Value
  | some value => .str value
  | none => .null

def hexDigit (number : Nat) : Char :=
  (Nat.toDigits 16 number).headD '0'

/-- One character as it is written in a string. -/
def escapeChar (character : Char) : List Char :=
  match character with
  | '"' => ['\\', '"']
  | '\\' => ['\\', '\\']
  | '\x08' => ['\\', 'b']
  | '\x0c' => ['\\', 'f']
  | '\n' => ['\\', 'n']
  | '\r' => ['\\', 'r']
  | '\t' => ['\\', 't']
  | _ =>
    let code := character.toNat
    if code < 0x20 then
      ['\\', 'u', '0', '0', hexDigit (code / 16), hexDigit (code % 16)]
    else
      [character]

def writeString (value : String) : String :=
  String.ofList ('"' :: value.toList.flatMap escapeChar ++ ['"'])

/-- A value that holds no others. -/
def writeScalar : Value → String
  | .null => "null"
  | .bool true => "true"
  | .bool false => "false"
  | .int value => toString value
  | .str value => writeString value
  | .array _ => "[]"
  | .object _ => "\x7b\x7d"

mutual

/-- The value on one line without spaces. -/
def compact : Value → String
  | .array items => "[" ++ ",".intercalate (compactItems items) ++ "]"
  | .object members => "\x7b" ++ ",".intercalate (compactMembers members) ++ "\x7d"
  | scalar => writeScalar scalar

def compactItems : List Value → List String
  | [] => []
  | item :: rest => compact item :: compactItems rest

def compactMembers : List (String × Value) → List String
  | [] => []
  | (name, value) :: rest =>
    (writeString name ++ ":" ++ compact value) :: compactMembers rest

end

/-- The start of a line at some depth. -/
def newline (depth : Nat) : String :=
  "\n" ++ String.ofList (List.replicate (2 * depth) ' ')

/-- Lines between two brackets; an empty list stays on one line. -/
def bracketed (opening closing : String) (depth : Nat) (lines : List String) :
    String :=
  if lines.isEmpty then
    opening ++ closing
  else
    opening ++ newline (depth + 1) ++
      ("," ++ newline (depth + 1)).intercalate lines ++
      newline depth ++ closing

mutual

/-- The value over several lines, starting on a line at the given depth. -/
def indented (depth : Nat) : Value → String
  | .array items => bracketed "[" "]" depth (indentedItems (depth + 1) items)
  | .object members =>
    bracketed "\x7b" "\x7d" depth (indentedMembers (depth + 1) members)
  | scalar => writeScalar scalar

def indentedItems (depth : Nat) : List Value → List String
  | [] => []
  | item :: rest => indented depth item :: indentedItems depth rest

def indentedMembers (depth : Nat) : List (String × Value) → List String
  | [] => []
  | (name, value) :: rest =>
    (writeString name ++ ": " ++ indented depth value) ::
      indentedMembers depth rest

end

def pretty (value : Value) : String :=
  indented 0 value

end Value

end PhaseAssertions.Json
