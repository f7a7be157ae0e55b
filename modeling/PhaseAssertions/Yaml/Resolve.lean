import PhaseAssertions.Decimal.Text
import PhaseAssertions.Schema.Fault
import PhaseAssertions.Text.Utf8
import PhaseAssertions.Yaml.Node

/-!
# What plain scalars stand for

A plain scalar stands for nothing, a truth value, an integer or a float if its
text has one of the forms for these, and for itself otherwise.  Integers are
decimal, or hexadecimal, octal or binary behind a mark; digits that start with
a needless zero are text.  A tag of the core schema asks for one of these
readings whatever the style of the scalar.
-/

namespace PhaseAssertions.Yaml

open Schema (Fault Found)
open Decimal

namespace Resolve

/-- Whether a text is a form of the null value. -/
def isNull (text : String) : Bool :=
  ["null", "Null", "NULL", "~"].contains text

/-- The truth value that a text is a form of. -/
def bool? (text : String) : Option Bool :=
  if ["true", "True", "TRUE"].contains text then some true
  else if ["false", "False", "FALSE"].contains text then some false
  else none

/-- The value of a digit in bases up to sixteen. -/
def digit? (character : Char) : Option Nat :=
  let code := character.toNat
  if character.isDigit then some (code - 48)
  else if 97 ≤ code && code ≤ 102 then some (code - 87)
  else if 65 ≤ code && code ≤ 70 then some (code - 55)
  else none

/-- The number written by at least one digit of a base. -/
def number? (base : Nat) (characters : List Char) : Option Nat := do
  if characters.isEmpty then failure
  let digits ← characters.mapM digit?
  if digits.all (· < base) then
    return digits.foldl (fun total digit => base * total + digit) 0
  else
    failure

/-- Whether a text is all digits, after a sign, with a needless zero in front. -/
def hasNeedlessZero (characters : List Char) : Bool :=
  let unsigned :=
    match characters with
    | '-' :: rest | '+' :: rest => rest
    | _ => characters
  match unsigned with
  | '0' :: rest => !rest.isEmpty && rest.all Char.isDigit
  | _ => false

/-- The magnitude of an integer behind its sign. -/
def magnitude? (characters : List Char) : Option Nat :=
  match characters with
  | '0' :: 'x' :: rest => number? 16 rest
  | '0' :: 'o' :: rest => number? 8 rest
  | '0' :: 'b' :: rest => number? 2 rest
  | _ => if hasNeedlessZero characters then none else number? 10 characters

/-- The integer of any size that a text is a form of. -/
def integer? (text : String) : Option Int :=
  match text.toList with
  | '-' :: rest => (magnitude? rest).map fun value => -(value : Int)
  | '+' :: rest => (magnitude? rest).map fun value => (value : Int)
  | characters => (magnitude? characters).map fun value => (value : Int)

def decimal (characters : List Char) : Nat :=
  (number? 10 characters).getD 0

/-- The exponent behind its letter: a sign and at least one digit. -/
def exponent? (characters : List Char) : Option Int :=
  match characters with
  | '-' :: rest => (number? 10 rest).map fun value => -(value : Int)
  | '+' :: rest => (number? 10 rest).map fun value => (value : Int)
  | _ => (number? 10 characters).map fun value => (value : Int)

/-- The magnitude of a float behind its sign: digits with a point and an exponent. -/
def floatMagnitude? (characters : List Char) : Option Magnitude := do
  let whole := characters.takeWhile Char.isDigit
  let rest := characters.dropWhile Char.isDigit
  let (fraction, rest) :=
    match rest with
    | '.' :: rest => (rest.takeWhile Char.isDigit, rest.dropWhile Char.isDigit)
    | _ => ([], rest)
  if whole.isEmpty && fraction.isEmpty then failure
  let exponent ←
    match rest with
    | [] => pure 0
    | 'e' :: rest | 'E' :: rest => exponent? rest
    | _ => none
  return .ofDecimal (decimal (whole ++ fraction)) (exponent - fraction.length)

/-- The float that a text is a form of, as it is shown; a number that is too great is none. -/
def float? (text : String) : Option String :=
  if [".nan", ".NaN", ".NAN"].contains text then some "NaN"
  else
    let (negative, unsigned) :=
      match text.toList with
      | '-' :: rest => (true, rest)
      | '+' :: rest => (false, rest)
      | characters => (false, characters)
    if [".inf", ".Inf", ".INF"].contains (String.ofList unsigned) then
      some ({ negative, magnitude := .infinite : Double }.text .positional)
    else
      match floatMagnitude? unsigned with
      | some (.finite mantissa exponent) =>
        some ({ negative, magnitude := .finite mantissa exponent : Double }.text .positional)
      | _ => none

/-- An integer of some size, for messages. -/
def foundInteger? (value : Int) : Option Found :=
  if Int64.minValue.toInt ≤ value && value < UInt64.size then some (.integer value)
  else if -(Nat.pow 2 127 : Int) ≤ value && value < Nat.pow 2 128 then
    some (.wideInteger value)
  else none

/-- What a plain text stands for. -/
def plain (text : String) : Found :=
  if text.isEmpty || isNull text then .absent "unit value"
  else
    match bool? text, (integer? text).bind foundInteger? with
    | some value, _ => .bool value
    | none, some found => found
    | none, none =>
      if hasNeedlessZero text.toList then .text text
      else
        match float? text with
        | some shown => .float shown
        | none => .text text

def coreTag (name : String) : List UInt8 :=
  Text.Utf8.encode ("tag:yaml.org,2002:" ++ name)

/-- Whether a tag is a local one, that is, starts with a mark. -/
def isLocal (tag : List UInt8) : Bool :=
  tag.head? = some '!'.toUInt8

/-- What a scalar is, or the fault that it is not what its tag says. -/
def scalar (tag : Option (List UInt8)) (text : String) (style : ScalarStyle) :
    Except Fault Found :=
  let misfit (expected : String) : Except Fault Found :=
    .error (.invalidValue (.text text) expected)
  match tag with
  | none => .ok (if style = .plain then plain text else .text text)
  | some tag =>
    if tag = coreTag "bool" then
      match bool? text with
      | some value => .ok (.bool value)
      | none => misfit "a boolean"
    else if tag = coreTag "int" then
      match (integer? text).bind foundInteger? with
      | some found => .ok found
      | none => misfit "an integer"
    else if tag = coreTag "float" then
      match float? text with
      | some shown => .ok (.float shown)
      | none => misfit "a float"
    else if tag = coreTag "null" then
      if isNull text then .ok (.absent "unit value") else misfit "null"
    else if isLocal tag && style = .plain then
      .ok (plain text)
    else
      .ok (.text text)

end Resolve

end PhaseAssertions.Yaml
