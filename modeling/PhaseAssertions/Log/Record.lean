import PhaseAssertions.Text.Quoted

/-!
# Log records

A record says that something happened: how much it matters, which part of the
program it comes from, what happened in words, and the circumstances as named
values.
-/

namespace PhaseAssertions.Log

/-- How much a record matters, the most urgent level first. -/
inductive Level where
  | error
  | warn
  | info
  | debug
  | trace
deriving DecidableEq, Inhabited

namespace Level

def all : List Level :=
  [error, warn, info, debug, trace]

/-- The level in lower-case letters, as filters are written. -/
def name : Level → String
  | .error => "error"
  | .warn => "warn"
  | .info => "info"
  | .debug => "debug"
  | .trace => "trace"

/-- The level in upper-case letters, as records are written. -/
def label : Level → String
  | .error => "ERROR"
  | .warn => "WARN"
  | .info => "INFO"
  | .debug => "DEBUG"
  | .trace => "TRACE"

/-- The place of the level, counted from one. -/
def rank : Level → Nat
  | .error => 1
  | .warn => 2
  | .info => 3
  | .debug => 4
  | .trace => 5

end Level

/-- The value of a circumstance. -/
inductive FieldValue where
  /-- A text that is shown between quotes. -/
  | quoted (value : String)
  /-- A text that is shown as it is. -/
  | plain (value : String)
  | number (value : Int)
  | bool (value : Bool)
deriving DecidableEq

def FieldValue.text : FieldValue → String
  | .quoted value => Text.quoted value
  | .plain value => value
  | .number value => toString value
  | .bool value => toString value

def FieldValue.count (value : Nat) : FieldValue :=
  .number value

/-- One record. -/
structure Record where
  level : Level
  /-- The part of the program that the record comes from. -/
  target : String
  message : String
  fields : List (String × FieldValue) := []
deriving DecidableEq

end PhaseAssertions.Log
