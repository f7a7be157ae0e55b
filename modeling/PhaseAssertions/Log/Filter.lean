import PhaseAssertions.Log.Record
import PhaseAssertions.Text.Blank

/-!
# Log filters

A filter is a list of directives, separated by commas.  A directive gives a
threshold for the records of some targets: those whose name starts with the
target of the directive, and which have the field that it may name.  A record
is decided by the most specific directive that concerns it, the one with the
longest target, and passes if its level is within the threshold; a record that
no directive concerns does not pass.

In writing, a directive is a threshold, a target, or both with an equals sign
between them.  The target may be followed by square brackets with the name of
a span, or with the name of a field in braces.  There are no spans here, so a
directive about a span, or about the value of a field, concerns no record.
-/

namespace PhaseAssertions.Log

/-- A threshold for some records. -/
structure Directive where
  /-- What the target of a record starts with, if that matters. -/
  target : Option String := none
  /-- A field that a record has, if that matters. -/
  field : Option String := none
  /-- Whether the directive concerns records at all, and not only spans. -/
  onRecords : Bool := true
  /-- The rank of the least urgent level that passes; zero lets nothing pass. -/
  threshold : Nat := Level.trace.rank
deriving DecidableEq

namespace Directive

def fitsTarget (directive : Directive) (record : Record) : Bool :=
  directive.target.all fun target => target.toList.isPrefixOf record.target.toList

def fitsField (directive : Directive) (record : Record) : Bool :=
  directive.field.all fun field =>
    field = "message" || (record.fields.map Prod.fst).contains field

def concerns (directive : Directive) (record : Record) : Bool :=
  directive.onRecords && directive.fitsTarget record && directive.fitsField record

/-- How specific a directive is: by its target first, then by its field. -/
def weight (directive : Directive) : Nat :=
  2 * directive.target.elim 0 (fun target => target.utf8ByteSize + 1) +
    if directive.field.isSome then 1 else 0

/-- The threshold that a text stands for: the name of a level or its rank. -/
def threshold? (text : String) : Option Nat :=
  let digits :=
    match text.toList with
    | '+' :: rest => rest
    | characters => characters
  if !digits.isEmpty && digits.all Char.isDigit then
    let rank := digits.foldl (fun rank digit => 10 * rank + (digit.toNat - 48)) 0
    if rank ≤ Level.trace.rank then some rank else none
  else
    let name := String.ofList (text.toList.map Char.toLower)
    if name = "off" then some 0
    else (Level.all.find? fun level => level.name = name).map Level.rank

/-- The threshold behind an equals sign; none at all means the greatest. -/
def readThreshold (directive : Directive) : List Char → Option Directive
  | [] => some { directive with threshold := Level.trace.rank }
  | '=' :: rest =>
    if rest.isEmpty then some directive
    else
      (threshold? (String.ofList rest)).map fun threshold => { directive with threshold }
  | _ => none

/-- The name of a field behind an opening brace, and what follows the closing bracket. -/
def readField (directive : Directive) (characters : List Char) : Option Directive :=
  let field := characters.takeWhile (· ≠ '\x7d')
  match characters.dropWhile (· ≠ '\x7d') with
  | '\x7d' :: ']' :: rest =>
    if field.isEmpty then none
    else if field.contains '=' then
      readThreshold { directive with onRecords := false } rest
    else
      readThreshold { directive with field := some (String.ofList field) } rest
  | _ => none

/-- What follows an opening bracket: the name of a span or of a field. -/
def readSpan (directive : Directive) (characters : List Char) : Option Directive :=
  let ends := fun character => character = ']' || character = '\x7b'
  let span := characters.takeWhile (!ends ·)
  match characters.dropWhile (!ends ·) with
  | ']' :: rest => readThreshold { directive with onRecords := false } rest
  | '\x7b' :: rest =>
    readField { directive with onRecords := directive.onRecords && span.isEmpty } rest
  | _ => none

def startsTarget (character : Char) : Bool :=
  character.isAlphanum || character = '-' || character = ':' || character = '_'

def parse? (text : String) : Option Directive :=
  match Text.trimChars text.toList with
  | '[' :: rest => readSpan {} rest
  | first :: rest =>
    if startsTarget first then
      let ends := fun character => character = '=' || character = '['
      let name := String.ofList ((first :: rest).takeWhile (!ends ·))
      match (first :: rest).dropWhile (!ends ·) with
      | '[' :: rest => readSpan { target := some name } rest
      | [] =>
        match threshold? name with
        | some threshold => some { threshold }
        | none => some { target := some name }
      | rest => readThreshold { target := some name } rest
    else
      none
  | [] => none

end Directive

/-- Which records pass. -/
structure Filter where
  /-- The directives in order; of two that are equally specific the later counts. -/
  directives : List Directive
deriving DecidableEq

namespace Filter

/-- The more specific of two directives, the second unless the first is more specific. -/
def moreSpecific (first second : Directive) : Directive :=
  if second.weight < first.weight then first else second

def decisive? (filter : Filter) (record : Record) : Option Directive :=
  (filter.directives.filter (·.concerns record)).foldl
    (fun found directive =>
      some (found.elim directive fun first => moreSpecific first directive))
    none

def passes (filter : Filter) (record : Record) : Bool :=
  match filter.decisive? record with
  | some directive => record.level.rank ≤ directive.threshold
  | none => false

def pieces : List Char → List (List Char)
  | [] => [[]]
  | ',' :: rest => [] :: pieces rest
  | character :: rest =>
    match pieces rest with
    | [] => [[character]]
    | piece :: others => (character :: piece) :: others

/-- The filter that a text stands for; without any directive only errors pass. -/
def parse? (text : String) : Option Filter :=
  let written := (pieces text.toList).filter (!·.isEmpty)
  match written.mapM fun piece => Directive.parse? (String.ofList piece) with
  | none => none
  | some [] => some { directives := [{ threshold := Level.error.rank }] }
  | some directives => some { directives }

/-- The level that a number of requests for more detail asks for. -/
def levelOf (verbosity : Nat) : Level :=
  match verbosity with
  | 0 => .warn
  | 1 => .info
  | 2 => .debug
  | _ => .trace

/-- What all targets of the program start with. -/
def programTarget : String :=
  "tracephase"

/-- The filter for a number of requests for more detail, in writing. -/
def written (verbosity : Nat) : String :=
  if verbosity = 0 then Level.warn.name
  else
    Level.warn.name ++ "," ++ programTarget ++ "=" ++ (levelOf verbosity).name

def ofVerbosity (verbosity : Nat) : Filter :=
  let general : Directive := { threshold := Level.warn.rank }
  if verbosity = 0 then
    { directives := [general] }
  else
    { directives :=
        [general, { target := some programTarget, threshold := (levelOf verbosity).rank }] }

/--
The filter of a program: the one that the environment sets, if it sets one that
can be read, or the one for the verbosity.
-/
def ofSetting (setting : Option String) (verbosity : Nat) : Filter :=
  (setting.bind parse?).getD (ofVerbosity verbosity)

end Filter

end PhaseAssertions.Log
