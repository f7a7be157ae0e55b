import PhaseAssertions.Subject
import PhaseAssertions.Text.Quoted

/-!
# Inspecting declared phases

A one-line view of checkers and subjects for people who assemble them: the
fields that say how a verification will go, by name, with texts in quotes.
Predicates are shown by name only, since a check cannot be shown.
-/

namespace PhaseAssertions

universe u

namespace Inspect

/-- Fields between braces after the name of what has them. -/
def fields (name : String) (items : List String) : String :=
  name ++ " \x7b " ++ ", ".intercalate items ++ " \x7d"

def field (name value : String) : String :=
  name ++ ": " ++ value

def list (items : List String) : String :=
  "[" ++ ", ".intercalate items ++ "]"

def optional : Option String → String
  | some item => "Some(" ++ item ++ ")"
  | none => "None"

/-- The mark of fields that are left out. -/
def others : String :=
  ".."

end Inspect

open Inspect

def Predicate.inspect {Entry : Type u} (predicate : Predicate Entry) : String :=
  fields "NamedPredicate" [field "name" (Text.quoted predicate.name), others]

def PhaseGroup.inspect {Entry : Type u} (group : PhaseGroup Entry) : String :=
  fields "PhaseGroup" [field "name" (Text.quoted group.name)]

def CheckMode.inspect : CheckMode → String
  | .allEntries => "AllEntries"
  | .firstEntry => "FirstEntry"
  | .lastEntry => "LastEntry"

def TimestampRange.inspect (range : TimestampRange) : String :=
  fields "TimestampRange"
    [ field "start" (toString range.first.toInt),
      field "end" (toString range.last.toInt) ]

def Chain.inspect : Chain → String
  | .newPhase => "NewPhase"
  | .extendPhase => "ExtendPhase"

def Misuse.inspect : Misuse → String
  | .extendWithoutPhase predicate =>
    fields "ExtendWithoutPhase" [field "predicate" (Text.quoted predicate)]
  | .invertedRange first last =>
    fields "InvertedRange"
      [ field "start" (toString first.toInt), field "end" (toString last.toInt) ]

def Checker.inspect {Entry : Type u} (checker : Checker Entry) : String :=
  fields "PhaseChecker"
    [ field "groups" (list (checker.groups.map PhaseGroup.inspect)),
      field "mode" checker.mode.inspect,
      field "range" (optional (checker.range.map TimestampRange.inspect)),
      field "skip_until_first" (toString checker.skipUntilFirst),
      others ]

def Subject.inspect {Entry : Type u} [Snapshot Entry] (subject : Subject Entry) :
    String :=
  fields "TraceSubject"
    [ field "checker" subject.checker.inspect,
      field "chain" subject.chain.inspect,
      field "misuse" (optional (subject.misuse.map Misuse.inspect)),
      others ]

end PhaseAssertions
