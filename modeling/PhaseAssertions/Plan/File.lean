import PhaseAssertions.Json.Value
import PhaseAssertions.Schema.TextMap

/-!
# Plan files

A plan file says which phases to expect and how to evaluate them, in the words
of its author: assertions are still names here, and nothing is known of
whether the parts fit together.
-/

namespace PhaseAssertions

/-- Which entries a plan asks to look at. -/
inductive PlanMode where
  | all
  | range
  | first
  | last
deriving DecidableEq, Inhabited

namespace PlanMode

def modes : List PlanMode :=
  [all, range, first, last]

/-- The mode as it is written in plan files. -/
def name : PlanMode → String
  | .all => "all"
  | .range => "range"
  | .first => "first"
  | .last => "last"

end PlanMode

/-- A range as it is written in plan files, in whatever order its bounds are. -/
structure RangeSpec where
  first : Int64
  last : Int64
deriving DecidableEq

/-- A phase of a plan file: its steps, each a map from assertions to windows. -/
abbrev PhaseSpec := List TextMap

/-- A plan as its author wrote it. -/
structure PlanFile where
  name : Option String := none
  mode : PlanMode := .all
  /-- The range for the mode that needs one. -/
  range : Option RangeSpec := none
  /-- Whether entries before the first match of the first phase are passed over. -/
  skipUntilFirst : Bool := false
  phases : List PhaseSpec := []
deriving DecidableEq

def RangeSpec.json (range : RangeSpec) : Json.Value :=
  .object [("start", .int range.first.toInt), ("end", .int range.last.toInt)]

def TextMap.json (map : TextMap) : Json.Value :=
  .object (map.pairs.map fun (key, value) => (key, .str value))

/-- The plan file as a JSON object; what is not set is left out. -/
def PlanFile.json (file : PlanFile) : Json.Value :=
  .object <|
    (file.name.toList.map fun name => ("name", .str name)) ++
      [("mode", .str file.mode.name)] ++
      (file.range.toList.map fun range => ("range", range.json)) ++
      [ ("skip_until_first", .bool file.skipUntilFirst),
        ( "phases",
          .array (file.phases.map fun phase => .array (phase.map TextMap.json)) ) ]

end PhaseAssertions
