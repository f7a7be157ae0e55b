import PhaseAssertions.Checker.Basic
import PhaseAssertions.Plan.Validation
import PhaseAssertions.Schema.Decode

/-!
# Plans

A plan is what a plan file stands for: its assertions are known, and the range
is there where it is used.  A plan file is resolved without regard to whether
it was validated; a file without errors always resolves.
-/

namespace PhaseAssertions

/-- An assertion about the windows that have a part in their titles. -/
structure PlanAssertion where
  assertion : WindowAssertion
  /-- The part of the titles. -/
  window : String
deriving DecidableEq

def PlanAssertion.predicate (step : PlanAssertion) : Predicate WindowManagerEntry :=
  step.assertion.predicate step.window

/-- Which entries a plan looks at. -/
inductive PlanEvaluation where
  | allEntries
  | range (bounds : TimestampRange)
  | firstEntry
  | lastEntry
deriving DecidableEq

/-- A plan that can be applied to traces. -/
structure Plan where
  name : Option String
  evaluation : PlanEvaluation
  skipUntilFirst : Bool
  phases : List (List PlanAssertion)
deriving DecidableEq

/-- Why there is no plan. -/
inductive PlanError where
  /-- The file at this path holds nothing but white space. -/
  | blank (path : String)
  | undecodable (path : String) (cause : DecodeError)
  /-- The plan has errors; the issues may be listed. -/
  | invalid (path : String) (issues : List PlanIssue)
  /-- There is no file that could be read. -/
  | missingFile (path : String)
  | tooLarge (path : String) (size limit : Nat)
  | unknownAssertion (unknown : UnknownAssertion)
deriving DecidableEq

def PlanError.message : PlanError → String
  | .blank path => "parse error in " ++ path ++ ": plan file is empty"
  | .undecodable path cause => "parse error in " ++ path ++ ": " ++ cause.message
  | .invalid path _ => "validation failed for " ++ path
  | .missingFile path => "file not found: " ++ path
  | .tooLarge path size limit =>
    "plan file " ++ path ++ " is " ++ toString size ++ " bytes (limit: " ++
      toString limit ++ ")"
  | .unknownAssertion unknown => unknown.message

namespace PlanFile

/-- The evaluation that a plan file asks for. -/
def evaluation (file : PlanFile) : Except PlanError PlanEvaluation :=
  match file.mode with
  | .all => .ok .allEntries
  | .first => .ok .firstEntry
  | .last => .ok .lastEntry
  | .range =>
    match file.range.bind fun range => TimestampRange.ofBounds? range.first range.last with
    | some range => .ok (.range range)
    | none => .error (.invalid "range" [])

/-- The assertion of a pair in a step. -/
def resolvePair (pair : String × String) : Except PlanError PlanAssertion :=
  match WindowAssertion.ofName pair.1 with
  | .ok assertion => .ok { assertion, window := pair.2 }
  | .error unknown => .error (.unknownAssertion unknown)

/-- The assertions of a phase: those of all pairs of all its steps. -/
def resolvePhase (phase : PhaseSpec) : Except PlanError (List PlanAssertion) :=
  (phase.flatMap TextMap.pairs).mapM resolvePair

/-- The plan that a plan file stands for. -/
def resolve (file : PlanFile) : Except PlanError Plan := do
  let evaluation ← file.evaluation
  let phases ← file.phases.mapM resolvePhase
  return { name := file.name, evaluation, skipUntilFirst := file.skipUntilFirst, phases }

end PlanFile

def PlanEvaluation.json : PlanEvaluation → Json.Value
  | .allEntries => .str "all_entries"
  | .range bounds =>
    .object
      [ ( "range",
          .object
            [("start", .int bounds.first.toInt), ("end", .int bounds.last.toInt)] ) ]
  | .firstEntry => .str "first_entry"
  | .lastEntry => .str "last_entry"

def PlanAssertion.json (step : PlanAssertion) : Json.Value :=
  .object [("assertion", .str step.assertion.name), ("window", .str step.window)]

def Plan.json (plan : Plan) : Json.Value :=
  .object
    [ ("name", .ofOption plan.name), ("evaluation", plan.evaluation.json),
      ("skip_until_first", .bool plan.skipUntilFirst),
      ( "phases",
        .array (plan.phases.map fun phase => .array (phase.map PlanAssertion.json)) ) ]

end PhaseAssertions
