import PhaseAssertions.Files
import PhaseAssertions.Json.Format
import PhaseAssertions.Plan.Basic
import PhaseAssertions.Plan.Schema
import PhaseAssertions.Plan.Validator
import PhaseAssertions.Yaml.Format

/-!
# Loading plans

A plan is loaded from a file in stages: the size is compared with the limit,
the contents have to be text, the text is decoded, and the plan file is
validated before it is resolved.  Warnings go with the plan and are dropped if
there is none.
-/

namespace PhaseAssertions

/-- A warning that goes with a plan. -/
structure PlanWarning where
  message : String
  /-- The part of the plan that it is about. -/
  location : String
deriving DecidableEq

def PlanWarning.text (warning : PlanWarning) : String :=
  warning.message ++ " at " ++ warning.location

def PlanWarning.json (warning : PlanWarning) : Json.Value :=
  .object [("message", .str warning.message), ("location", .str warning.location)]

/-- A plan with the warnings about it. -/
structure LoadedPlan where
  plan : Plan
  warnings : List PlanWarning
deriving DecidableEq

namespace PlanFile

/-- The plan file that a JSON text spells. -/
def ofJson (text : String) : Except DecodeError PlanFile :=
  Json.decode (read Json.format) (Text.Utf8.encode text)

/-- The plan file that a YAML text spells. -/
def ofYaml (text : String) : Except DecodeError PlanFile :=
  Yaml.decode (read Yaml.format) (Text.Utf8.encode text)

/-- The plan of a file without errors, with the warnings about it. -/
def toPlan (limits : Limits) (path : String) (file : PlanFile) :
    Except PlanError LoadedPlan :=
  let validation := (Validator.fresh.validate limits file).1
  if validation.hasErrors then
    .error (.invalid path validation.errors)
  else
    match file.resolve with
    | .error error => .error error
    | .ok plan =>
      .ok
        { plan
          warnings := validation.warnings.map fun issue =>
            { message := issue.message, location := issue.path } }

end PlanFile

namespace Plan

/-- The text behind a mark of the byte order at its front, if there is one. -/
def withoutMark (text : String) : String :=
  match text.toList with
  | '\ufeff' :: rest => String.ofList rest
  | _ => text

/-- The plan that a text spells; `path` names it in errors. -/
def ofText (limits : Limits) (path text : String) : Except PlanError LoadedPlan :=
  let text := withoutMark text
  if Text.isBlankText text then
    .error (.blank path)
  else
    match PlanFile.ofYaml text with
    | .error cause => .error (.undecodable path cause)
    | .ok file => file.toPlan limits path

/-- The plan that the contents of a file spell; contents that are no text are none. -/
def ofContents (limits : Limits) (path : String) (contents : List UInt8) :
    Except PlanError LoadedPlan :=
  match Text.Utf8.text? contents with
  | none => .error (.missingFile path)
  | some text => ofText limits path text

/-- Loads the plan at a path. -/
def load (files : Files) (limits : Limits) (path : String) : Except PlanError LoadedPlan :=
  match files.find path with
  | .error _ => .error (.missingFile path)
  | .ok entry =>
    if limits.maxPlanSize < entry.size then
      .error (.tooLarge path entry.size limits.maxPlanSize)
    else
      match entry.read with
      | .error _ => .error (.missingFile path)
      | .ok contents => ofContents limits path contents

/-- Of all files, only the one at the path counts. -/
theorem load_congr
    {files others : Files} {path : String} (same : others.find path = files.find path)
    (limits : Limits) :
    load others limits path = load files limits path := by
  rw [load, load, same]

end Plan

end PhaseAssertions
