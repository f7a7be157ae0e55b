import PhaseAssertions.Plan.File
import PhaseAssertions.Schema.Record

/-!
# The schema of plan files

A plan file is a record all of whose fields have defaults; neither it nor its
range may have other fields.
-/

namespace PhaseAssertions.PlanFile

open PhaseAssertions.Schema

variable {Reading : Type → Type} [Monad Reading] {Value : Type}

/-- The bounds of a range read so far. -/
structure RangeDraft where
  first : Option Int64 := none
  last : Option Int64 := none

def RangeDraft.finish (draft : RangeDraft) : Except Fault RangeSpec := do
  let first ← required "start" draft.first
  let last ← required "end" draft.last
  return { first, last }

def rangeRecord (format : Format Reading Value) :
    Record Reading Value RangeDraft RangeSpec where
  name := "struct RangeSpec"
  fields :=
    [ { name := "start"
        required := true
        isFilled := fun draft => draft.first.isSome
        read := fun draft value => do
          return { draft with first := some (← format.integer value) } },
      { name := "end"
        required := true
        isFilled := fun draft => draft.last.isSome
        read := fun draft value => do
          return { draft with last := some (← format.integer value) } } ]
  closed := true
  start := {}
  finish := RangeDraft.finish

def modeNames : List (String × PlanMode) :=
  PlanMode.modes.map fun mode => (mode.name, mode)

/-- The fields of a plan file read so far. -/
structure Draft where
  /-- The name, which may be given as absent. -/
  name : Option (Option String) := none
  mode : Option PlanMode := none
  /-- The range, which may be given as absent. -/
  range : Option (Option RangeSpec) := none
  skipUntilFirst : Option Bool := none
  phases : Option (List PhaseSpec) := none

def Draft.finish (draft : Draft) : PlanFile :=
  { name := draft.name.join
    mode := draft.mode.getD .all
    range := draft.range.join
    skipUntilFirst := draft.skipUntilFirst.getD false
    phases := draft.phases.getD [] }

def fileRecord (format : Format Reading Value) :
    Record Reading Value Draft PlanFile where
  name := "struct PlanFile"
  fields :=
    [ { name := "name"
        required := false
        isFilled := fun draft => draft.name.isSome
        read := fun draft value => do
          return { draft with name := some (← format.optional format.text value) } },
      { name := "mode"
        required := false
        isFilled := fun draft => draft.mode.isSome
        read := fun draft value => do
          return { draft with mode := some (← format.choice modeNames value) } },
      { name := "range"
        required := false
        isFilled := fun draft => draft.range.isSome
        read := fun draft value => do
          let range ← format.optional (format.record (rangeRecord format)) value
          return { draft with range := some range } },
      { name := "skip_until_first"
        required := false
        isFilled := fun draft => draft.skipUntilFirst.isSome
        read := fun draft value => do
          return { draft with skipUntilFirst := some (← format.truth value) } },
      { name := "phases"
        required := false
        isFilled := fun draft => draft.phases.isSome
        read := fun draft value => do
          let phases ← format.sequence (format.sequence format.textMap) value
          return { draft with phases := some phases } } ]
  closed := true
  start := {}
  finish := fun draft => .ok draft.finish

/-- The plan file that a document spells. -/
def read (format : Format Reading Value) (value : Value) : Reading PlanFile :=
  format.record (fileRecord format) value

end PhaseAssertions.PlanFile
