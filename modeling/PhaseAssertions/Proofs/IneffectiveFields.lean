import PhaseAssertions.Proofs.Application
import PhaseAssertions.Proofs.Boundary
import PhaseAssertions.Proofs.Contents
import PhaseAssertions.Proofs.Repetition

/-!
# Fields that have no effect

Validation warns about two fields of a plan file that do nothing: a range in a
mode that needs none, and a lead to be skipped in a mode that looks at a single
entry.  It knows only the file, so what it says is about all that comes after:
resolving the file, assembling a subject and testing a trace.

A range that is not needed is not looked at when the file is resolved, so it may
even be out of order.  A flag is kept in the plan and in the checker, but a test
at a boundary picks its entry without it.
-/

namespace PhaseAssertions

open Text

universe u

/-! ## Skipping at a boundary -/

/-- At a boundary, two checkers that differ in what they skip find the same. -/
theorem Checker.Configured.test_eq_of_boundary
    {Entry : Type u} [Snapshot Entry]
    {checker other : Checker Entry} {groups : List (PhaseGroup Entry)}
    {skips otherSkips : Bool} {mode : CheckMode} {range : Option TimestampRange}
    (configured : checker.Configured groups skips mode range)
    (alike : other.Configured groups otherSkips mode range)
    (boundary : mode ≠ .allEntries) (entries : List Entry) :
    other.test entries = checker.test entries := by
  have selection : other.selected entries = checker.selected entries := by
    rw [Checker.selected, Checker.selected, alike.range_eq, configured.range_eq]
  by_cases nothing : checker.selected entries = []
  · rw [Checker.test_of_nothing_selected nothing,
      Checker.test_of_nothing_selected (selection.trans nothing)]
  · obtain ⟨index, entry, picks⟩ := CheckMode.exists_picks boundary nothing
    have asked : other.predicates = checker.predicates := by
      rw [Checker.predicates, Checker.predicates, alike.groups_eq, configured.groups_eq]
    have picked : checker.mode.Picks (checker.selected entries) index entry := by
      rw [configured.mode_eq]
      exact picks
    have otherPicked : other.mode.Picks (other.selected entries) index entry := by
      rw [alike.mode_eq, selection]
      exact picks
    have otherInterrogation := Checker.interrogation_test otherPicked
    rw [asked] at otherInterrogation
    exact ((Checker.interrogation_test picked).unique otherInterrogation).1

/-- A plan that looks at one entry answers the same whether it skips a lead or not. -/
theorem Plan.result_apply_of_boundary
    {plan : Plan} (boundary : plan.evaluation.mode ≠ .allEntries) (flag : Bool)
    (trace : Trace WindowManagerEntry) :
    ({ plan with skipUntilFirst := flag }.apply trace).result = (plan.apply trace).result := by
  have alike := ({ plan with skipUntilFirst := flag } : Plan).configured_engine
  rw [result_apply alike, result_apply plan.configured_engine,
    plan.configured_engine.test_eq_of_boundary alike boundary]

/-! ## Warnings -/

namespace PlanWarning

def ignoredRange : PlanWarning :=
  { message := "range is ignored unless mode is 'range'", location := "range" }

def idleSkip : PlanWarning :=
  { message := "skip_until_first has no effect when checking a single entry"
    location := "skip_until_first" }

end PlanWarning

namespace PlanFile

variable {limits : Limits} {file : PlanFile} {plan : Plan}

/-- Whether the mode of the file looks at a single entry. -/
def AtBoundary (file : PlanFile) : Prop :=
  file.mode = .first ∨ file.mode = .last

/-- Apart from repeated phases, what the warnings of a plan are about are these two fields. -/
theorem mem_map_warnings_iff
    {warning : PlanWarning} (other : warning.message ≠ repeatMessage) :
    warning ∈ (file.warnings.map fun issue =>
        ({ message := issue.message, location := issue.path } : PlanWarning)) ↔
      (file.mode ≠ .range ∧ file.range ≠ none ∧ warning = .ignoredRange) ∨
      (file.AtBoundary ∧ file.skipUntilFirst = true ∧ warning = .idleSkip) := by
  rw [List.mem_map]
  constructor
  · rintro ⟨issue, member, rfl⟩
    rw [warnings, List.mem_append, mem_modeWarnings_iff] at member
    rcases member with (⟨mode, given, rfl⟩ | ⟨boundary, skips, rfl⟩) | repeats
    · exact .inl ⟨mode, given, rfl⟩
    · exact .inr ⟨boundary, skips, rfl⟩
    · obtain ⟨_, _, _, _, _, _, _, rfl⟩ := mem_repeatWarnings_iff.1 repeats
      exact absurd rfl other
  · rintro (⟨mode, given, rfl⟩ | ⟨boundary, skips, rfl⟩)
    · exact
        ⟨_, List.mem_append_left _ (mem_modeWarnings_iff.2 (.inl ⟨mode, given, rfl⟩)), rfl⟩
    · exact
        ⟨_, List.mem_append_left _ (mem_modeWarnings_iff.2 (.inr ⟨boundary, skips, rfl⟩)),
          rfl⟩

/-! ## Files with other fields -/

theorem resolve_of_ranged_otherwise
    (idle : file.mode ≠ .range) (range : Option RangeSpec) :
    { file with range }.resolve = file.resolve := by
  have asked : { file with range }.evaluation = file.evaluation := by
    unfold PlanFile.evaluation
    cases mode : file.mode with
    | range => exact absurd mode idle
    | all | first | last => rfl
  rw [resolve, resolve, asked]

theorem errors_of_ranged_otherwise
    (idle : file.mode ≠ .range) (range : Option RangeSpec) :
    { file with range }.errors limits = file.errors limits := by
  have ranged : { file with range }.rangeErrors = file.rangeErrors := by
    unfold rangeErrors
    cases mode : file.mode with
    | range => exact absurd mode idle
    | all | first | last => rfl
  rw [errors, errors, ranged]
  rfl

theorem resolve_of_flagged_otherwise (resolved : file.resolve = .ok plan) (flag : Bool) :
    { file with skipUntilFirst := flag }.resolve =
      .ok { plan with skipUntilFirst := flag } := by
  obtain ⟨name, asked, _, phases⟩ := resolve_eq_ok_iff.1 resolved
  have asked' : { file with skipUntilFirst := flag }.AsksFor plan.evaluation := by
    rw [← evaluation_eq_ok_iff] at asked ⊢
    exact asked
  exact resolve_eq_ok_iff.2 ⟨name, asked', rfl, phases⟩

end PlanFile

/-! ## Loading -/

/-- The ways to load a plan from a plan file: as a text that spells it, or as a file with one. -/
inductive LoadedPlan.ReadFrom
    (limits : Limits) (file : PlanFile) (loaded : LoadedPlan) : Prop where
  | ofText (path text : String)
      (decoded : PlanFile.ofYaml (Plan.withoutMark text) = .ok file)
      (read : Plan.ofText limits path text = .ok loaded) : ReadFrom limits file loaded
  | load (files : Files) (path text : String)
      (found : files.find path = .ok (.file (Utf8.encode text)))
      (decoded : PlanFile.ofYaml (Plan.withoutMark text) = .ok file)
      (read : Plan.load files limits path = .ok loaded) : ReadFrom limits file loaded

/--
Whether a plan file resolves to a plan and is loaded as such, with warnings or
without, wherever a text that spells it comes from.
-/
structure PlanFile.LoadsAs (limits : Limits) (file : PlanFile) (plan : Plan) : Prop where
  resolves : file.resolve = .ok plan
  ofText :
    ∀ path text,
      isBlankText (Plan.withoutMark text) = false →
        PlanFile.ofYaml (Plan.withoutMark text) = .ok file →
          ∃ warnings, Plan.ofText limits path text = .ok { plan, warnings }
  load :
    ∀ (files : Files) path text,
      files.find path = .ok (.file (Utf8.encode text)) →
        (Utf8.encode text).length ≤ limits.maxPlanSize →
          isBlankText (Plan.withoutMark text) = false →
            PlanFile.ofYaml (Plan.withoutMark text) = .ok file →
              ∃ warnings, Plan.load files limits path = .ok { plan, warnings }

namespace PlanFile

variable {limits : Limits} {file : PlanFile} {plan : Plan}

theorem LoadsAs.of_valid
    (valid : file.errors limits = []) (resolved : file.resolve = .ok plan) :
    file.LoadsAs limits plan := by
  have reads :
      ∀ path text,
        isBlankText (Plan.withoutMark text) = false →
          PlanFile.ofYaml (Plan.withoutMark text) = .ok file →
            ∃ warnings, Plan.ofText limits path text = .ok { plan, warnings } := by
    intro path text visible decoded
    obtain ⟨loaded, converted⟩ := exists_toPlan_eq_ok ((errors_eq_nil_iff limits file).1 valid) path
    obtain ⟨_, same, _⟩ := toPlan_eq_ok converted
    rw [resolved] at same
    obtain rfl := Except.ok.inj same
    exact ⟨loaded.warnings, (ofText_eq_toPlan visible decoded path).trans converted⟩
  refine ⟨resolved, reads, ?_⟩
  intro files path text found fits visible decoded
  rw [Plan.load_of_spelled found fits rfl]
  exact reads path text visible decoded

end PlanFile

theorem Plan.toPlan_of_ofText
    {limits : Limits} {file : PlanFile} {path text : String} {loaded : LoadedPlan}
    (decoded : PlanFile.ofYaml (withoutMark text) = .ok file)
    (read : ofText limits path text = .ok loaded) :
    file.toPlan limits path = .ok loaded := by
  cases blank : isBlankText (withoutMark text) with
  | true => simp [ofText, blank] at read
  | false => rwa [PlanFile.ofText_eq_toPlan blank decoded] at read

namespace LoadedPlan.ReadFrom

variable {limits : Limits} {file : PlanFile} {loaded : LoadedPlan}

theorem exists_toPlan (read : loaded.ReadFrom limits file) :
    ∃ path, file.toPlan limits path = .ok loaded := by
  cases read with
  | ofText path text decoded read => exact ⟨path, Plan.toPlan_of_ofText decoded read⟩
  | load files path text found decoded read =>
      by_cases exceeds : limits.maxPlanSize < (Utf8.encode text).length
      · rw [Plan.load_of_exceeds found exceeds] at read
        cases read
      · rw [Plan.load_of_spelled found (Nat.not_lt.1 exceeds) rfl] at read
        exact ⟨path, Plan.toPlan_of_ofText decoded read⟩

theorem resolves (read : loaded.ReadFrom limits file) : file.resolve = .ok loaded.plan := by
  obtain ⟨path, converted⟩ := read.exists_toPlan
  exact (PlanFile.toPlan_eq_ok converted).2.1

theorem valid (read : loaded.ReadFrom limits file) : file.errors limits = [] := by
  obtain ⟨path, converted⟩ := read.exists_toPlan
  exact (PlanFile.errors_eq_nil_iff limits file).2 (PlanFile.toPlan_eq_ok converted).1

/-- A plan file is read as the plan that it resolves to. -/
theorem plan_eq
    (read : loaded.ReadFrom limits file) {plan : Plan} (resolved : file.resolve = .ok plan) :
    loaded.plan = plan := by
  have same := read.resolves
  rw [resolved] at same
  exact (Except.ok.inj same).symm

theorem ignoredRange_mem_iff (read : loaded.ReadFrom limits file) :
    PlanWarning.ignoredRange ∈ loaded.warnings ↔ file.mode ≠ .range ∧ file.range ≠ none := by
  obtain ⟨path, converted⟩ := read.exists_toPlan
  have distinct : PlanWarning.ignoredRange ≠ .idleSkip := by decide
  rw [(PlanFile.toPlan_eq_ok converted).2.2, PlanFile.mem_map_warnings_iff (by decide)]
  simp [distinct]

theorem idleSkip_mem_iff (read : loaded.ReadFrom limits file) :
    PlanWarning.idleSkip ∈ loaded.warnings ↔
      file.AtBoundary ∧ file.skipUntilFirst = true := by
  obtain ⟨path, converted⟩ := read.exists_toPlan
  have distinct : PlanWarning.idleSkip ≠ .ignoredRange := by decide
  rw [(PlanFile.toPlan_eq_ok converted).2.2, PlanFile.mem_map_warnings_iff (by decide)]
  simp [distinct]

theorem mode_ne_allEntries
    (read : loaded.ReadFrom limits file) (boundary : file.AtBoundary) :
    loaded.plan.evaluation.mode ≠ .allEntries := by
  have asked := (PlanFile.resolve_eq_ok_iff.1 read.resolves).evaluation
  generalize loaded.plan.evaluation = evaluation at asked ⊢
  cases asked with
  | firstEntry | lastEntry => simp [PlanEvaluation.mode]
  | allEntries mode => simp [PlanFile.AtBoundary, mode] at boundary
  | range bounds mode => simp [PlanFile.AtBoundary, mode] at boundary

/--
The two warnings about fields without effect are true.  A plan that is loaded
with the warning that its range is ignored is the plan of the same file with any
other range, be it out of order, or with none.  A plan that is loaded with the
warning that skipping a lead has no effect answers the same on every trace, its
failures included, as the plan of the same file with the flag set or not set.
-/
theorem ineffective_fields (read : loaded.ReadFrom limits file) :
    (PlanWarning.ignoredRange ∈ loaded.warnings ↔ file.mode ≠ .range ∧ file.range ≠ none) ∧
    (PlanWarning.ignoredRange ∈ loaded.warnings →
      ∀ range : Option RangeSpec,
        { file with range }.LoadsAs limits loaded.plan ∧
        ∀ changed : LoadedPlan, changed.ReadFrom limits { file with range } →
          changed.plan = loaded.plan ∧
            ∀ trace, changed.plan.apply trace = loaded.plan.apply trace) ∧
    (PlanWarning.idleSkip ∈ loaded.warnings ↔
      (file.mode = .first ∨ file.mode = .last) ∧ file.skipUntilFirst = true) ∧
    (PlanWarning.idleSkip ∈ loaded.warnings →
      ∀ flag : Bool,
        { file with skipUntilFirst := flag }.LoadsAs limits
          { loaded.plan with skipUntilFirst := flag } ∧
        (∀ trace,
          ({ loaded.plan with skipUntilFirst := flag }.apply trace).result =
            (loaded.plan.apply trace).result) ∧
        ∀ changed : LoadedPlan,
          changed.ReadFrom limits { file with skipUntilFirst := flag } →
            changed.plan = { loaded.plan with skipUntilFirst := flag } ∧
              ∀ trace, (changed.plan.apply trace).result = (loaded.plan.apply trace).result) := by
  refine ⟨read.ignoredRange_mem_iff, ?_, read.idleSkip_mem_iff, ?_⟩
  · intro warned range
    have idle := (read.ignoredRange_mem_iff.1 warned).1
    have resolved := (PlanFile.resolve_of_ranged_otherwise idle range).trans read.resolves
    have valid := (PlanFile.errors_of_ranged_otherwise idle range).trans read.valid
    refine ⟨.of_valid valid resolved, ?_⟩
    intro changed reread
    have same := reread.plan_eq resolved
    exact ⟨same, fun trace => by rw [same]⟩
  · intro warned flag
    have boundary := read.mode_ne_allEntries (read.idleSkip_mem_iff.1 warned).1
    have resolved := PlanFile.resolve_of_flagged_otherwise read.resolves flag
    have answers := Plan.result_apply_of_boundary boundary flag
    -- No error is about the flag.
    refine ⟨.of_valid read.valid resolved, answers, ?_⟩
    intro changed reread
    have flagged := reread.plan_eq resolved
    exact ⟨flagged, fun trace => by rw [flagged, answers]⟩

/-- A plan that looks at the last entry only, with a range and a lead to be skipped. -/
def overdoneText : String :=
  "mode: last\nskip_until_first: true\nrange:\n  start: 0\n  end: 9\n" ++
    "phases: [[hides_app_window: W]]"

/-- The plan file that `overdoneText` spells. -/
def overdoneFile : PlanFile :=
  { mode := .last
    range := some ⟨0, 9⟩
    skipUntilFirst := true
    phases := [[{ pairs := [("hides_app_window", "W")] }]] }

/-- The plan that is loaded from `overdoneText`, with both warnings. -/
def overdonePlan : LoadedPlan :=
  { plan :=
      { name := none
        evaluation := .lastEntry
        skipUntilFirst := true
        phases := [[⟨⟨.layer .app, false⟩, "W"⟩]] }
    warnings := [.ignoredRange, .idleSkip] }

theorem overdonePlan_unchanged :
    overdonePlan.ReadFrom {} overdoneFile ∧
      PlanWarning.ignoredRange ∈ overdonePlan.warnings ∧
      PlanWarning.idleSkip ∈ overdonePlan.warnings ∧
      PlanFile.LoadsAs {} { overdoneFile with range := some ⟨9, 0⟩ } overdonePlan.plan ∧
      PlanFile.LoadsAs {} { overdoneFile with range := none } overdonePlan.plan ∧
      PlanFile.LoadsAs {} { overdoneFile with skipUntilFirst := false }
        { overdonePlan.plan with skipUntilFirst := false } ∧
      ({ overdonePlan.plan with skipUntilFirst := false }.apply
          Checker.flickeringTrace).result =
        (overdonePlan.plan.apply Checker.flickeringTrace).result ∧
      (overdonePlan.plan.apply Checker.flickeringTrace).result =
        .error
          (.failed
            (.ofTrace Checker.flickeringTrace
              [.rejection "hides_app_window(W)" 5 5 "W is visible"])) := by
  have visible : isBlankText (Plan.withoutMark overdoneText) = false := by decide +kernel
  have decoded : PlanFile.ofYaml (Plan.withoutMark overdoneText) = .ok overdoneFile := by
    decide +kernel
  have converted : overdoneFile.toPlan {} "plan.yaml" = .ok overdonePlan := by decide
  have read : overdonePlan.ReadFrom {} overdoneFile :=
    .ofText "plan.yaml" overdoneText decoded
      ((PlanFile.ofText_eq_toPlan visible decoded "plan.yaml").trans converted)
  have ranged : PlanWarning.ignoredRange ∈ overdonePlan.warnings := List.mem_cons_self
  have skipping : PlanWarning.idleSkip ∈ overdonePlan.warnings := by decide
  rcases read.ineffective_fields with ⟨_, unranged, _, unskipped⟩
  exact
    ⟨read, ranged, skipping, (unranged ranged _).1, (unranged ranged _).1,
      (unskipped skipping false).1, (unskipped skipping false).2.1 _, by decide⟩

end LoadedPlan.ReadFrom

end PhaseAssertions
