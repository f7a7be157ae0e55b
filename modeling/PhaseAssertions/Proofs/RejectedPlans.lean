import PhaseAssertions.Proofs.Contents
import PhaseAssertions.Proofs.PhaseErrors
import PhaseAssertions.Proofs.ValidateOutcome

/-!
# What is told about a rejected plan

Validation finds errors and warnings.  A plan file without errors is loaded, and
its warnings come with the plan.  A plan file with errors is rejected, and what
is told about it are the errors in their order; its warnings are dropped,
whether the plan is loaded from a text or is looked at by a validation of files.
So all that validation found is told exactly if there are no warnings.
-/

namespace PhaseAssertions

open Text

namespace PlanFile

variable {limits : Limits} {file : PlanFile} {issue : PlanIssue}

/-! ## Severities -/

theorem severity_of_mem_errors (member : issue ∈ file.errors limits) :
    issue.severity = .error := by
  have ranged (inside : issue ∈ file.rangeErrors) : issue.severity = .error := by
    obtain ⟨message, rfl⟩ := (rangeReport_iff.2 rfl).eq_errorAt issue inside
    rfl
  rw [errors, List.mem_append] at member
  rcases member with inside | member
  · exact ranged inside
  · split at member
    · rw [List.mem_singleton.1 member]
      rfl
    · rw [List.mem_append, phasesErrors_eq_flatten, List.mem_flatten] at member
      rcases member with counted | ⟨report, among, inside⟩
      · obtain ⟨message, rfl⟩ := (countReport_iff.2 rfl).eq_errorAt issue counted
        rfl
      · obtain ⟨⟨phase, position⟩, _, rfl⟩ := List.mem_map.1 among
        exact ((phaseReport_iff.2 rfl).error_about issue inside).2

theorem severity_of_mem_warnings (member : issue ∈ file.warnings) :
    issue.severity = .warning := by
  rw [warnings, List.mem_append, mem_modeWarnings_iff, mem_repeatWarnings_iff] at member
  rcases member with (⟨_, _, rfl⟩ | ⟨_, _, rfl⟩) | ⟨_, _, _, _, _, _, _, rfl⟩
  · rfl
  · rfl
  · rfl

theorem warning_notMem_errors (member : issue ∈ file.warnings) : issue ∉ file.errors limits := by
  intro reported
  have severe := severity_of_mem_errors reported
  rw [severity_of_mem_warnings member] at severe
  cases severe

end PlanFile

/-! ## Rejections -/

theorem Validate.validateFile_of_invalid
    {files : Files} {limits : Limits} {path label : String} {issues : List PlanIssue}
    (refused : Plan.load files limits path = .error (.invalid label issues)) (strict : Bool) :
    (validateFile files limits strict path).report = { file := path, valid := false, issues } ∧
      (validateFile files limits strict path).error = some (.invalid label issues) := by
  rw [validateFile, refused]
  exact ⟨rfl, rfl⟩

namespace Plan

variable {limits : Limits} {path text : String} {file : PlanFile}

theorem ofText_eq_invalid
    (visible : isBlankText (withoutMark text) = false)
    (decoded : PlanFile.ofYaml (withoutMark text) = .ok file)
    (rejected : file.errors limits ≠ []) (path : String) :
    ofText limits path text = .error (.invalid path (file.errors limits)) := by
  rw [PlanFile.ofText_eq_toPlan visible decoded]
  exact (PlanFile.toPlan_eq_invalid (mt (PlanFile.errors_eq_nil_iff limits file).2 rejected) path).2

/--
A text that decodes to a plan file with errors is rejected with these errors in
their order, and no warning is among them; so all issues are told exactly if
there are no warnings.  A validation of a file that holds the text, strict or
not, reports the same issues and no warnings either.
-/
theorem rejected_with_errors
    (visible : isBlankText (withoutMark text) = false)
    (decoded : PlanFile.ofYaml (withoutMark text) = .ok file)
    (rejected : (file.validate limits).errors ≠ []) (path : String) :
    ofText limits path text = .error (.invalid path (file.validate limits).errors) ∧
    (∀ issues, ofText limits path text = .error (.invalid path issues) →
      (∀ warning ∈ (file.validate limits).warnings, warning ∉ issues) ∧
        (issues = (file.validate limits).errors ++ (file.validate limits).warnings ↔
          (file.validate limits).warnings = [])) ∧
    ∀ (files : Files) (strict : Bool),
      files.find path = .ok (.file (Utf8.encode text)) →
        (Utf8.encode text).length ≤ limits.maxPlanSize →
          (Validate.validateFile files limits strict path).report =
              { file := path, valid := false, issues := (file.validate limits).errors
                warnings := [] } ∧
            (Validate.validateFile files limits strict path).error =
              some (.invalid path (file.validate limits).errors) := by
  have refused := ofText_eq_invalid visible decoded rejected path
  refine ⟨refused, ?_, ?_⟩
  · intro issues told
    obtain rfl : file.errors limits = issues := by
      rw [refused] at told
      injection told with cause
      injection cause
    refine ⟨fun warning => PlanFile.warning_notMem_errors, ?_⟩
    simp [PlanFile.validate]
  · intro files strict found fits
    have loaded := (load_of_spelled found fits rfl).trans refused
    exact Validate.validateFile_of_invalid loaded strict

/-- A plan without phases that asks for entries to be skipped in a mode that looks at one. -/
def hollowText : String :=
  "mode: last\nskip_until_first: true\nphases: []"

/-- The plan file that `hollowText` spells. -/
def hollowFile : PlanFile :=
  { mode := .last, skipUntilFirst := true }

def hollowFiles : Files :=
  { directory := "/"
    find := fun path =>
      if path = "plan.yaml" then .ok (.file (Utf8.encode hollowText)) else .error .notFound }

theorem hollowText_decodes :
    isBlankText (withoutMark hollowText) = false ∧
      PlanFile.ofYaml (withoutMark hollowText) = .ok hollowFile ∧
      (hollowFile.validate {}).errors ≠ [] := by
  refine ⟨?_, ?_, by decide⟩ <;> decide +kernel

theorem hollowText_rejected :
    isBlankText (withoutMark hollowText) = false ∧
      PlanFile.ofYaml (withoutMark hollowText) = .ok hollowFile ∧
      (hollowFile.validate {}).errors ≠ [] ∧
      ofText {} "plan.yaml" hollowText =
        .error (.invalid "plan.yaml" (hollowFile.validate {}).errors) ∧
      (hollowFile.validate {}).warnings ≠ [] ∧
      (∀ warning ∈ (hollowFile.validate {}).warnings,
        warning ∉ (hollowFile.validate {}).errors) ∧
      hollowFiles.find "plan.yaml" = .ok (.file (Utf8.encode hollowText)) ∧
      (Utf8.encode hollowText).length ≤ ({} : Limits).maxPlanSize ∧
      (Validate.validateFile hollowFiles {} true "plan.yaml").report =
        { file := "plan.yaml", valid := false, issues := (hollowFile.validate {}).errors
          warnings := [] } := by
  rcases hollowText_decodes with ⟨visible, decoded, rejected⟩
  have found : hollowFiles.find "plan.yaml" = .ok (.file (Utf8.encode hollowText)) := by
    decide +kernel
  have fits : (Utf8.encode hollowText).length ≤ ({} : Limits).maxPlanSize := by decide +kernel
  rcases rejected_with_errors visible decoded rejected "plan.yaml" with ⟨refused, told, reports⟩
  exact
    ⟨visible, decoded, rejected, refused, by decide, (told _ refused).1, found, fits,
      (reports hollowFiles true found fits).1⟩

/-- That `hollowFile` skips nothing is found by validation, but not told. -/
theorem hollowText_warning_dropped :
    ¬ ∀ (limits : Limits) (path text : String) (file : PlanFile),
        isBlankText (withoutMark text) = false →
          PlanFile.ofYaml (withoutMark text) = .ok file →
            (file.validate limits).errors ≠ [] →
              ofText limits path text =
                .error
                  (.invalid path
                    ((file.validate limits).errors ++ (file.validate limits).warnings)) := by
  intro claimed
  rcases hollowText_decodes with ⟨visible, decoded, rejected⟩
  have told := claimed {} "plan.yaml" hollowText hollowFile visible decoded rejected
  rw [ofText_eq_invalid visible decoded rejected] at told
  injection told with cause
  injection cause with _ issues
  exact absurd issues (by decide)

end Plan

end PhaseAssertions
