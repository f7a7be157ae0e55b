import PhaseAssertions.Command.Outcome
import PhaseAssertions.Proofs.Encoding
import PhaseAssertions.Proofs.TraceLoading
import PhaseAssertions.Proofs.Validation

/-!
# Which exit code the contents of a file lead to

A file that is there can be at fault only for what it holds.  For a trace that
is so: whatever the bytes are, there is a trace or an error about a trace.  For
a plan it is so as long as the bytes spell a text, or are too many to be looked
at.  Bytes that are no text count as a missing file instead, with the exit code
of one, although the same bytes in a trace are an error of the trace.
-/

namespace PhaseAssertions

open Text

/-- Whether there is a value, or else an error with this exit code. -/
inductive ExitsWith {α : Type} (code : Nat) : Except CommandError α → Prop
  | ok (value : α) : ExitsWith code (.ok value)
  | error {cause : CommandError} (exits : cause.exitCode = code) : ExitsWith code (.error cause)

theorem exitsWith_error_iff {α : Type} {code : Nat} {cause : CommandError} :
    ExitsWith code (.error cause : Except CommandError α) ↔ cause.exitCode = code := by
  constructor
  · intro exits
    cases exits with
    | error code => exact code
  · exact .error

variable {files : Files} {limits : Limits} {path : String} {bytes : List UInt8}

/-! ## Plans -/

theorem PlanFile.toPlan_exitsWith (limits : Limits) (path : String) (file : PlanFile) :
    ExitsWith 2 ((file.toPlan limits path).mapError .plan) := by
  by_cases formed : file.WellFormed limits
  · rcases exists_toPlan_eq_ok formed path with ⟨loaded, converted⟩
    rw [converted]
    exact .ok loaded
  · rw [(toPlan_eq_invalid formed path).2]
    exact .error rfl

namespace Plan

/-- What a text comes to, be it blank, undecodable or malformed, is never a missing file. -/
theorem ofText_exitsWith (limits : Limits) (path text : String) :
    ExitsWith 2 ((ofText limits path text).mapError .plan) := by
  cases blank : isBlankText (withoutMark text) with
  | true =>
      have refused : ofText limits path text = .error (.blank path) := by
        simp [ofText, blank]
      rw [refused]
      exact .error rfl
  | false =>
      cases decoded : PlanFile.ofYaml (withoutMark text) with
      | error cause =>
          have refused : ofText limits path text = .error (.undecodable path cause) := by
            simp [ofText, blank, decoded]
          rw [refused]
          exact .error rfl
      | ok file =>
          rw [PlanFile.ofText_eq_toPlan blank decoded]
          exact file.toPlan_exitsWith limits path

/-- The stages of loading a plan file, one of which decides the result. -/
inductive LoadStage (limits : Limits) (bytes : List UInt8) : Prop
  | size (exceeds : limits.maxPlanSize < bytes.length)
  | text (fits : bytes.length ≤ limits.maxPlanSize) (text : String)
      (spelled : Utf8.encode text = bytes)
  | garbled (fits : bytes.length ≤ limits.maxPlanSize)
      (garbled : ∀ text, Utf8.encode text ≠ bytes)

theorem loadStage (limits : Limits) (bytes : List UInt8) : LoadStage limits bytes := by
  by_cases exceeds : limits.maxPlanSize < bytes.length
  · exact .size exceeds
  · have fits : bytes.length ≤ limits.maxPlanSize := by omega
    cases read : Utf8.text? bytes with
    | none => exact .garbled fits (Utf8.text?_eq_none_iff.1 read)
    | some text => exact .text fits text (Utf8.text?_eq_some_iff.1 read)

theorem load_of_exceeds
    (found : files.find path = .ok (.file bytes))
    (exceeds : limits.maxPlanSize < bytes.length) :
    load files limits path = .error (.tooLarge path bytes.length limits.maxPlanSize) := by
  simp [load, found, FileEntry.size, exceeds]

/-- A file that is not too large is judged by its contents. -/
theorem load_of_fits
    (found : files.find path = .ok (.file bytes))
    (fits : bytes.length ≤ limits.maxPlanSize) :
    load files limits path = ofContents limits path bytes := by
  simp [load, found, FileEntry.size, FileEntry.read, Nat.not_lt.2 fits]

theorem load_of_spelled
    (found : files.find path = .ok (.file bytes))
    (fits : bytes.length ≤ limits.maxPlanSize)
    {text : String} (spelled : Utf8.encode text = bytes) :
    load files limits path = ofText limits path text := by
  rw [load_of_fits found fits, ofContents, Utf8.text?_eq_some_iff.2 spelled]

theorem load_of_garbled
    (found : files.find path = .ok (.file bytes))
    (fits : bytes.length ≤ limits.maxPlanSize)
    (garbled : ∀ text, Utf8.encode text ≠ bytes) :
    load files limits path = .error (.missingFile path) := by
  rw [load_of_fits found fits, ofContents, Utf8.text?_eq_none_iff.2 garbled]

/-- A plan file that is there has its exit code unless its bytes are looked at and no text. -/
theorem load_exitsWith_iff (found : files.find path = .ok (.file bytes)) :
    ExitsWith 2 ((load files limits path).mapError .plan) ↔
      limits.maxPlanSize < bytes.length ∨ ∃ text, Utf8.encode text = bytes := by
  cases loadStage limits bytes with
  | size exceeds =>
      rw [load_of_exceeds found exceeds]
      exact iff_of_true (.error rfl) (.inl exceeds)
  | text fits text spelled =>
      rw [load_of_spelled found fits spelled]
      exact iff_of_true (ofText_exitsWith limits path text) (.inr ⟨text, spelled⟩)
  | garbled fits garbled =>
      rw [load_of_garbled found fits garbled, Except.mapError, exitsWith_error_iff]
      simp [CommandError.exitCode, PlanError.exitCode, Nat.not_lt.2 fits, garbled]

theorem load_eq_missingFile_iff
    (found : files.find path = .ok (.file bytes)) {place : String} :
    load files limits path = .error (.missingFile place) ↔
      bytes.length ≤ limits.maxPlanSize ∧ (∀ text, Utf8.encode text ≠ bytes) ∧
        place = path := by
  constructor
  · intro missing
    -- A missing file has another exit code than the other errors of plans.
    have unfit : ¬ ExitsWith 2 ((load files limits path).mapError .plan) := by
      rw [missing, Except.mapError, exitsWith_error_iff]
      simp [CommandError.exitCode, PlanError.exitCode]
    rw [load_exitsWith_iff found, not_or, not_exists, Nat.not_lt] at unfit
    rcases unfit with ⟨fits, garbled⟩
    rw [load_of_garbled found fits garbled] at missing
    cases missing
    exact ⟨fits, garbled, rfl⟩
  · rintro ⟨fits, garbled, rfl⟩
    exact load_of_garbled found fits garbled

end Plan

/-! ## Traces -/

/-- Whatever a file holds, and whatever is expected of it, the file is there. -/
theorem Trace.load_exitsWith
    (found : files.find path = .ok (.file bytes)) (limits : Limits)
    (expected : Option String) :
    ExitsWith 4 ((load files limits path expected).result.mapError .trace) := by
  cases loadStage limits expected bytes with
  | size exceeds =>
      rw [load_of_exceeds found exceeds]
      exact .error rfl
  | checksum fits given asked differs =>
      rw [asked, load_of_differs found fits differs]
      exact .error rfl
  | contents fits accepts =>
      cases loaded : (load files limits path expected).result with
      | ok trace => exact .ok trace
      | error cause =>
          rcases load_error_of_accepts found fits accepts loaded with
            ⟨fault, rfl⟩ | ⟨disorder, rfl⟩ <;> exact .error rfl

/-! ## Both -/

/--
A file that is there gives a plan or an error of plans exactly if it is too
large or spells a text, and a text is judged as such.  Otherwise, and only
then, it is reported as missing.  Any such file gives a trace or an error of
traces.
-/
theorem load_of_found
    (found : files.find path = .ok (.file bytes)) (limits : Limits)
    (expected : Option String) :
    (ExitsWith 2 ((Plan.load files limits path).mapError .plan) ↔
      limits.maxPlanSize < bytes.length ∨ ∃ text, Utf8.encode text = bytes) ∧
    (∀ text, bytes.length ≤ limits.maxPlanSize → Utf8.encode text = bytes →
      Plan.load files limits path = Plan.ofText limits path text) ∧
    (∀ place,
      Plan.load files limits path = .error (.missingFile place) ↔
        bytes.length ≤ limits.maxPlanSize ∧ (∀ text, Utf8.encode text ≠ bytes) ∧
          place = path) ∧
    ExitsWith 4 ((Trace.load files limits path expected).result.mapError .trace) := by
  refine ⟨Plan.load_exitsWith_iff found, ?_, ?_, Trace.load_exitsWith found limits expected⟩
  · intro text fits spelled
    exact Plan.load_of_spelled found fits spelled
  · intro place
    exact Plan.load_eq_missingFile_iff found

/-- A file with a byte that no text has. -/
def strayByte : Files :=
  { directory := "/"
    find := fun path =>
      if path = "plan.yaml" then .ok (.file [0xff]) else .error .notFound }

theorem strayByte_missing_plan_present_trace :
    strayByte.find "plan.yaml" = .ok (.file [0xff]) ∧
      Plan.load strayByte {} "plan.yaml" = .error (.missingFile "plan.yaml") ∧
      ¬ ExitsWith 2 ((Plan.load strayByte {} "plan.yaml").mapError .plan) ∧
      ExitsWith 4 ((Trace.load strayByte {} "plan.yaml" none).result.mapError .trace) := by
  have found : strayByte.find "plan.yaml" = .ok (.file [0xff]) := by decide
  have garbled : ∀ text, Utf8.encode text ≠ [0xff] := Utf8.text?_eq_none_iff.1 (by decide)
  rcases load_of_found found {} none with ⟨fit_iff, _, missing_iff, trace⟩
  refine ⟨found, (missing_iff "plan.yaml").2 ⟨by decide, garbled, rfl⟩, ?_, trace⟩
  rw [fit_iff]
  rintro (exceeds | ⟨text, spelled⟩)
  · exact absurd exceeds (by decide)
  · exact garbled text spelled

/-- The contents of a plan file that is there can make it count as missing. -/
theorem present_plan_missing :
    ¬ ∀ (files : Files) (limits : Limits) (path : String) (bytes : List UInt8)
        (expected : Option String), files.find path = .ok (.file bytes) →
          ExitsWith 2 ((Plan.load files limits path).mapError .plan) ∧
            ExitsWith 4 ((Trace.load files limits path expected).result.mapError .trace) := by
  intro claimed
  have found : strayByte.find "plan.yaml" = .ok (.file [0xff]) := by decide
  have refused := (claimed strayByte {} "plan.yaml" [0xff] none found).1
  have missing : Plan.load strayByte {} "plan.yaml" = .error (.missingFile "plan.yaml") := by
    decide
  rw [missing, Except.mapError, exitsWith_error_iff] at refused
  exact absurd refused (by decide)

end PhaseAssertions
