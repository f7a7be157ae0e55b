import PhaseAssertions.Command.Validate
import PhaseAssertions.Proofs.Repetition
import PhaseAssertions.Proofs.WrittenJson

/-!
# How a validation ends

A validation looks at every file on its own and reports on each of them in the
order in which they are given.  The first file that is not valid decides how
the validation ends, so files behind it have no influence on that.  A strict
validation takes the warnings about a plan for errors and differs in nothing
else.
-/

namespace PhaseAssertions.Validate

variable {files others : Files} {limits : Limits} {strict : Bool} {path : String}
variable {loaded : LoadedPlan} {cause : PlanError}

/-! ## A single file -/

/-- The issues that a plan has because of its warnings. -/
def promoted (strict : Bool) (warnings : List PlanWarning) : List PlanIssue :=
  if strict then warnings.map strictIssue else []

theorem validateFile_of_ok
    (planned : Plan.load files limits path = .ok loaded) (strict : Bool) :
    (validateFile files limits strict path).report =
        { file := path, valid := (promoted strict loaded.warnings).isEmpty
          issues := promoted strict loaded.warnings, warnings := loaded.warnings } ∧
      (validateFile files limits strict path).error =
        if (promoted strict loaded.warnings).isEmpty then none
        else some (.invalid path (promoted strict loaded.warnings)) := by
  rw [validateFile, planned]
  exact ⟨rfl, rfl⟩

theorem validateFile_of_error
    (refused : Plan.load files limits path = .error cause) (strict : Bool) :
    (validateFile files limits strict path).report.file = path ∧
      (validateFile files limits strict path).report.valid = false ∧
      (validateFile files limits strict path).error = some cause := by
  rw [validateFile, refused]
  cases cause <;> exact ⟨rfl, rfl, rfl⟩

theorem file_validateFile (files : Files) (limits : Limits) (strict : Bool) (path : String) :
    (validateFile files limits strict path).report.file = path := by
  cases planned : Plan.load files limits path with
  | error cause => exact (validateFile_of_error planned strict).1
  | ok loaded => rw [(validateFile_of_ok planned strict).1]

/-- A file is reported as valid exactly if it contributes no error. -/
theorem valid_iff_error_eq_none
    (files : Files) (limits : Limits) (strict : Bool) (path : String) :
    (validateFile files limits strict path).report.valid = true ↔
      (validateFile files limits strict path).error = none := by
  cases planned : Plan.load files limits path with
  | error cause =>
      rcases validateFile_of_error planned strict with ⟨_, invalid, contributed⟩
      rw [invalid, contributed]
      simp
  | ok loaded =>
      rcases validateFile_of_ok planned strict with ⟨report, contributed⟩
      rw [report, contributed]
      cases (promoted strict loaded.warnings).isEmpty <;> simp

/-- Of all files, only the one at the path counts. -/
theorem validateFile_congr (same : others.find path = files.find path)
    (limits : Limits) (strict : Bool) :
    validateFile others limits strict path = validateFile files limits strict path := by
  rw [validateFile, validateFile, Plan.load_congr same]

/-! ## Strict validation -/

/-- What is valid in a strict validation is valid in any and has no warnings. -/
theorem valid_strict_iff (files : Files) (limits : Limits) (path : String) :
    (validateFile files limits true path).report.valid = true ↔
      (validateFile files limits false path).report.valid = true ∧
        (validateFile files limits false path).report.warnings = [] := by
  cases planned : Plan.load files limits path with
  | error cause =>
      rw [(validateFile_of_error planned true).2.1, (validateFile_of_error planned false).2.1]
      simp
  | ok loaded =>
      rw [(validateFile_of_ok planned true).1, (validateFile_of_ok planned false).1]
      simp [promoted]

/-- A file that only a strict validation refuses has its warnings for issues. -/
theorem report_of_refused_strict
    (lenient : (validateFile files limits false path).report.valid = true)
    (refused : (validateFile files limits true path).report.valid = false) :
    (validateFile files limits true path).report =
        { file := path, valid := false
          issues := (validateFile files limits false path).report.warnings.map strictIssue
          warnings := (validateFile files limits false path).report.warnings } ∧
      (validateFile files limits true path).error =
        some
          (.invalid path
            ((validateFile files limits false path).report.warnings.map strictIssue)) := by
  cases planned : Plan.load files limits path with
  | error cause =>
      rw [(validateFile_of_error planned false).2.1] at lenient
      cases lenient
  | ok loaded =>
      rcases validateFile_of_ok planned true with ⟨report, contributed⟩
      rw [report] at refused
      rw [report, contributed, (validateFile_of_ok planned false).1]
      simp only [promoted, if_true] at refused ⊢
      simp [refused]

/-! ## All files -/

/-- The reports of a validation, which its output shows one after the other. -/
def reports (files : Files) (limits : Limits) (arguments : ValidateArguments) :
    List FileReport :=
  arguments.files.map fun path => (validateFile files limits arguments.strict path).report

theorem output_run (files : Files) (limits : Limits) (arguments : ValidateArguments) :
    (run files limits arguments).output =
      output arguments.format (reports files limits arguments) := by
  simp [run, reports, Function.comp_def]

theorem member?_json (report : FileReport) :
    report.json.member? "file" = some (.str report.file) ∧
      report.json.member? "valid" = some (.bool report.valid) :=
  ⟨rfl, rfl⟩

/-- The JSON output reads back as an array that names the files and tells which are valid. -/
theorem parse?_output (reports : List FileReport) :
    ∃ documents,
      Json.Document.parse? (Json.Document.chars (output .json reports)) =
          some (.array documents) ∧
        documents.map (Json.Document.member? "file") =
          reports.map (fun report => some (.string (Json.spelledText report.file))) ∧
        documents.map (Json.Document.member? "valid") =
          reports.map fun report => some (.bool report.valid) := by
  refine ⟨(reports.map FileReport.json).map Json.Value.document, ?_, ?_, ?_⟩
  · rw [output, Json.Document.parse?_pretty, Json.Value.document, Json.Value.documents_eq_map]
  · simp [Function.comp_def, Json.Value.member?_document, member?_json, Json.Value.document]
  · simp [Function.comp_def, Json.Value.member?_document, member?_json, Json.Value.document]

/-- The error of the first file that contributes one. -/
def firstError (files : Files) (limits : Limits) (strict : Bool) (paths : List String) :
    Option PlanError :=
  paths.findSome? fun path => (validateFile files limits strict path).error

theorem error_run (files : Files) (limits : Limits) (arguments : ValidateArguments) :
    (run files limits arguments).error =
      (firstError files limits arguments.strict arguments.files).map .plan := by
  simp [run, firstError, List.findSome?_map, Function.comp_def]

theorem exitCode_run (files : Files) (limits : Limits) (arguments : ValidateArguments) :
    (run files limits arguments).exitCode =
      (firstError files limits arguments.strict arguments.files).elim 0 PlanError.exitCode := by
  rw [CommandOutcome.exitCode, error_run]
  cases firstError files limits arguments.strict arguments.files <;> rfl

/-- There is no first error exactly if every file is valid. -/
theorem firstError_eq_none_iff {paths : List String} :
    firstError files limits strict paths = none ↔
      ∀ path ∈ paths, (validateFile files limits strict path).report.valid = true := by
  simp only [firstError, List.findSome?_eq_none_iff, valid_iff_error_eq_none]

/-- Behind valid files, the error of a file that is not valid comes first. -/
theorem firstError_of_first
    {before after : List String}
    (valid : ∀ earlier ∈ before,
      (validateFile files limits strict earlier).report.valid = true)
    (contributed : (validateFile files limits strict path).error = some cause) :
    firstError files limits strict (before ++ path :: after) = some cause := by
  have passed : firstError files limits strict before = none := firstError_eq_none_iff.2 valid
  rw [firstError] at passed ⊢
  rw [List.findSome?_append, passed, Option.none_or, List.findSome?_cons, contributed]

/-- Files behind a first error leave it what it is. -/
theorem firstError_append
    {paths : List String} (first : firstError files limits strict paths = some cause)
    (more : List String) :
    firstError files limits strict (paths ++ more) = some cause := by
  rw [firstError] at first ⊢
  rw [List.findSome?_append, first, Option.some_or]

/-- The exit code is that of success exactly if there is no first error. -/
theorem exitCode_run_eq_zero_iff
    (files : Files) (limits : Limits) (arguments : ValidateArguments) :
    (run files limits arguments).exitCode = 0 ↔
      firstError files limits arguments.strict arguments.files = none := by
  rw [exitCode_run]
  cases firstError files limits arguments.strict arguments.files with
  | none => simp
  | some cause =>
      have codes := cause.exitCode_eq_or
      simp only [Option.elim_some, reduceCtorEq, iff_false]
      omega

/--
Every file gets a report of its own, in the order in which the files are given
and also found in a JSON output, that depends on nothing but that file, the
limits and whether the validation is strict.  The exit code is zero if all are
valid and otherwise that of the error of the first that is not, whatever files
come behind it.  A strict validation refuses the plans with warnings besides,
and their warnings become issues.
-/
theorem run_reports (files : Files) (limits : Limits) (arguments : ValidateArguments) :
    ((run files limits arguments).output =
        output arguments.format (reports files limits arguments) ∧
      (reports files limits arguments).map FileReport.file = arguments.files ∧
      (arguments.format = .json →
        ∃ documents,
          Json.Document.parse? (Json.Document.chars (run files limits arguments).output) =
              some (.array documents) ∧
            documents.map (Json.Document.member? "file") =
              arguments.files.map (fun path => some (.string (Json.spelledText path))) ∧
            documents.map (Json.Document.member? "valid") =
              (reports files limits arguments).map fun report => some (.bool report.valid))) ∧
    (∀ (others : Files) (elsewhere : ValidateArguments) (i j : Nat) (path : String),
      arguments.files[i]? = some path → elsewhere.files[j]? = some path →
        others.find path = files.find path → elsewhere.strict = arguments.strict →
          (reports others limits elsewhere)[j]? = (reports files limits arguments)[i]?) ∧
    (∀ strict path,
      (validateFile files limits strict path).report.valid = true ↔
        (validateFile files limits strict path).error = none) ∧
    ((run files limits arguments).exitCode = 0 ↔
      ∀ report ∈ reports files limits arguments, report.valid = true) ∧
    (∀ before path after, arguments.files = before ++ path :: after →
      (∀ earlier ∈ before,
        (validateFile files limits arguments.strict earlier).report.valid = true) →
      (validateFile files limits arguments.strict path).report.valid = false →
        ∃ cause,
          (validateFile files limits arguments.strict path).error = some cause ∧
            (run files limits arguments).error = some (.plan cause) ∧
            (run files limits arguments).exitCode = cause.exitCode) ∧
    ((run files limits arguments).exitCode ≠ 0 → ∀ more format,
      (run files limits
          { files := arguments.files ++ more, strict := arguments.strict, format }).exitCode =
        (run files limits arguments).exitCode) ∧
    (∀ path,
      ((validateFile files limits true path).report.valid = true ↔
        (validateFile files limits false path).report.valid = true ∧
          (validateFile files limits false path).report.warnings = []) ∧
      ((validateFile files limits false path).report.valid = true →
        (validateFile files limits true path).report.valid = false →
          ((validateFile files limits true path).report.issues =
              (validateFile files limits false path).report.warnings.map fun warning =>
                { path := warning.location, message := warning.message, severity := .error }) ∧
            (validateFile files limits true path).error =
              some (.invalid path (validateFile files limits true path).report.issues))) := by
  have named : (reports files limits arguments).map FileReport.file = arguments.files := by
    simp [reports, Function.comp_def, file_validateFile]
  refine ⟨⟨output_run files limits arguments, named, fun asked => ?_⟩, ?_,
    valid_iff_error_eq_none files limits, ?_, ?_, ?_, fun path =>
      ⟨valid_strict_iff files limits path, fun lenient refused => ?_⟩⟩
  · rcases parse?_output (reports files limits arguments) with ⟨documents, read, naming, valid⟩
    refine ⟨documents, ?_, ?_, valid⟩
    · rw [output_run, asked, read]
    · rw [naming, ← named, List.map_map]
      rfl
  · intro others elsewhere i j path here there same strict
    simp [reports, here, there, strict, validateFile_congr same]
  · rw [exitCode_run_eq_zero_iff, firstError_eq_none_iff]
    simp [reports]
  · intro before path after given valid invalid
    cases contributed : (validateFile files limits arguments.strict path).error with
    | none =>
        rw [(valid_iff_error_eq_none files limits arguments.strict path).2 contributed] at invalid
        cases invalid
    | some cause =>
        have first : firstError files limits arguments.strict arguments.files = some cause := by
          rw [given]
          exact firstError_of_first valid contributed
        refine ⟨cause, rfl, ?_, ?_⟩
        · rw [error_run, first]
          rfl
        · rw [exitCode_run, first]
          rfl
  · intro failed more format
    cases first : firstError files limits arguments.strict arguments.files with
    | none => exact absurd ((exitCode_run_eq_zero_iff files limits arguments).2 first) failed
    | some cause => rw [exitCode_run, exitCode_run, first, firstError_append first more]
  · rcases report_of_refused_strict lenient refused with ⟨report, contributed⟩
    rw [contributed, report]
    exact ⟨rfl, rfl⟩

/-- A plan that repeats a phase, and one without phases. -/
def batchFiles : Files :=
  { directory := "/"
    find := fun path =>
      if path = "twice.yaml" then
        .ok (.file (Text.Utf8.encode "phases: [[shows_ime_window: K], [shows_ime_window: K]]"))
      else if path = "idle.yaml" then .ok (.file (Text.Utf8.encode "phases: []"))
      else .error .notFound }

def batch : ValidateArguments :=
  { files := ["twice.yaml", "idle.yaml"], strict := false, format := .json }

theorem batchFiles_reports :
    (reports batchFiles {} batch).map FileReport.file = ["twice.yaml", "idle.yaml"] ∧
    (∃ cause,
      (validateFile batchFiles {} false "idle.yaml").error = some cause ∧
        (run batchFiles {} batch).error = some (.plan cause)) ∧
    (∀ more format,
      (run batchFiles {} ⟨["twice.yaml", "idle.yaml"] ++ more, false, format⟩).exitCode = 2) ∧
    (validateFile batchFiles {} true "twice.yaml").report.valid = false ∧
    (validateFile batchFiles {} true "twice.yaml").report.issues =
      [{ path := "phases[1]", message := PlanFile.repeatMessage, severity := .error }] := by
  have ends : (run batchFiles {} batch).exitCode = 2 := by decide +kernel
  have twice :
      (validateFile batchFiles {} false "twice.yaml").report =
        { file := "twice.yaml", valid := true
          warnings := [⟨PlanFile.repeatMessage, "phases[1]"⟩] } := by
    decide +kernel
  have idle : (validateFile batchFiles {} false "idle.yaml").report.valid = false := by
    decide +kernel
  rcases run_reports batchFiles {} batch with
    ⟨⟨_, named, _⟩, _, _, _, first, later, strict⟩
  rcases strict "twice.yaml" with ⟨valid_iff, promotes⟩
  rw [twice] at valid_iff promotes
  have refused : (validateFile batchFiles {} true "twice.yaml").report.valid = false := by
    rw [← Bool.not_eq_true, valid_iff]
    simp
  rcases first ["twice.yaml"] "idle.yaml" [] rfl (by simp [batch, twice]) idle with
    ⟨cause, contributed, decides, _⟩
  refine ⟨named, ⟨cause, contributed, decides⟩, fun more format => ?_, refused,
    (promotes rfl refused).1⟩
  rw [← ends]
  exact later (by rw [ends]; decide) more format

end PhaseAssertions.Validate
