import PhaseAssertions.Command.Check
import PhaseAssertions.Proofs.Application
import PhaseAssertions.Proofs.WrittenJson

/-!
# How a check ends

A check has three stages, and the first that fails decides: loading the plan,
loading the trace, and applying the one to the other.  As long as one of the
first two fails nothing is printed, and what comes behind a failed stage has no
influence on the outcome.  The last stage prints in either case, and its exit
code tells whether there is a report.
-/

namespace PhaseAssertions

/-! ## Reports of an application -/

/-- Whether applying a plan to a trace comes to a report, and to which. -/
inductive Plan.Reports (plan : Plan) (trace : Trace WindowManagerEntry) :
    Option FailureReport → Prop where
  | passed (result : (plan.apply trace).result = .ok ()) : Reports plan trace none
  | failed {report : FailureReport}
      (result : (plan.apply trace).result = .error (.failed report)) :
      Reports plan trace (some report)

/-- An application passes or fails with a report; it is never a misuse. -/
theorem Plan.exists_reports (plan : Plan) (trace : Trace WindowManagerEntry) :
    ∃ report?, plan.Reports trace report? := by
  cases applied : (plan.apply trace).result with
  | ok done => exact ⟨none, .passed applied⟩
  | error error =>
      cases error with
      | misuse cause => exact absurd applied (plan.apply_ne_misuse trace cause)
      | failed report => exact ⟨some report, .failed applied⟩

namespace Plan.Reports

variable {plan : Plan} {trace : Trace WindowManagerEntry} {report? : Option FailureReport}

theorem passed_iff (reports : plan.Reports trace report?) :
    (plan.apply trace).result = .ok () ↔ report? = none := by
  cases reports with
  | passed result => simp [result]
  | failed result => simp [result]

theorem failed_iff (reports : plan.Reports trace report?) :
    (∃ report, (plan.apply trace).result = .error (.failed report)) ↔
      report?.isSome = true := by
  cases reports with
  | passed result => simp [result]
  | failed result => simp [result]

end Plan.Reports

/-! ## Outcomes -/

/-- Whether a command ends with an error before it prints anything. -/
structure CommandOutcome.Refuses (outcome : CommandOutcome) (cause : CommandError) :
    Prop where
  error_eq : outcome.error = some cause
  exitCode_eq : outcome.exitCode = cause.exitCode
  output_eq : outcome.output = ""

namespace Check

variable {files : Files} {limits : Limits} {arguments : CheckArguments}
variable {loaded : LoadedPlan} {trace : Trace WindowManagerEntry}

theorem run_of_plan_error
    {cause : PlanError} (refused : Plan.load files limits arguments.plan = .error cause) :
    (run files limits arguments).Refuses (.plan cause) := by
  rw [run, refused]
  exact ⟨rfl, rfl, rfl⟩

theorem run_of_trace_error
    {cause : TraceError} (planned : Plan.load files limits arguments.plan = .ok loaded)
    (refused :
      (Trace.load files limits arguments.trace arguments.checksum).result = .error cause) :
    (run files limits arguments).Refuses (.trace cause) := by
  simp only [run, planned, refused]
  exact ⟨rfl, rfl, rfl⟩

theorem verify_of_reports
    {plan : Plan} {report? : Option FailureReport}
    (reports : plan.Reports trace report?) (before : List Log.Record) :
    (verify arguments plan trace before).output = output arguments plan trace report? ∧
      (verify arguments plan trace before).error =
        report?.map fun report => .verify (.failed report) := by
  cases reports with
  | passed result => simp [verify, result]
  | failed result => simp [verify, result]

/-- What is printed and how it ends once the plan is applied to the trace. -/
theorem run_of_reports
    {report? : Option FailureReport}
    (planned : Plan.load files limits arguments.plan = .ok loaded)
    (traced :
      (Trace.load files limits arguments.trace arguments.checksum).result = .ok trace)
    (reports : loaded.plan.Reports trace report?) :
    (run files limits arguments).output = output arguments loaded.plan trace report? ∧
      (run files limits arguments).error =
        report?.map fun report => .verify (.failed report) := by
  simp only [run, planned, traced]
  exact verify_of_reports reports _

theorem exitCode_of_reports
    {report? : Option FailureReport}
    (planned : Plan.load files limits arguments.plan = .ok loaded)
    (traced :
      (Trace.load files limits arguments.trace arguments.checksum).result = .ok trace)
    (reports : loaded.plan.Reports trace report?) :
    (run files limits arguments).exitCode = if report?.isSome then 1 else 0 := by
  rw [CommandOutcome.exitCode, (run_of_reports planned traced reports).2]
  cases report? <;> rfl

/-- The stages of a check, one of which decides the outcome. -/
inductive Stage (files : Files) (limits : Limits) (arguments : CheckArguments) : Prop where
  | plan (cause : PlanError) (refused : Plan.load files limits arguments.plan = .error cause)
  | trace (loaded : LoadedPlan) (cause : TraceError)
      (planned : Plan.load files limits arguments.plan = .ok loaded)
      (refused :
        (Trace.load files limits arguments.trace arguments.checksum).result = .error cause)
  | verification (loaded : LoadedPlan) (trace : Trace WindowManagerEntry)
      (report? : Option FailureReport)
      (planned : Plan.load files limits arguments.plan = .ok loaded)
      (traced :
        (Trace.load files limits arguments.trace arguments.checksum).result = .ok trace)
      (reports : loaded.plan.Reports trace report?)

theorem stage (files : Files) (limits : Limits) (arguments : CheckArguments) :
    Stage files limits arguments := by
  cases planned : Plan.load files limits arguments.plan with
  | error cause => exact .plan cause planned
  | ok loaded =>
      cases traced :
          (Trace.load files limits arguments.trace arguments.checksum).result with
      | error cause => exact .trace loaded cause planned traced
      | ok trace =>
          rcases loaded.plan.exists_reports trace with ⟨report?, reports⟩
          exact .verification loaded trace report? planned traced reports

theorem exitCode_ne_misuse
    (files : Files) (limits : Limits) (arguments : CheckArguments) :
    (run files limits arguments).exitCode ≠ 64 := by
  cases stage files limits arguments with
  | plan cause refused =>
      rw [(run_of_plan_error refused).exitCode_eq, CommandError.exitCode]
      have codes := cause.exitCode_eq_or
      omega
  | trace loaded cause planned refused =>
      rw [(run_of_trace_error planned refused).exitCode_eq, CommandError.exitCode]
      have codes := cause.exitCode_eq_or
      omega
  | verification loaded trace report? planned traced reports =>
      rw [exitCode_of_reports planned traced reports]
      split <;> decide

theorem exitCode_format
    (files : Files) (limits : Limits) (arguments : CheckArguments) (format : OutputFormat) :
    (run files limits { arguments with format }).exitCode =
      (run files limits arguments).exitCode := by
  cases stage files limits arguments with
  | plan cause refused =>
      have refuses : (run files limits { arguments with format }).Refuses (.plan cause) :=
        run_of_plan_error refused
      rw [refuses.exitCode_eq, (run_of_plan_error refused).exitCode_eq]
  | trace loaded cause planned refused =>
      have refuses : (run files limits { arguments with format }).Refuses (.trace cause) :=
        run_of_trace_error planned refused
      rw [refuses.exitCode_eq, (run_of_trace_error planned refused).exitCode_eq]
  | verification loaded trace report? planned traced reports =>
      have ends :
          (run files limits { arguments with format }).exitCode =
            if report?.isSome then 1 else 0 :=
        exitCode_of_reports planned traced reports
      rw [ends, exitCode_of_reports planned traced reports]

theorem output_json
    (asked : arguments.format = .json) (plan : Plan) (trace : Trace WindowManagerEntry)
    (report? : Option FailureReport) :
    output arguments plan trace report? = (json arguments plan trace report?).pretty ++ "\n" := by
  unfold output
  rw [asked]

/-- The JSON output reads back and says whether the trace passed, with the report if not. -/
theorem parse?_output
    (asked : arguments.format = .json) (plan : Plan) (trace : Trace WindowManagerEntry)
    (report? : Option FailureReport) :
    ∃ document,
      Json.Document.parse? (Json.Document.chars (output arguments plan trace report?)) =
          some document ∧
        document.member? "passed" = some (.bool report?.isNone) ∧
        (document.member? "report").isSome = report?.isSome := by
  refine ⟨(json arguments plan trace report?).document, ?_, ?_, ?_⟩
  · rw [output_json asked, Json.Document.parse?_pretty]
  · rw [Json.Value.member?_document]
    cases report? <;> rfl
  · rw [Json.Value.member?_document]
    cases report? <;> rfl

/--
The first stage that fails decides how a check ends.  A plan that cannot be
loaded is reported without regard to the trace and its checksum, a trace that
cannot be loaded as such, and nothing is printed.  Otherwise the exit code is
zero if the plan passes and one if there is a report, which are also told apart
by a JSON output; it depends on the format in no case and is never that of a
misuse.
-/
theorem run_stages (files : Files) (limits : Limits) (arguments : CheckArguments) :
    (∀ cause, Plan.load files limits arguments.plan = .error cause →
      ∀ (others : Files) (trace : String) (checksum : Option String) (format : OutputFormat),
        others.find arguments.plan = files.find arguments.plan →
          (run others limits { arguments with trace, checksum, format }).Refuses
            (.plan cause)) ∧
    (∀ loaded cause, Plan.load files limits arguments.plan = .ok loaded →
      (Trace.load files limits arguments.trace arguments.checksum).result = .error cause →
        (run files limits arguments).Refuses (.trace cause)) ∧
    (∀ loaded trace, Plan.load files limits arguments.plan = .ok loaded →
      (Trace.load files limits arguments.trace arguments.checksum).result = .ok trace →
        ((run files limits arguments).exitCode = 0 ∨
          (run files limits arguments).exitCode = 1) ∧
        ((run files limits arguments).exitCode = 0 ↔
          (loaded.plan.apply trace).result = .ok ()) ∧
        ((run files limits arguments).exitCode = 1 ↔
          ∃ report, (loaded.plan.apply trace).result = .error (.failed report)) ∧
        (arguments.format = .json →
          ∃ document,
            Json.Document.parse? (Json.Document.chars (run files limits arguments).output) =
                some document ∧
              document.member? "passed" =
                some (.bool (decide ((run files limits arguments).exitCode = 0))) ∧
              ((document.member? "report").isSome = true ↔
                (run files limits arguments).exitCode = 1))) ∧
    (∀ format,
      (run files limits { arguments with format }).exitCode =
        (run files limits arguments).exitCode) ∧
    (run files limits arguments).exitCode ≠ 64 := by
  refine ⟨?_, ?_, ?_, exitCode_format files limits arguments,
    exitCode_ne_misuse files limits arguments⟩
  · intro cause refused others trace checksum format same
    apply run_of_plan_error
    rw [← refused]
    exact Plan.load_congr same limits
  · intro loaded cause planned refused
    exact run_of_trace_error planned refused
  · intro loaded trace planned traced
    rcases loaded.plan.exists_reports trace with ⟨report?, reports⟩
    have ends := exitCode_of_reports planned traced reports
    refine ⟨?_, ?_, ?_, ?_⟩
    · rw [ends]
      cases report? <;> simp
    · rw [ends, reports.passed_iff]
      cases report? <;> simp
    · rw [ends, reports.failed_iff]
      cases report? <;> simp
    · intro asked
      rcases parse?_output asked loaded.plan trace report? with
        ⟨document, read, passed, reported⟩
      refine ⟨document, ?_, ?_, ?_⟩
      · rw [(run_of_reports planned traced reports).1, read]
      · rw [passed, ends]
        cases report? <;> rfl
      · rw [reported, ends]
        cases report? <;> simp

/-- A trace of a keyboard that is shown and then hidden. -/
def keyboardTrace : String :=
  "\x7b\"entries\":[\x7b\"timestamp\":0,\"windows\":[\x7b\"title\":\"K\",\"kind\":\"ime\"," ++
    "\"visible\":true\x7d]\x7d,\x7b\"timestamp\":1\x7d]\x7d"

/-- A plan and a trace that satisfies it, and a plan without phases. -/
def keyboardFiles : Files :=
  { directory := "/"
    find := fun path =>
      if path = "plan.yaml" then .ok (.file (Text.Utf8.encode PlanFile.keyboardText))
      else if path = "trace.json" then .ok (.file (Text.Utf8.encode keyboardTrace))
      else if path = "idle.yaml" then .ok (.file (Text.Utf8.encode "phases: []"))
      else .error .notFound }

/-- What `plan.yaml` among them spells. -/
def keyboardPlan : LoadedPlan :=
  { plan :=
      { name := none
        evaluation := .allEntries
        skipUntilFirst := false
        phases := [[⟨⟨.layer .ime, true⟩, "K"⟩], [⟨⟨.layer .ime, false⟩, "K"⟩]] }
    warnings := [] }

def keyboardCheck : CheckArguments :=
  { trace := "trace.json", plan := "plan.yaml", checksum := none, format := .json }

theorem keyboardFiles_checked :
    (Plan.load keyboardFiles {} "idle.yaml" =
        .error (.invalid "idle.yaml" [PlanFile.errorAt "phases" "plan declares no phases"]) ∧
      (run keyboardFiles {} ⟨"missing.json", "idle.yaml", some "00", .human⟩).Refuses
        (.plan (.invalid "idle.yaml"
          [PlanFile.errorAt "phases" "plan declares no phases"]))) ∧
    (Plan.load keyboardFiles { maxTraceSize := 8 } "plan.yaml" = .ok keyboardPlan ∧
      (Trace.load keyboardFiles { maxTraceSize := 8 } "trace.json" none).result =
        .error (.tooLarge "trace.json" 99 8) ∧
      (run keyboardFiles { maxTraceSize := 8 } keyboardCheck).Refuses
        (.trace (.tooLarge "trace.json" 99 8))) ∧
    ∃ trace, Plan.load keyboardFiles {} "plan.yaml" = .ok keyboardPlan ∧
      (Trace.load keyboardFiles {} "trace.json" none).result = .ok trace ∧
      (run keyboardFiles {} keyboardCheck).exitCode = 0 ∧
      (keyboardPlan.plan.apply trace).result = .ok () ∧
      ∃ document,
        Json.Document.parse? (Json.Document.chars (run keyboardFiles {} keyboardCheck).output) =
            some document ∧
          document.member? "passed" = some (.bool true) := by
  have idle :
      Plan.load keyboardFiles {} "idle.yaml" =
        .error (.invalid "idle.yaml" [PlanFile.errorAt "phases" "plan declares no phases"]) := by
    decide +kernel
  have planned :
      ∀ limits ∈ [({} : Limits), { maxTraceSize := 8 }],
        Plan.load keyboardFiles limits "plan.yaml" = .ok keyboardPlan := by
    decide +kernel
  have oversized :
      (Trace.load keyboardFiles { maxTraceSize := 8 } "trace.json" none).result =
        .error (.tooLarge "trace.json" 99 8) := by
    have size : (Text.Utf8.encode keyboardTrace).length = 99 := by decide +kernel
    simp [Trace.load, keyboardFiles, FileEntry.size, size]
  have decoded : (Trace.load keyboardFiles {} "trace.json" none).result.isOk = true := by
    decide +kernel
  have passes : (run keyboardFiles {} keyboardCheck).exitCode = 0 := by decide +kernel
  rcases run_stages keyboardFiles {} ⟨"trace.json", "idle.yaml", none, .json⟩ with
    ⟨unplanned, _⟩
  rcases run_stages keyboardFiles { maxTraceSize := 8 } keyboardCheck with ⟨_, untraced, _⟩
  rcases run_stages keyboardFiles {} keyboardCheck with ⟨_, _, applied, _⟩
  refine
    ⟨⟨idle, unplanned _ idle keyboardFiles "missing.json" (some "00") .human rfl⟩,
      ⟨planned _ (by simp), oversized, untraced _ _ (planned _ (by simp)) oversized⟩, ?_⟩
  cases traced : (Trace.load keyboardFiles {} "trace.json" none).result with
  | error cause =>
      rw [traced] at decoded
      cases decoded
  | ok trace =>
      rcases applied keyboardPlan trace (planned _ (by simp)) traced with
        ⟨_, passes_iff, _, prints⟩
      rcases prints rfl with ⟨document, read, passed, _⟩
      rw [passes] at passed
      exact
        ⟨trace, planned _ (by simp), rfl, passes, passes_iff.1 passes, document, read, passed⟩

end Check

end PhaseAssertions
