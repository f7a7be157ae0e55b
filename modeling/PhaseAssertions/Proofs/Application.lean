import PhaseAssertions.Plan.Apply
import PhaseAssertions.Proofs.Assembly
import PhaseAssertions.Proofs.Validation

/-!
# What a plan verifies

A plan is applied by steps that toggle between starting and extending phases.
Read as declarations, these steps are the phases of the plan written out one
after the other: every phase starts anew, whatever the one before it has left
behind, and a phase without assertions leaves no trace.

So the subject of a plan holds one group for each phase that is not empty and no
misuse, and applying the plan tells what a checker of these groups finds.
-/

namespace PhaseAssertions

/-! ## Groups of a plan -/

/-- The group of the assertions of a phase, if there are any. -/
def PlanAssertion.group? : List PlanAssertion → Option (PhaseGroup WindowManagerEntry)
  | [] => none
  | first :: others =>
    some { first := first.predicate, others := others.map PlanAssertion.predicate }

/-- Whether a predicate is that of the library for an assertion, under its name. -/
def PlanAssertion.Checks
    (resolved : PlanAssertion) (predicate : Predicate WindowManagerEntry) : Prop :=
  predicate.name = resolved.assertion.name ++ "(" ++ resolved.window ++ ")" ∧
    ∀ entry, predicate.evaluate entry = resolved.assertion.holds resolved.window entry

theorem PlanAssertion.forall₂_checks (phase : List PlanAssertion) :
    List.Forall₂ PlanAssertion.Checks phase (phase.map PlanAssertion.predicate) := by
  rw [List.forall₂_map_right_iff, List.forall₂_same]
  intro resolved _
  exact ⟨rfl, fun _ => rfl⟩

namespace Plan

def groups (plan : Plan) : List (PhaseGroup WindowManagerEntry) :=
  plan.phases.filterMap PlanAssertion.group?

theorem forall₂_checks_filterMap (phases : List (List PlanAssertion)) :
    List.Forall₂
      (fun phase group => List.Forall₂ PlanAssertion.Checks phase group.members)
      (phases.filter fun phase => !phase.isEmpty)
      (phases.filterMap PlanAssertion.group?) := by
  induction phases with
  | nil => exact .nil
  | cons phase rest induction =>
      cases phase with
      | nil => exact induction
      | cons first others =>
          exact .cons (PlanAssertion.forall₂_checks (first :: others)) induction

/-! ## Declarations of a plan -/

theorem declarationsAfter_declares
    (before : List (Step WindowManagerEntry)) (phase : List PlanAssertion) :
    declarationsAfter before (phase.map fun resolved => .declare resolved.predicate) =
      phase.map fun resolved => ⟨resolved.predicate, latestSwitch before⟩ := by
  induction phase generalizing before with
  | nil => rfl
  | cons first others induction =>
      have kept :
          latestSwitch (before ++ [.declare first.predicate]) = latestSwitch before :=
        latestSwitch_concat before _
      rw [List.map_cons, declarationsAfter, induction, kept]
      rfl

theorem declarations_phaseSteps (phase : List PlanAssertion) :
    declarations (phaseSteps phase) =
      (PlanAssertion.group? phase).toList.flatMap PhaseGroup.declarations := by
  match phase with
  | [] => rfl
  | [first] => rfl
  | first :: second :: others =>
      -- The switch behind the first assertion stays for all the others.
      have switched :
          latestSwitch ([] ++ [.declare first.predicate] ++ [.extendPhase]) =
            Chain.extendPhase :=
        rfl
      rw [phaseSteps, declarations, declarationsAfter, declarationsAfter,
        declarationsAfter_declares, switched]
      simp [Step.declaration?, latestSwitch, PlanAssertion.group?, PhaseGroup.declarations]

/-- A phase behind others starts anew, whatever these have left. -/
theorem declarationsAfter_newPhase
    (before steps : List (Step WindowManagerEntry)) :
    declarationsAfter before (.newPhase :: steps) = declarations steps := by
  have switched :
      latestSwitch (before ++ [.newPhase]) =
        latestSwitch ([] : List (Step WindowManagerEntry)) := by
    rw [latestSwitch_concat]
    rfl
  rw [declarationsAfter, declarationsAfter_congr switched]
  rfl

theorem declarationsAfter_laterSteps
    (before : List (Step WindowManagerEntry)) (phases : List (List PlanAssertion)) :
    declarationsAfter before (laterSteps phases) =
      (phases.filterMap PlanAssertion.group?).flatMap PhaseGroup.declarations := by
  induction phases generalizing before with
  | nil => rfl
  | cons phase rest induction =>
      have split : laterSteps (phase :: rest) = (.newPhase :: phaseSteps phase) ++ laterSteps rest :=
        List.flatMap_cons
      rw [split, declarationsAfter_append, declarationsAfter_newPhase,
        declarations_phaseSteps, induction, List.filterMap_cons]
      cases PlanAssertion.group? phase <;> simp

theorem declarations_phasesSteps (phases : List (List PlanAssertion)) :
    declarations (phasesSteps phases) =
      (phases.filterMap PlanAssertion.group?).flatMap PhaseGroup.declarations := by
  cases phases with
  | nil => rfl
  | cons first later =>
      have split := declarationsAfter_append [] (phaseSteps first) (laterSteps later)
      have initial : declarationsAfter [] (phaseSteps first) = _ :=
        declarations_phaseSteps first
      rw [phasesSteps, declarations, split, initial, declarationsAfter_laterSteps,
        List.filterMap_cons]
      cases PlanAssertion.group? first <;> simp

/-- The steps of a plan are its groups written out. -/
theorem declarations_steps (plan : Plan) :
    declarations plan.steps = plan.groups.flatMap PhaseGroup.declarations := by
  rw [steps, groups, ← declarations_phasesSteps]
  cases plan.skipUntilFirst with
  | false => simp
  | true =>
      rw [if_pos rfl, declarations_concat]
      exact List.append_nil _

theorem any_skips_phaseSteps (phase : List PlanAssertion) :
    (phaseSteps phase).any Step.skips = false := by
  match phase with
  | [] => rfl
  | [first] => rfl
  | first :: second :: others => simp [phaseSteps, Step.skips]

theorem any_skips_steps (plan : Plan) :
    plan.steps.any Step.skips = plan.skipUntilFirst := by
  have later :
      ∀ phases : List (List PlanAssertion), (laterSteps phases).any Step.skips = false := by
    intro phases
    simp [laterSteps, List.any_flatMap, Step.skips, any_skips_phaseSteps]
  have declaring : (phasesSteps plan.phases).any Step.skips = false := by
    cases plan.phases with
    | nil => rfl
    | cons first rest =>
        rw [phasesSteps, List.any_append, any_skips_phaseSteps, later]
        rfl
  rw [steps, List.any_append, declaring]
  cases plan.skipUntilFirst <;> rfl

/-! ## Subjects of a plan -/

variable {plan : Plan} {trace : Trace WindowManagerEntry}

theorem assembled_subject (plan : Plan) (trace : Trace WindowManagerEntry) :
    Assembled trace plan.steps (plan.subject trace) :=
  Assembled.build trace plan.steps

theorem groups_subject (plan : Plan) (trace : Trace WindowManagerEntry) :
    (plan.subject trace).checker.groups = plan.groups := by
  apply (assembled_subject plan trace).declares.unique
  exact ⟨[], by simp, declarations_steps plan⟩

theorem misuse_subject (plan : Plan) (trace : Trace WindowManagerEntry) :
    (plan.subject trace).misuse = none := by
  rw [(assembled_subject plan trace).misuse_eq, declarations_steps]
  cases plan.groups <;> rfl

theorem skipUntilFirst_subject (plan : Plan) (trace : Trace WindowManagerEntry) :
    (plan.subject trace).checker.skipUntilFirst = plan.skipUntilFirst := by
  rw [(assembled_subject plan trace).skipUntilFirst_eq, any_skips_steps]

end Plan

/-! ## Applying a plan -/

namespace PlanEvaluation

/-- The mode of a checker for the evaluation. -/
def mode : PlanEvaluation → CheckMode
  | .allEntries | .range _ => .allEntries
  | .firstEntry => .firstEntry
  | .lastEntry => .lastEntry

/-- The range of a checker for the evaluation, if it has one. -/
def range? : PlanEvaluation → Option TimestampRange
  | .range bounds => some bounds
  | .allEntries | .firstEntry | .lastEntry => none

end PlanEvaluation

namespace Plan

variable {plan : Plan} {trace : Trace WindowManagerEntry}

theorem not_inverted_scope (plan : Plan) : ¬ plan.scope.Inverted := by
  unfold scope
  cases plan.evaluation with
  | range bounds => exact Int64.not_lt.2 bounds.first_le_last
  | allEntries => exact id
  | firstEntry => exact id
  | lastEntry => exact id

theorem mode_scope (plan : Plan) : plan.scope.mode = plan.evaluation.mode := by
  unfold scope
  cases plan.evaluation <;> rfl

theorem range?_scope (plan : Plan) : plan.scope.range? = plan.evaluation.range? := by
  unfold scope
  cases plan.evaluation with
  | range bounds => exact TimestampRange.ofBounds?_eq_some_iff.2 ⟨rfl, rfl⟩
  | allEntries => rfl
  | firstEntry => rfl
  | lastEntry => rfl

/-- Applying a plan answers with what a checker of its groups finds. -/
theorem result_apply
    {engine : Checker WindowManagerEntry}
    (configured :
      engine.Configured plan.groups plan.skipUntilFirst plan.evaluation.mode
        plan.evaluation.range?)
    (trace : Trace WindowManagerEntry) :
    (plan.apply trace).result = trace.answer (engine.test trace.entries) := by
  have assembled := assembled_subject plan trace
  rw [← groups_subject plan trace, ← skipUntilFirst_subject plan trace, ← mode_scope,
    ← range?_scope] at configured
  have answered :=
    Subject.result_verify plan.not_inverted_scope assembled.mode_eq assembled.range_eq
      (misuse_subject plan trace) configured
  rw [assembled.trace_eq] at answered
  exact answered

theorem tells_apply
    {engine : Checker WindowManagerEntry}
    (configured :
      engine.Configured plan.groups plan.skipUntilFirst plan.evaluation.mode
        plan.evaluation.range?)
    (trace : Trace WindowManagerEntry) :
    Tells (plan.apply trace).result (engine.test trace.entries) := by
  rw [result_apply configured]
  exact trace.tells_answer _

/-- A checker of the groups of a plan, with the settings of the plan. -/
def engine (plan : Plan) : Checker WindowManagerEntry :=
  { complete := plan.groups
    mode := plan.evaluation.mode
    range := plan.evaluation.range?
    skipUntilFirst := plan.skipUntilFirst }

@[simp]
theorem groups_engine (plan : Plan) : plan.engine.groups = plan.groups :=
  List.append_nil plan.groups

theorem configured_engine (plan : Plan) :
    plan.engine.Configured plan.groups plan.skipUntilFirst plan.evaluation.mode
      plan.evaluation.range? :=
  ⟨plan.groups_engine, rfl, rfl, rfl⟩

theorem tells_engine (plan : Plan) (trace : Trace WindowManagerEntry) :
    Tells (plan.apply trace).result (plan.engine.test trace.entries) :=
  tells_apply plan.configured_engine trace

theorem apply_ne_misuse
    (plan : Plan) (trace : Trace WindowManagerEntry) (cause : Misuse) :
    (plan.apply trace).result ≠ .error (.misuse cause) :=
  (plan.tells_engine trace).ne_misuse cause

end Plan

/--
The plan that a file resolves to, which there is if the file is valid, declares
one group for each phase that is not empty, with the predicates of its
assertions.  It is assembled without misuse, and applying it tells what a
checker with these groups and the settings of the file finds.
-/
theorem PlanFile.apply_resolved
    (file : PlanFile) (trace : Trace WindowManagerEntry) :
    (∀ limits, (file.validate limits).errors = [] → ∃ plan, file.resolve = .ok plan) ∧
    ∀ plan, file.resolve = .ok plan →
      plan.StandsFor file ∧
      List.Forall₂
        (fun phase group => List.Forall₂ PlanAssertion.Checks phase group.members)
        (plan.phases.filter fun phase => !phase.isEmpty)
        (plan.subject trace).checker.groups ∧
      (plan.subject trace).misuse = none ∧
      (plan.subject trace).checker.skipUntilFirst = file.skipUntilFirst ∧
      (∀ cause, (plan.apply trace).result ≠ .error (.misuse cause)) ∧
      ∀ engine : Checker WindowManagerEntry,
        engine.Configured (plan.subject trace).checker.groups file.skipUntilFirst
            plan.evaluation.mode plan.evaluation.range? →
          Tells (plan.apply trace).result (engine.test trace.entries) := by
  constructor
  · intro limits valid
    exact ((errors_eq_nil_iff limits file).1 valid).exists_resolve
  · intro plan resolved
    have stands := resolve_eq_ok_iff.1 resolved
    rw [plan.groups_subject trace, plan.skipUntilFirst_subject trace, ← stands.skipUntilFirst]
    refine
      ⟨stands, Plan.forall₂_checks_filterMap plan.phases, plan.misuse_subject trace, rfl,
        plan.apply_ne_misuse trace, ?_⟩
    intro engine configured
    exact Plan.tells_apply configured trace

/-- A file with a step of two pairs, an empty phase and a step without pairs. -/
def untidyFile : PlanFile :=
  { mode := .range
    range := some ⟨1, 4⟩
    skipUntilFirst := true
    phases :=
      [ [{ pairs := [("hides_app_window", "W"), ("hides_ime_window", "K")] }], [], [.empty],
        [{ pairs := [("shows_app_window", "W")] }] ] }

theorem untidyFile_applied :
    ∃ plan, untidyFile.resolve = .ok plan ∧
      (plan.subject Checker.flickeringTrace).checker.groups.map PhaseGroup.name =
        ["hides_app_window(W) and hides_ime_window(K)", "shows_app_window(W)"] ∧
      (plan.subject Checker.flickeringTrace).misuse = none ∧
      Tells (plan.apply Checker.flickeringTrace).result
        (((plan.subject Checker.flickeringTrace).checker.withinRange
          ⟨1, 4, by decide⟩).test Checker.flickeringTrace.entries) := by
  have resolved :
      untidyFile.resolve =
        .ok
          { name := none
            evaluation := .range ⟨1, 4, by decide⟩
            skipUntilFirst := true
            phases :=
              [ [⟨⟨.layer .app, false⟩, "W"⟩, ⟨⟨.layer .ime, false⟩, "K"⟩], [], [],
                [⟨⟨.layer .app, true⟩, "W"⟩] ] } := by
    decide
  rcases (untidyFile.apply_resolved Checker.flickeringTrace).2 _ resolved with
    ⟨_, _, proper, _, _, tells⟩
  exact ⟨_, resolved, by decide, proper, tells _ ⟨rfl, rfl, rfl, rfl⟩⟩

end PhaseAssertions
