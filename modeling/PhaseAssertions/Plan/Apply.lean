import PhaseAssertions.Plan.Basic
import PhaseAssertions.Subject

/-!
# Applying plans

A plan is applied to a trace by the steps that assemble its phases: the first
assertion of a phase starts it and the others join it.  Which entries are
looked at is said last.
-/

namespace PhaseAssertions

/-- Something that is reported while a plan is applied. -/
inductive PlanEvent where
  | applying (plan : Option String) (evaluation : PlanEvaluation) (phases : Nat)
  | verifying (event : VerifyEvent)
deriving DecidableEq

/-- The result of applying a plan, with the events on the way. -/
structure PlanApplication where
  result : Except VerifyError Unit
  events : List PlanEvent

namespace Plan

/-- The steps that declare the assertions of one phase. -/
def phaseSteps : List PlanAssertion → List (Step WindowManagerEntry)
  | [] => []
  | [first] => [.declare first.predicate]
  | first :: second :: rest =>
    .declare first.predicate :: .extendPhase ::
      (second :: rest).map fun step => .declare step.predicate

/-- The steps that declare the phases behind the first one. -/
def laterSteps (phases : List (List PlanAssertion)) : List (Step WindowManagerEntry) :=
  phases.flatMap fun phase => .newPhase :: phaseSteps phase

def phasesSteps : List (List PlanAssertion) → List (Step WindowManagerEntry)
  | [] => []
  | first :: later => phaseSteps first ++ laterSteps later

def steps (plan : Plan) : List (Step WindowManagerEntry) :=
  phasesSteps plan.phases ++ if plan.skipUntilFirst then [.skipUntilFirst] else []

def subject (plan : Plan) (trace : Trace WindowManagerEntry) :
    Subject WindowManagerEntry :=
  (Subject.ofTrace trace).build plan.steps

def scope (plan : Plan) : Scope :=
  match plan.evaluation with
  | .allEntries => .allEntries
  | .range bounds => .between bounds.first bounds.last
  | .firstEntry => .firstEntry
  | .lastEntry => .lastEntry

/-- Applies the plan to a trace. -/
def apply (plan : Plan) (trace : Trace WindowManagerEntry) : PlanApplication :=
  let verification := (plan.subject trace).verify plan.scope
  let building :=
    ((Subject.ofTrace trace).buildEvents plan.steps).map VerifyEvent.check
  { result := verification.result
    events :=
      .applying plan.name plan.evaluation plan.phases.length ::
        (building ++ verification.events).map PlanEvent.verifying }

end Plan

end PhaseAssertions
