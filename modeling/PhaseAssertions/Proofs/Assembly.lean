import Mathlib.Data.List.Induction
import PhaseAssertions.Proofs.RangeWindow
import PhaseAssertions.Proofs.Verification

/-!
# What the steps of an assembly declare

Steps can be given in any order and number.  What they declare is read off them
without running them: each declared predicate either starts a phase or extends
one, as the latest switch before it says.  Those that extend before anything was
started are dropped; each of the others belongs to the group of the latest
predicate that started one.

The main statement is that a subject holds exactly these groups, that it records
a misuse exactly if the first predicate extends, and that its verifications
answer accordingly.  It is carried by an invariant of the assembled subject,
which each step preserves.
-/

namespace PhaseAssertions

universe u

variable {Entry : Type u}

/-! ## Declarations -/

/-- The switch that a step sets, if it sets one. -/
def Step.switch? : Step Entry → Option Chain
  | .newPhase => some .newPhase
  | .extendPhase => some .extendPhase
  | .declare _ | .skipUntilFirst => none

/-- Whether a step lets entries before the first match be passed over. -/
def Step.skips : Step Entry → Bool
  | .skipUntilFirst => true
  | .declare _ | .newPhase | .extendPhase => false

/-- The switch that was set last; at first, predicates start phases. -/
def latestSwitch (steps : List (Step Entry)) : Chain :=
  (steps.filterMap Step.switch?).getLast?.getD .newPhase

/-- A declared predicate with the switch that it met. -/
structure Declaration (Entry : Type u) where
  predicate : Predicate Entry
  chain : Chain

/-- What a step declares behind the steps before it. -/
def Step.declaration? (before : List (Step Entry)) :
    Step Entry → Option (Declaration Entry)
  | .declare predicate => some ⟨predicate, latestSwitch before⟩
  | .newPhase | .extendPhase | .skipUntilFirst => none

/-- What some steps declare behind the steps before them. -/
def declarationsAfter (before : List (Step Entry)) :
    List (Step Entry) → List (Declaration Entry)
  | [] => []
  | step :: rest =>
    (step.declaration? before).toList ++ declarationsAfter (before ++ [step]) rest

def declarations (steps : List (Step Entry)) : List (Declaration Entry) :=
  declarationsAfter [] steps

theorem latestSwitch_concat (steps : List (Step Entry)) (step : Step Entry) :
    latestSwitch (steps ++ [step]) = step.switch?.getD (latestSwitch steps) := by
  rw [latestSwitch, latestSwitch, List.filterMap_append, List.getLast?_append]
  cases step <;> rfl

theorem declarationsAfter_append
    (before steps more : List (Step Entry)) :
    declarationsAfter before (steps ++ more) =
      declarationsAfter before steps ++ declarationsAfter (before ++ steps) more := by
  induction steps generalizing before with
  | nil => simp [declarationsAfter]
  | cons step rest induction =>
      rw [List.cons_append, declarationsAfter, declarationsAfter, induction,
        List.append_assoc, List.append_assoc, List.singleton_append]

/-- Of the steps before, only the switch that they leave counts. -/
theorem declarationsAfter_congr
    {before other : List (Step Entry)}
    (same : latestSwitch before = latestSwitch other) (steps : List (Step Entry)) :
    declarationsAfter before steps = declarationsAfter other steps := by
  induction steps generalizing before other with
  | nil => rfl
  | cons step rest induction =>
      have declared : step.declaration? before = step.declaration? other := by
        cases step <;> simp [Step.declaration?, same]
      have switched : latestSwitch (before ++ [step]) = latestSwitch (other ++ [step]) := by
        rw [latestSwitch_concat, latestSwitch_concat, same]
      rw [declarationsAfter, declarationsAfter, declared, induction switched]

theorem declarations_concat (steps : List (Step Entry)) (step : Step Entry) :
    declarations (steps ++ [step]) =
      declarations steps ++ (step.declaration? steps).toList := by
  rw [declarations, declarationsAfter_append, declarationsAfter, declarationsAfter,
    List.nil_append, List.append_nil]
  rfl

/-! ## Groups of declarations -/

/-- A group written out: its first member starts it and the others extend it. -/
def PhaseGroup.declarations (group : PhaseGroup Entry) : List (Declaration Entry) :=
  ⟨group.first, .newPhase⟩ ::
    group.others.map fun predicate => ⟨predicate, .extendPhase⟩

/--
Whether the groups, written out one after the other, are the declarations
without those that extend before anything was started.
-/
def Declares (declared : List (Declaration Entry)) (groups : List (PhaseGroup Entry)) :
    Prop :=
  ∃ dropped,
    (∀ declaration ∈ dropped, declaration.chain = .extendPhase) ∧
      declared = dropped ++ groups.flatMap PhaseGroup.declarations

namespace Declares

variable {declared : List (Declaration Entry)} {groups : List (PhaseGroup Entry)}
variable {group : PhaseGroup Entry}

theorem nil : Declares ([] : List (Declaration Entry)) [] :=
  ⟨[], by simp, rfl⟩

/-- A predicate that starts a phase opens a group. -/
theorem start (declares : Declares declared groups) (predicate : Predicate Entry) :
    Declares (declared ++ [⟨predicate, .newPhase⟩]) (groups ++ [{ first := predicate }]) := by
  rcases declares with ⟨dropped, extending, rfl⟩
  refine ⟨dropped, extending, ?_⟩
  simp [PhaseGroup.declarations]

/-- A predicate that extends joins the last group. -/
theorem join
    (declares : Declares declared (groups ++ [group])) (predicate : Predicate Entry) :
    Declares (declared ++ [⟨predicate, .extendPhase⟩]) (groups ++ [group.push predicate]) := by
  rcases declares with ⟨dropped, extending, rfl⟩
  refine ⟨dropped, extending, ?_⟩
  simp [PhaseGroup.declarations, PhaseGroup.push]

/-- Without a group, a predicate that extends is dropped. -/
theorem drop (declares : Declares declared []) (predicate : Predicate Entry) :
    Declares (declared ++ [⟨predicate, .extendPhase⟩]) [] := by
  rcases declares with ⟨dropped, extending, rfl⟩
  refine ⟨dropped ++ [⟨predicate, .extendPhase⟩], ?_, by simp⟩
  intro declaration member
  rcases List.mem_append.1 member with earlier | last
  · exact extending declaration earlier
  · rw [List.mem_singleton.1 last]

theorem ne_nil_of_groups (declares : Declares declared groups) (some : groups ≠ []) :
    declared ≠ [] := by
  rcases declares with ⟨dropped, _, rfl⟩
  rcases List.exists_cons_of_ne_nil some with ⟨first, later, rfl⟩
  simp [PhaseGroup.declarations]

/-- A lead that extends is told apart from the groups behind it. -/
theorem dropWhile_append_flatMap
    {lead : List (Declaration Entry)}
    (extending : ∀ declaration ∈ lead, declaration.chain = .extendPhase)
    (groups : List (PhaseGroup Entry)) :
    (lead ++ groups.flatMap PhaseGroup.declarations).dropWhile
        (fun declaration => declaration.chain = .extendPhase) =
      groups.flatMap PhaseGroup.declarations := by
  rw [List.dropWhile_append_of_pos (by simpa using extending)]
  cases groups with
  | nil => rfl
  | cons first later => rfl

theorem flatMap_injective
    {groups others : List (PhaseGroup Entry)}
    (same :
      groups.flatMap PhaseGroup.declarations =
        others.flatMap PhaseGroup.declarations) :
    groups = others := by
  induction groups generalizing others with
  | nil =>
      cases others with
      | nil => rfl
      | cons first later => simp [PhaseGroup.declarations] at same
  | cons group rest induction =>
      cases others with
      | nil => simp [PhaseGroup.declarations] at same
      | cons other later =>
          rcases group with ⟨first, members⟩
          rcases other with ⟨otherFirst, otherMembers⟩
          simp only [List.flatMap_cons, PhaseGroup.declarations, List.cons_append,
            List.cons.injEq, Declaration.mk.injEq, and_true] at same
          rcases same with ⟨rfl, behind⟩
          have extending :
              ∀ predicates : List (Predicate Entry),
                ∀ declaration ∈
                    predicates.map (fun predicate => (⟨predicate, .extendPhase⟩ : Declaration Entry)),
                  declaration.chain = .extendPhase := by
            simp
          -- The others of the first group end where the next group starts.
          have remaining := congrArg
            (List.dropWhile fun declaration : Declaration Entry =>
              declaration.chain = .extendPhase) behind
          rw [dropWhile_append_flatMap (extending members),
            dropWhile_append_flatMap (extending otherMembers)] at remaining
          rw [remaining, List.append_cancel_right_eq] at behind
          have equal : members = otherMembers := by
            apply (List.map_inj_right _).1 behind
            intro predicate otherPredicate written
            exact congrArg Declaration.predicate written
          rw [equal, induction remaining]

/-- Declarations are written out by one list of groups only. -/
theorem unique
    {others : List (PhaseGroup Entry)}
    (declares : Declares declared groups) (other : Declares declared others) :
    groups = others := by
  rcases declares with ⟨dropped, extending, rfl⟩
  rcases other with ⟨otherDropped, otherExtending, same⟩
  apply flatMap_injective
  calc
    groups.flatMap PhaseGroup.declarations =
        (dropped ++ groups.flatMap PhaseGroup.declarations).dropWhile
          (fun declaration => declaration.chain = .extendPhase) :=
      (dropWhile_append_flatMap extending groups).symm
    _ = (otherDropped ++ others.flatMap PhaseGroup.declarations).dropWhile
          (fun declaration => declaration.chain = .extendPhase) := by rw [same]
    _ = others.flatMap PhaseGroup.declarations :=
      dropWhile_append_flatMap otherExtending others

end Declares

/-- The misuse that the first predicate is to blame for, if it extends. -/
def misuseOf : List (Declaration Entry) → Option Misuse
  | ⟨predicate, .extendPhase⟩ :: _ => some (.extendWithoutPhase predicate.name)
  | _ => none

theorem misuseOf_eq_some_iff
    {declared : List (Declaration Entry)} {cause : Misuse} :
    misuseOf declared = some cause ↔
      ∃ predicate rest,
        declared = ⟨predicate, .extendPhase⟩ :: rest ∧
          cause = .extendWithoutPhase predicate.name := by
  constructor
  · intro blamed
    unfold misuseOf at blamed
    split at blamed
    · next predicate rest =>
        cases blamed
        exact ⟨predicate, rest, rfl, rfl⟩
    · cases blamed
  · rintro ⟨predicate, rest, rfl, rfl⟩
    rfl

/-- A predicate that starts a phase is not to blame, not even the first one. -/
theorem misuseOf_concat_start
    (declared : List (Declaration Entry)) (predicate : Predicate Entry) :
    misuseOf (declared ++ [⟨predicate, .newPhase⟩]) = misuseOf declared := by
  cases declared with
  | nil => rfl
  | cons first rest =>
      rcases first with ⟨earlier, chain⟩
      cases chain <;> rfl

theorem misuseOf_append
    {declared : List (Declaration Entry)} (made : declared ≠ [])
    (more : List (Declaration Entry)) :
    misuseOf (declared ++ more) = misuseOf declared := by
  rcases List.exists_cons_of_ne_nil made with ⟨⟨predicate, chain⟩, rest, rfl⟩
  cases chain <;> rfl

theorem Declares.misuseOf_concat
    {declared : List (Declaration Entry)} (declares : Declares declared [])
    (predicate : Predicate Entry) :
    misuseOf (declared ++ [⟨predicate, .extendPhase⟩]) =
      (misuseOf declared).or (some (.extendWithoutPhase predicate.name)) := by
  rcases declares with ⟨dropped, extending, rfl⟩
  cases dropped with
  | nil => rfl
  | cons first rest =>
      rcases first with ⟨earlier, chain⟩
      obtain rfl : chain = .extendPhase := extending _ List.mem_cons_self
      rfl

/-! ## Assembled subjects -/

variable [Snapshot Entry]

/-- What holds of a subject once some steps have been taken. -/
structure Assembled
    (trace : Trace Entry) (steps : List (Step Entry)) (subject : Subject Entry) :
    Prop where
  trace_eq : subject.trace = trace
  chain_eq : subject.chain = latestSwitch steps
  declares : Declares (declarations steps) subject.checker.groups
  unopened : subject.checker.opened = none → subject.checker.groups = []
  misuse_eq : subject.misuse = misuseOf (declarations steps)
  skipUntilFirst_eq : subject.checker.skipUntilFirst = steps.any Step.skips
  mode_eq : subject.checker.mode = .allEntries
  range_eq : subject.checker.range = none

namespace Assembled

variable {trace : Trace Entry} {steps : List (Step Entry)} {subject : Subject Entry}

theorem start (trace : Trace Entry) : Assembled trace [] (.ofTrace trace) :=
  ⟨rfl, rfl, .nil, fun _ => rfl, rfl, rfl, rfl, rfl⟩

theorem chain_eq_concat
    (assembled : Assembled trace steps subject) {step : Step Entry}
    (unswitching : step.switch? = none) :
    subject.chain = latestSwitch (steps ++ [step]) := by
  rw [latestSwitch_concat, unswitching]
  exact assembled.chain_eq

theorem declarations_declare
    (assembled : Assembled trace steps subject) (predicate : Predicate Entry) :
    declarations (steps ++ [.declare predicate]) =
      declarations steps ++ [⟨predicate, subject.chain⟩] := by
  rw [declarations_concat, Step.declaration?, assembled.chain_eq]
  rfl

theorem any_skips_concat
    (assembled : Assembled trace steps subject) {step : Step Entry}
    (unskipping : step.skips = false) :
    subject.checker.skipUntilFirst = (steps ++ [step]).any Step.skips := by
  rw [List.any_append, ← assembled.skipUntilFirst_eq]
  simp [unskipping]

theorem declare_start
    (assembled : Assembled trace steps subject) (starts : subject.chain = .newPhase)
    (predicate : Predicate Entry) :
    Assembled trace (steps ++ [.declare predicate])
      { subject with checker := subject.checker.add predicate } := by
  have declared := assembled.declarations_declare predicate
  rw [starts] at declared
  refine
    { assembled with
      chain_eq := assembled.chain_eq_concat rfl
      declares := ?_, unopened := ?_, misuse_eq := ?_
      skipUntilFirst_eq := assembled.any_skips_concat rfl }
  · rw [declared, Checker.groups_add]
    exact assembled.declares.start predicate
  · intro unopened
    cases unopened
  · rw [declared, misuseOf_concat_start]
    exact assembled.misuse_eq

theorem declare_join
    (assembled : Assembled trace steps subject) (extending : subject.chain = .extendPhase)
    {group : PhaseGroup Entry} (opened : subject.checker.opened = some group)
    (predicate : Predicate Entry) :
    Assembled trace (steps ++ [.declare predicate])
      { subject with
        checker := { subject.checker with opened := some (group.push predicate) } } := by
  have declared := assembled.declarations_declare predicate
  rw [extending] at declared
  have groups : subject.checker.groups = subject.checker.complete ++ [group] := by
    simp [Checker.groups, opened]
  have declares := assembled.declares
  rw [groups] at declares
  refine
    { assembled with
      chain_eq := assembled.chain_eq_concat rfl
      declares := ?_, unopened := ?_, misuse_eq := ?_
      skipUntilFirst_eq := assembled.any_skips_concat rfl }
  · rw [declared]
    exact declares.join predicate
  · intro unopened
    cases unopened
  · rw [declared, misuseOf_append (declares.ne_nil_of_groups (by simp))]
    exact assembled.misuse_eq

theorem declare_drop
    (assembled : Assembled trace steps subject) (extending : subject.chain = .extendPhase)
    (unopened : subject.checker.opened = none) (predicate : Predicate Entry) :
    Assembled trace (steps ++ [.declare predicate])
      { subject with
        misuse := subject.misuse.or (some (.extendWithoutPhase predicate.name)) } := by
  have declared := assembled.declarations_declare predicate
  rw [extending] at declared
  have undeclared := assembled.unopened unopened
  have declares := assembled.declares
  rw [undeclared] at declares
  refine
    { assembled with
      chain_eq := assembled.chain_eq_concat rfl
      declares := ?_, misuse_eq := ?_
      skipUntilFirst_eq := assembled.any_skips_concat rfl }
  · rw [declared, undeclared]
    exact declares.drop predicate
  · rw [declared, declares.misuseOf_concat, ← assembled.misuse_eq]

theorem declare
    (assembled : Assembled trace steps subject) (predicate : Predicate Entry) :
    Assembled trace (steps ++ [.declare predicate]) (subject.declare predicate) := by
  cases chain : subject.chain with
  | newPhase =>
      have started :
          subject.declare predicate =
            { subject with checker := subject.checker.add predicate } := by
        rw [Subject.declare, chain]
      rw [started]
      exact assembled.declare_start chain predicate
  | extendPhase =>
      cases opened : subject.checker.opened with
      | none =>
          have dropped :
              subject.declare predicate =
                { subject with
                  misuse := subject.misuse.or (some (.extendWithoutPhase predicate.name)) } := by
            rw [Subject.declare, chain, Checker.append, opened]
          rw [dropped]
          exact assembled.declare_drop chain opened predicate
      | some group =>
          have joined :
              subject.declare predicate =
                { subject with
                  checker := { subject.checker with opened := some (group.push predicate) } } := by
            rw [Subject.declare, chain, Checker.append, opened]
          rw [joined]
          exact assembled.declare_join chain opened predicate

theorem switch
    (assembled : Assembled trace steps subject) {step : Step Entry} {chain : Chain}
    (sets : step.switch? = some chain) (silent : step.declaration? steps = none)
    (unskipping : step.skips = false) :
    Assembled trace (steps ++ [step]) { subject with chain } := by
  have declared : declarations (steps ++ [step]) = declarations steps := by
    simp [declarations_concat, silent]
  refine
    { assembled with
      chain_eq := ?_, declares := ?_, misuse_eq := ?_
      skipUntilFirst_eq := assembled.any_skips_concat unskipping }
  · rw [latestSwitch_concat, sets]
    rfl
  · rw [declared]
    exact assembled.declares
  · rw [declared]
    exact assembled.misuse_eq

theorem step
    (assembled : Assembled trace steps subject) (step : Step Entry) :
    Assembled trace (steps ++ [step]) (subject.step step) := by
  cases step with
  | declare predicate => exact assembled.declare predicate
  | newPhase => exact assembled.switch rfl rfl rfl
  | extendPhase => exact assembled.switch rfl rfl rfl
  | skipUntilFirst =>
      have declared : declarations (steps ++ [.skipUntilFirst]) = declarations steps := by
        simp [declarations_concat, Step.declaration?]
      refine
        { assembled with
          chain_eq := assembled.chain_eq_concat rfl
          declares := ?_, misuse_eq := ?_, skipUntilFirst_eq := ?_ }
      · rw [declared]
        exact assembled.declares
      · rw [declared]
        exact assembled.misuse_eq
      · simp [Subject.step, Checker.skippingUntilFirst, Step.skips]

/-- Whatever the steps are, they lead to an assembled subject. -/
theorem build (trace : Trace Entry) (steps : List (Step Entry)) :
    Assembled trace steps ((Subject.ofTrace trace).build steps) := by
  -- What a predicate joins depends on the steps before it, so they grow at the end.
  induction steps using List.reverseRecOn with
  | nil => exact .start trace
  | append_singleton steps step induction =>
      rw [Subject.build, List.foldl_append]
      exact induction.step step

end Assembled

/-! ## Verifications of assembled subjects -/

namespace Subject

theorem misuse_build_append
    {trace : Trace Entry} {steps : List (Step Entry)} {cause : Misuse}
    (misused : ((ofTrace trace).build steps).misuse = some cause)
    (more : List (Step Entry)) :
    ((ofTrace trace).build (steps ++ more)).misuse = some cause := by
  rw [(Assembled.build trace steps).misuse_eq] at misused
  rw [(Assembled.build trace (steps ++ more)).misuse_eq, declarations,
    declarationsAfter_append]
  have made : declarations steps ≠ [] := by
    intro nothing
    rw [nothing] at misused
    cases misused
  exact (misuseOf_append made _).trans misused

/--
A subject holds the groups that its steps declare, and the misuse that the first
declared predicate is to blame for.  A range out of order is reported before
that misuse, and neither asks a predicate; without them, a verification tells
what a checker with these groups finds.
-/
theorem verify_build (trace : Trace Entry) (steps : List (Step Entry)) :
    (∀ groups,
      ((ofTrace trace).build steps).checker.groups = groups ↔
        Declares (declarations steps) groups) ∧
    (∀ cause,
      ((ofTrace trace).build steps).misuse = some cause ↔
        ∃ predicate rest,
          declarations steps = ⟨predicate, .extendPhase⟩ :: rest ∧
            cause = .extendWithoutPhase predicate.name) ∧
    (∀ cause more,
      ((ofTrace trace).build steps).misuse = some cause →
        ((ofTrace trace).build (steps ++ more)).misuse = some cause) ∧
    (∀ first last : Int64, last < first →
      (((ofTrace trace).build steps).verify (.between first last)).result =
          .error (.misuse (.invertedRange first last)) ∧
        (((ofTrace trace).build steps).verify (.between first last)).calls = []) ∧
    ∀ scope : Scope, ¬ scope.Inverted →
      (∀ cause, ((ofTrace trace).build steps).misuse = some cause →
        (((ofTrace trace).build steps).verify scope).result = .error (.misuse cause) ∧
          (((ofTrace trace).build steps).verify scope).calls = []) ∧
      (((ofTrace trace).build steps).misuse = none →
        ∀ engine : Checker Entry,
          engine.Configured ((ofTrace trace).build steps).checker.groups
              (steps.any Step.skips) scope.mode scope.range? →
            Tells (((ofTrace trace).build steps).verify scope).result
              (engine.test trace.entries)) := by
  have assembled := Assembled.build trace steps
  refine ⟨?_, ?_, ?_, ?_, ?_⟩
  · intro groups
    constructor
    · rintro rfl
      exact assembled.declares
    · exact assembled.declares.unique
  · intro cause
    rw [assembled.misuse_eq, misuseOf_eq_some_iff]
  · intro cause more misused
    exact misuse_build_append misused more
  · intro first last inverted
    rw [verify_inverted _ inverted]
    exact ⟨rfl, rfl⟩
  · intro scope ordered
    constructor
    · intro cause misused
      rw [verify_misused ordered assembled.mode_eq assembled.range_eq misused]
      exact ⟨rfl, rfl⟩
    · intro proper engine configured
      rw [← assembled.skipUntilFirst_eq] at configured
      have tells := tells_verify ordered assembled.mode_eq assembled.range_eq proper configured
      rw [assembled.trace_eq] at tells
      exact tells

/-- Steps that extend before a phase was started. -/
def hastySteps : List (Step WindowManagerEntry) :=
  [ .extendPhase, .declare (WindowAssertion.predicate ⟨.layer .app, true⟩ "W"),
    .skipUntilFirst, .newPhase,
    .declare (WindowAssertion.predicate ⟨.layer .app, false⟩ "W") ]

/-- Steps that declare a phase of two predicates behind one of a single predicate. -/
def orderlySteps : List (Step WindowManagerEntry) :=
  [ .declare (WindowAssertion.predicate ⟨.layer .app, false⟩ "W"),
    .skipUntilFirst, .extendPhase, .newPhase,
    .declare (WindowAssertion.predicate ⟨.layer .app, true⟩ "W"), .extendPhase,
    .declare (WindowAssertion.predicate ⟨.appOnTop, true⟩ "W") ]

theorem flickeringTrace_verified :
    (((ofTrace Checker.flickeringTrace).build (hastySteps ++ orderlySteps)).misuse =
        some (.extendWithoutPhase "shows_app_window(W)") ∧
      (((ofTrace Checker.flickeringTrace).build hastySteps).verify .lastEntry).result =
        .error (.misuse (.extendWithoutPhase "shows_app_window(W)")) ∧
      (((ofTrace Checker.flickeringTrace).build hastySteps).verify (.between 4 1)).result =
        .error (.misuse (.invertedRange 4 1))) ∧
    Tells (((ofTrace Checker.flickeringTrace).build orderlySteps).verify (.between 1 4)).result
      ((((ofTrace Checker.flickeringTrace).build orderlySteps).checker.withinRange
        ⟨1, 4, by decide⟩).test Checker.flickeringTrace.entries) := by
  have misused :
      ((ofTrace Checker.flickeringTrace).build hastySteps).misuse =
        some (.extendWithoutPhase "shows_app_window(W)") := by
    decide
  have ordered : ¬ (Scope.between 1 4).Inverted := by
    rw [Scope.Inverted]
    decide
  rcases verify_build Checker.flickeringTrace hastySteps with
    ⟨_, _, kept, inverted, terminal⟩
  rcases verify_build Checker.flickeringTrace orderlySteps with ⟨_, _, _, _, proper⟩
  refine ⟨⟨kept _ orderlySteps misused, ?_, ?_⟩, ?_⟩
  · exact ((terminal .lastEntry id).1 _ misused).1
  · exact (inverted 4 1 (by decide)).1
  · exact (proper (.between 1 4) ordered).2 rfl _ ⟨rfl, rfl, rfl, rfl⟩

end Subject

end PhaseAssertions
