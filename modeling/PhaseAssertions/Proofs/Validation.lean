import PhaseAssertions.Plan.Load
import PhaseAssertions.Proofs.Resolution

/-!
# Validated plan files

Validation and resolution read a plan file independently of one another.  This
module says in terms of the file alone when validation has no errors to report,
and that resolution then goes through, step by step: each step of the file
becomes one assertion of the plan.

So a text that is loaded either gives a plan or is answered with the errors of
its file, and what resolution has to say about unknown names and missing ranges
is never seen.  A blank text is refused before it is decoded, although it spells
the plan file that has nothing but defaults.
-/

namespace PhaseAssertions

/-! ## Well-formed plan files -/

/-- Whether a step is a single pair of a known name and a window that is not blank. -/
def TextMap.IsAssertion (step : TextMap) : Prop :=
  ∃ key window,
    step.pairs = [(key, window)] ∧ key ∈ WindowAssertion.names ∧
      ∃ character ∈ window.toList, Text.isBlank character = false

/-- What a plan file has to be like to be used. -/
structure PlanFile.WellFormed (limits : Limits) (file : PlanFile) : Prop where
  declares : file.phases ≠ []
  bounded : file.phases.length ≤ limits.maxPhases
  phases : ∀ phase ∈ file.phases, phase ≠ [] ∧ ∀ step ∈ phase, step.IsAssertion
  range : file.RangeGiven

namespace PlanFile

variable {limits : Limits} {file : PlanFile} {plan : Plan}

theorem rangeErrors_eq_nil_iff (file : PlanFile) :
    file.rangeErrors = [] ↔ file.RangeGiven := by
  unfold rangeErrors RangeGiven
  cases mode : file.mode with
  | all => simp
  | first => simp
  | last => simp
  | range =>
      cases given : file.range with
      | none => simp
      | some range =>
          by_cases inverted : range.last < range.first
          · have disordered : ¬ range.first ≤ range.last := Int64.not_le.2 inverted
            simp [inverted, disordered]
          · have ordered : range.first ≤ range.last := Int64.not_lt.1 inverted
            simp [inverted, ordered]

theorem isBlankText_eq_false_iff (text : String) :
    Text.isBlankText text = false ↔
      ∃ character ∈ text.toList, Text.isBlank character = false := by
  rw [Text.isBlankText, List.all_eq_false]
  simp

theorem stepErrors_eq_nil_iff (path : String) (step : TextMap) :
    stepErrors path step = [] ↔ step.IsAssertion := by
  unfold stepErrors TextMap.IsAssertion
  split
  · next name window single =>
      rw [List.append_eq_nil_iff, single]
      have known : (∃ assertion, WindowAssertion.ofName name = .ok assertion) ↔
          name ∈ WindowAssertion.names := by
        simp only [WindowAssertion.ofName_eq_ok_iff, WindowAssertion.mem_names_iff]
      have titled := isBlankText_eq_false_iff window
      cases parsed : WindowAssertion.ofName name with
      | error unknown =>
          have unlisted : name ∉ WindowAssertion.names := by
            rw [← known, parsed]
            simp
          simp [unlisted]
      | ok assertion =>
          have listed := known.1 ⟨assertion, parsed⟩
          simp [listed, ← titled]
  · next other =>
      simp only [List.cons_ne_self, false_iff, not_exists]
      rintro name window ⟨single, _⟩
      exact other name window single

theorem stepsErrors_eq_nil_iff (phase position : Nat) (steps : List TextMap) :
    stepsErrors phase position steps = [] ↔ ∀ step ∈ steps, step.IsAssertion := by
  induction steps generalizing position with
  | nil => simp [stepsErrors]
  | cons step rest induction =>
      rw [stepsErrors, List.append_eq_nil_iff, stepErrors_eq_nil_iff, induction,
        List.forall_mem_cons]

theorem phaseErrors_eq_nil_iff (position : Nat) (phase : PhaseSpec) :
    phaseErrors position phase = [] ↔
      phase ≠ [] ∧ ∀ step ∈ phase, step.IsAssertion := by
  unfold phaseErrors
  cases phase with
  | nil => simp
  | cons step rest => simp [stepsErrors_eq_nil_iff]

theorem phasesErrors_eq_nil_iff (position : Nat) (phases : List PhaseSpec) :
    phasesErrors position phases = [] ↔
      ∀ phase ∈ phases, phase ≠ [] ∧ ∀ step ∈ phase, step.IsAssertion := by
  induction phases generalizing position with
  | nil => simp [phasesErrors]
  | cons phase rest induction =>
      rw [phasesErrors, List.append_eq_nil_iff, phaseErrors_eq_nil_iff, induction,
        List.forall_mem_cons]

theorem countErrors_eq_nil_iff (limits : Limits) (file : PlanFile) :
    file.countErrors limits = [] ↔ file.phases.length ≤ limits.maxPhases := by
  unfold countErrors
  split
  · next exceeded => simp [exceeded]
  · next within => simpa using within

/-- Validation has no errors to report exactly if the file is well-formed. -/
theorem errors_eq_nil_iff (limits : Limits) (file : PlanFile) :
    file.errors limits = [] ↔ file.WellFormed limits := by
  rw [errors, List.append_eq_nil_iff, rangeErrors_eq_nil_iff]
  by_cases undeclared : file.phases = []
  · have refused : ¬ file.WellFormed limits := fun formed => formed.declares undeclared
    simp [undeclared, refused]
  · have declares : file.phases.isEmpty = false := by simpa using undeclared
    simp only [declares, Bool.false_eq_true, if_false, List.append_eq_nil_iff,
      countErrors_eq_nil_iff, phasesErrors_eq_nil_iff]
    constructor
    · rintro ⟨range, bounded, phases⟩
      exact ⟨undeclared, bounded, phases, range⟩
    · intro formed
      exact ⟨formed.range, formed.bounded, formed.phases⟩

end PlanFile

/-! ## Plans of well-formed files -/

/-- Whether a step is the key of an assertion, with the window that it is about. -/
def TextMap.Spells (step : TextMap) (resolved : PlanAssertion) : Prop :=
  ∃ key,
    step.pairs = [(key, resolved.window)] ∧
      WindowAssertion.ofName key = .ok resolved.assertion

/-- Steps of one pair each are resolved one by one. -/
theorem TextMap.forall₂_spells
    {phase : PhaseSpec} {resolved : List PlanAssertion}
    (formed : ∀ step ∈ phase, step.IsAssertion)
    (same : resolved.map PlanAssertion.pair = phase.flatMap TextMap.pairs) :
    List.Forall₂ TextMap.Spells phase resolved := by
  induction phase generalizing resolved with
  | nil =>
      obtain rfl : resolved = [] := by simpa using same
      exact .nil
  | cons step rest induction =>
      rcases formed step List.mem_cons_self with ⟨key, window, single, _, _⟩
      rw [List.flatMap_cons, single, List.singleton_append] at same
      cases resolved with
      | nil => cases same
      | cons first others =>
          rw [List.map_cons, List.cons.injEq] at same
          rcases same with ⟨paired, later⟩
          have remaining : ∀ step ∈ rest, step.IsAssertion := by
            intro other member
            exact formed other (List.mem_cons_of_mem step member)
          have spelled : step.Spells first := by
            refine ⟨first.assertion.name, ?_, WindowAssertion.ofName_eq_ok_iff.2 rfl⟩
            rw [single, ← paired]
            rfl
          exact .cons spelled (induction remaining later)

namespace PlanFile

variable {limits : Limits} {file : PlanFile} {plan : Plan}

theorem WellFormed.exists_resolve (formed : file.WellFormed limits) :
    ∃ plan, file.resolve = .ok plan := by
  rw [exists_resolve_iff]
  refine ⟨formed.range, ?_⟩
  intro phase member step inside pair paired
  rcases (formed.phases phase member).2 step inside with ⟨key, window, single, listed, _⟩
  rw [single, List.mem_singleton] at paired
  rw [paired]
  exact WindowAssertion.mem_names_iff.1 listed

theorem WellFormed.forall₂_spells
    (formed : file.WellFormed limits) (resolved : file.resolve = .ok plan) :
    List.Forall₂ (List.Forall₂ TextMap.Spells) file.phases plan.phases := by
  have stands := resolve_eq_ok_iff.1 resolved
  have related :
      List.Forall₂
        (fun phase others =>
          (∀ step ∈ phase, step.IsAssertion) ∧
            others.map PlanAssertion.pair = phase.flatMap TextMap.pairs)
        file.phases plan.phases := by
    rw [List.forall₂_and_left]
    constructor
    · intro phase member
      exact (formed.phases phase member).2
    · exact map_eq_map_iff_forall₂.1 stands.phases
  apply related.imp
  rintro phase others ⟨steps, same⟩
  exact TextMap.forall₂_spells steps same

/-! ## Loaded texts -/

theorem exists_toPlan_eq_ok
    (formed : file.WellFormed limits) (path : String) :
    ∃ loaded, file.toPlan limits path = .ok loaded := by
  have valid := (errors_eq_nil_iff limits file).2 formed
  rcases formed.exists_resolve with ⟨plan, resolved⟩
  simp [toPlan, validate, Validation.hasErrors, valid, resolved]

theorem toPlan_eq_invalid
    (malformed : ¬ file.WellFormed limits) (path : String) :
    file.errors limits ≠ [] ∧
      file.toPlan limits path = .error (.invalid path (file.errors limits)) := by
  rw [← errors_eq_nil_iff] at malformed
  refine ⟨malformed, ?_⟩
  simp [toPlan, validate, Validation.hasErrors, malformed]

theorem ofText_eq_toPlan
    {text : String}
    (visible : Text.isBlankText (Plan.withoutMark text) = false)
    (decoded : ofYaml (Plan.withoutMark text) = .ok file) (path : String) :
    Plan.ofText limits path text = file.toPlan limits path := by
  simp [Plan.ofText, visible, decoded]

/--
Validation has no errors to report exactly for well-formed files, and these
resolve step by step.  A text that decodes is loaded or answered with errors of
its file, unless it is blank and so refused as such.
-/
theorem validated_resolves_and_loads (limits : Limits) (file : PlanFile) :
    ((file.validate limits).errors = [] ↔ file.WellFormed limits) ∧
      ((file.validate limits).errors = [] →
        ∃ plan, file.resolve = .ok plan ∧
          List.Forall₂ (List.Forall₂ TextMap.Spells) file.phases plan.phases) ∧
      ∀ path text, ofYaml (Plan.withoutMark text) = .ok file →
        (Text.isBlankText (Plan.withoutMark text) = true →
          Plan.ofText limits path text = .error (.blank path)) ∧
        (Text.isBlankText (Plan.withoutMark text) = false →
          (∃ loaded, Plan.ofText limits path text = .ok loaded) ∨
            ∃ issues, issues ≠ [] ∧
              Plan.ofText limits path text = .error (.invalid path issues)) ∧
        (∀ unknown,
          Plan.ofText limits path text ≠ .error (.unknownAssertion unknown)) ∧
        Plan.ofText limits path text ≠ .error (.invalid "range" []) := by
  refine ⟨errors_eq_nil_iff limits file, ?_, ?_⟩
  · intro valid
    have formed := (errors_eq_nil_iff limits file).1 valid
    rcases formed.exists_resolve with ⟨plan, resolved⟩
    exact ⟨plan, resolved, formed.forall₂_spells resolved⟩
  · intro path text decoded
    cases blank : Text.isBlankText (Plan.withoutMark text) with
    | true =>
        have refused : Plan.ofText limits path text = .error (.blank path) := by
          simp [Plan.ofText, blank]
        simp [refused]
    | false =>
        rw [ofText_eq_toPlan blank decoded]
        by_cases formed : file.WellFormed limits
        · rcases exists_toPlan_eq_ok formed path with ⟨loaded, converted⟩
          simp [converted]
        · rcases toPlan_eq_invalid formed path with ⟨reported, refused⟩
          simp [refused, reported]

/-- A plan that waits for a keyboard to come and to go. -/
def keyboardText : String :=
  "phases: [[shows_ime_window: K], [hides_ime_window: K]]"

/-- The plan file that `keyboardText` spells. -/
def keyboardFile : PlanFile :=
  { phases :=
      [ [{ pairs := [("shows_ime_window", "K")] }],
        [{ pairs := [("hides_ime_window", "K")] }] ] }

theorem keyboardText_loads :
    (keyboardFile.validate {}).errors = [] ∧
      keyboardFile.WellFormed {} ∧
      (∃ plan, keyboardFile.resolve = .ok plan ∧
        List.Forall₂ (List.Forall₂ TextMap.Spells) keyboardFile.phases
          plan.phases) ∧
      ofYaml (Plan.withoutMark keyboardText) = .ok keyboardFile ∧
      Text.isBlankText (Plan.withoutMark keyboardText) = false ∧
      ((∃ loaded, Plan.ofText {} "plan.yaml" keyboardText = .ok loaded) ∨
        ∃ issues, issues ≠ [] ∧
          Plan.ofText {} "plan.yaml" keyboardText =
            .error (.invalid "plan.yaml" issues)) := by
  rcases validated_resolves_and_loads {} keyboardFile with
    ⟨valid_iff, resolves, loads⟩
  have valid : (keyboardFile.validate {}).errors = [] := by decide
  have decoded :
      ofYaml (Plan.withoutMark keyboardText) = .ok keyboardFile := by
    decide +kernel
  have visible :
      Text.isBlankText (Plan.withoutMark keyboardText) = false := by
    decide +kernel
  exact
    ⟨valid, valid_iff.1 valid, resolves valid, decoded, visible,
      (loads "plan.yaml" keyboardText decoded).2.1 visible⟩

/-- The empty text spells the plan file without phases, but is refused as blank. -/
theorem empty_text_refused :
    ¬ ∀ (limits : Limits) (path text : String) (file : PlanFile),
        ofYaml (Plan.withoutMark text) = .ok file →
          (∃ loaded, Plan.ofText limits path text = .ok loaded) ∨
            ∃ issues, issues ≠ [] ∧
              Plan.ofText limits path text = .error (.invalid path issues) := by
  intro claimed
  have decoded : ofYaml (Plan.withoutMark "") = .ok {} := by decide +kernel
  have refused : Plan.ofText {} "plan.yaml" "" = .error (.blank "plan.yaml") := rfl
  rcases claimed {} "plan.yaml" "" {} decoded with ⟨loaded, accepted⟩ | ⟨issues, _, invalid⟩
  · rw [refused] at accepted
    cases accepted
  · rw [refused] at invalid
    cases invalid

end PlanFile

end PhaseAssertions
