import PhaseAssertions.Proofs.PhaseName

/-!
# Errors phase by phase

The errors of a plan file are those of its parts, one part after the other: the
range, the number of phases, and the phases, each of which is put together from
its steps in the same way.  What is reported about a part depends on this part
and on the place where it stands, and on nothing else.

So another phase in the place of one changes the errors about this place and
leaves all others as they are; and a validator has nothing to remember from one
plan file for the next one.
-/

namespace PhaseAssertions

/-! ## What is reported about a part -/

namespace PlanFile

/-- The errors of the mode together with the range. -/
inductive RangeReport (file : PlanFile) : List PlanIssue → Prop where
  | missing (mode : file.mode = .range) (absent : file.range = none) :
      RangeReport file [errorAt "range" "mode 'range' requires a range"]
  | inverted (range : RangeSpec) (mode : file.mode = .range) (given : file.range = some range)
      (inverted : range.last < range.first) :
      RangeReport file
        [ errorAt "range"
            ("start " ++ toString range.first.toInt ++ " is after end " ++
              toString range.last.toInt) ]
  | fine (given : file.RangeGiven) : RangeReport file []

/-- The errors of the number of phases. -/
inductive CountReport (limits : Limits) (file : PlanFile) : List PlanIssue → Prop where
  | exceeded (exceeds : limits.maxPhases < file.phases.length) :
      CountReport limits file
        [ errorAt "phases"
            ("plan declares " ++ toString file.phases.length ++ " phases (limit: " ++
              toString limits.maxPhases ++ ")") ]
  | within (bounded : file.phases.length ≤ limits.maxPhases) : CountReport limits file []

/-- The errors of a step.  In a single pair, the name and the window are judged apart. -/
inductive StepReport (path : String) (step : TextMap) : List PlanIssue → Prop where
  | several (count : step.pairs.length ≠ 1) :
      StepReport path step
        [errorAt path "expected exactly one '<assertion>: <window>' pair"]
  | pair {name window : String} (single : step.pairs = [(name, window)]) :
      StepReport path step
        ((if name ∈ WindowAssertion.names then []
          else
            [ errorAt path
                (UnknownAssertion.message
                  { name, suggestion := WindowAssertion.suggest? name }) ]) ++
          if window.toList.all Text.isBlank then
            [errorAt path "window title is empty"]
          else [])

/-- The errors of the phase at a position: those of its steps in order, if it has any. -/
inductive PhaseReport (position : Nat) (phase : PhaseSpec) : List PlanIssue → Prop where
  | empty (bare : phase = []) :
      PhaseReport position phase [errorAt (phasePath position) "phase is empty"]
  | steps {reports : List (List PlanIssue)} (filled : phase ≠ [])
      (each :
        List.Forall₂ (fun placed => StepReport (stepPath position placed.2) placed.1)
          phase.zipIdx reports) :
      PhaseReport position phase reports.flatten

/-- The errors of a plan file with phases: those of its parts in order. -/
inductive ErrorReport (limits : Limits) (file : PlanFile) : List PlanIssue → Prop where
  | parts {range count : List PlanIssue} {reports : List (List PlanIssue)}
      (ofRange : file.RangeReport range) (ofCount : file.CountReport limits count)
      (each :
        List.Forall₂ (fun placed => PhaseReport placed.2 placed.1) file.phases.zipIdx
          reports) :
      ErrorReport limits file (range ++ count ++ reports.flatten)

/-! ## Validation reports so -/

variable {limits : Limits} {file : PlanFile} {issues : List PlanIssue}

theorem rangeReport_iff : file.RangeReport issues ↔ issues = file.rangeErrors := by
  constructor
  · intro report
    cases report with
    | missing mode absent => simp [rangeErrors, mode, absent]
    | inverted range mode given inverted => simp [rangeErrors, mode, given, inverted]
    | fine given => rw [(rangeErrors_eq_nil_iff file).2 given]
  · rintro rfl
    unfold rangeErrors
    split
    · next mode absent => exact .missing mode absent
    · next range mode given =>
        split
        · next inverted => exact .inverted range mode given inverted
        · next ordered => exact .fine fun _ => ⟨range, given, Int64.not_lt.1 ordered⟩
    · next unranged other =>
        refine .fine fun mode => ?_
        cases given : file.range with
        | none => exact (unranged mode given).elim
        | some range => exact (other range mode given).elim

theorem countReport_iff : file.CountReport limits issues ↔ issues = file.countErrors limits := by
  constructor
  · intro report
    cases report with
    | exceeded exceeds => rw [countErrors, if_pos exceeds]
    | within bounded => rw [countErrors, if_neg (Nat.not_lt.2 bounded)]
  · rintro rfl
    unfold countErrors
    split
    · next exceeds => exact .exceeded exceeds
    · next within => exact .within (Nat.not_lt.1 within)

theorem stepErrors_of_single
    {path name window : String} {step : TextMap} (single : step.pairs = [(name, window)]) :
    stepErrors path step =
      (if name ∈ WindowAssertion.names then []
        else
          [ errorAt path
              (UnknownAssertion.message
                { name, suggestion := WindowAssertion.suggest? name }) ]) ++
        if window.toList.all Text.isBlank then
          [errorAt path "window title is empty"]
        else [] := by
  simp only [stepErrors, single, Text.isBlankText]
  cases parsed : WindowAssertion.ofName name with
  | ok assertion =>
      have listed := WindowAssertion.mem_names_iff.2 ⟨_, WindowAssertion.ofName_eq_ok_iff.1 parsed⟩
      rw [if_pos listed]
      rfl
  | error unknown =>
      obtain ⟨unlisted, rfl⟩ := WindowAssertion.ofName_eq_error_iff.1 parsed
      rw [if_neg unlisted]
      rfl

theorem stepReport_iff {path : String} {step : TextMap} :
    StepReport path step issues ↔ issues = stepErrors path step := by
  constructor
  · intro report
    cases report with
    | several count =>
        unfold stepErrors
        split
        · next single => simp [single] at count
        · rfl
    | @pair name window single =>
        rw [stepErrors_of_single single]
  · rintro rfl
    by_cases single : ∃ name window, step.pairs = [(name, window)]
    · obtain ⟨name, window, single⟩ := single
      rw [stepErrors_of_single single]
      exact .pair single
    · have count : step.pairs.length ≠ 1 := by
        intro one
        obtain ⟨⟨name, window⟩, only⟩ := List.length_eq_one_iff.1 one
        exact single ⟨name, window, only⟩
      unfold stepErrors
      split
      · next name window only => exact absurd ⟨name, window, only⟩ single
      · exact .several count

/-- Where the report about an item is settled, so are the reports about a list of items. -/
theorem forall₂_report_iff
    {Item : Type} {Report : Item → List PlanIssue → Prop} {errors : Item → List PlanIssue}
    (settled : ∀ item issues, Report item issues ↔ issues = errors item)
    {items : List Item} {reports : List (List PlanIssue)} :
    List.Forall₂ Report items reports ↔ reports = items.map errors := by
  induction items generalizing reports with
  | nil => cases reports <;> simp
  | cons item rest induction =>
      rw [List.forall₂_cons_left_iff]
      simp [settled, induction]

theorem stepsErrors_eq_flatten (phase position : Nat) (steps : List TextMap) :
    stepsErrors phase position steps =
      ((steps.zipIdx position).map fun placed =>
        stepErrors (stepPath phase placed.2) placed.1).flatten := by
  induction steps generalizing position with
  | nil => rfl
  | cons step rest induction =>
      rw [stepsErrors, induction, List.zipIdx_cons, List.map_cons, List.flatten_cons]

theorem phasesErrors_eq_flatten (position : Nat) (phases : List PhaseSpec) :
    phasesErrors position phases =
      ((phases.zipIdx position).map fun placed => phaseErrors placed.2 placed.1).flatten := by
  induction phases generalizing position with
  | nil => rfl
  | cons phase rest induction =>
      rw [phasesErrors, induction, List.zipIdx_cons, List.map_cons, List.flatten_cons]

theorem phaseReport_iff {position : Nat} {phase : PhaseSpec} :
    PhaseReport position phase issues ↔ issues = phaseErrors position phase := by
  have settled (placed : TextMap × Nat) (issues : List PlanIssue) :
      StepReport (stepPath position placed.2) placed.1 issues ↔
        issues = stepErrors (stepPath position placed.2) placed.1 :=
    stepReport_iff
  constructor
  · intro report
    cases report with
    | empty bare => simp [phaseErrors, bare]
    | steps filled each =>
        rw [(forall₂_report_iff settled).1 each, phaseErrors, stepsErrors_eq_flatten,
          if_neg (by simpa using filled)]
  · rintro rfl
    by_cases bare : phase = []
    · subst bare
      exact .empty rfl
    · rw [phaseErrors, if_neg (by simpa using bare), stepsErrors_eq_flatten]
      exact .steps bare ((forall₂_report_iff settled).2 rfl)

theorem errors_eq_of_declared (limits : Limits) (declared : file.phases ≠ []) :
    file.errors limits =
      file.rangeErrors ++ file.countErrors limits ++ phasesErrors 0 file.phases := by
  rw [errors, if_neg (by simpa using declared), List.append_assoc]

theorem errorReport_iff (declared : file.phases ≠ []) :
    file.ErrorReport limits issues ↔ issues = file.errors limits := by
  have settled (placed : PhaseSpec × Nat) (issues : List PlanIssue) :
      PhaseReport placed.2 placed.1 issues ↔ issues = phaseErrors placed.2 placed.1 :=
    phaseReport_iff
  rw [errors_eq_of_declared limits declared, phasesErrors_eq_flatten]
  constructor
  · intro report
    cases report with
    | parts ofRange ofCount each =>
        rw [rangeReport_iff.1 ofRange, countReport_iff.1 ofCount,
          (forall₂_report_iff settled).1 each]
  · rintro rfl
    exact
      .parts (rangeReport_iff.2 rfl) (countReport_iff.2 rfl)
        ((forall₂_report_iff settled).2 rfl)

/-! ## Places -/

theorem toList_phasePath (position : Nat) :
    (phasePath position).toList = "phases[".toList ++ (Nat.toDigits 10 position ++ [']']) := by
  simp [phasePath]

theorem toList_stepPath (position step : Nat) :
    (stepPath position step).toList =
      (phasePath position).toList ++ '[' :: (Nat.toDigits 10 step ++ [']']) := by
  simp [stepPath]

/-- The place of a phase is told by how it begins, whatever comes behind. -/
theorem eq_of_phasePath_append
    {position other : Nat} {rest others : List Char}
    (same : (phasePath position).toList ++ rest = (phasePath other).toList ++ others) :
    position = other := by
  have unclosed (number : Nat) : ']' ∉ Nat.toDigits 10 number := by
    intro member
    exact absurd (Nat.isDigit_of_mem_toDigits (by decide) (by decide) member) (by decide)
  simp only [toList_phasePath, List.append_assoc, List.append_cancel_left_eq,
    List.singleton_append] at same
  have digits := eq_of_delimited (unclosed position) (unclosed other) same
  apply phasePath_injective
  rw [← String.toList_inj, toList_phasePath, toList_phasePath, digits]

end PlanFile

/-- Whether an issue is about the phase at a position, as a whole or about one of its steps. -/
def PlanIssue.IsAbout (issue : PlanIssue) (position : Nat) : Prop :=
  issue.path = PlanFile.phasePath position ∨
    ∃ step, issue.path = PlanFile.stepPath position step

namespace PlanIssue.IsAbout

open PlanFile

variable {issue : PlanIssue} {position other : Nat}

theorem begins (about : issue.IsAbout position) :
    (phasePath position).toList <+: issue.path.toList := by
  rcases about with whole | ⟨step, inside⟩
  · rw [whole]
  · rw [inside, toList_stepPath]
    exact List.prefix_append _ _

theorem unique (about : issue.IsAbout position) (alsoAbout : issue.IsAbout other) :
    position = other := by
  obtain ⟨rest, written⟩ := about.begins
  obtain ⟨others, alsoWritten⟩ := alsoAbout.begins
  exact eq_of_phasePath_append (written.trans alsoWritten.symm)

/-- What is about a phase is not about the plan file as a whole. -/
theorem path_notMem (about : issue.IsAbout position) : issue.path ∉ ["range", "phases"] := by
  have begins : "phases[".toList <+: issue.path.toList := by
    refine List.IsPrefix.trans ?_ about.begins
    rw [toList_phasePath]
    exact List.prefix_append _ _
  intro member
  rw [List.mem_cons, List.mem_singleton] at member
  rcases member with whole | whole <;> rw [whole] at begins <;> exact absurd begins (by decide)

end PlanIssue.IsAbout

namespace PlanFile

variable {limits : Limits} {file : PlanFile} {issues : List PlanIssue}

theorem RangeReport.eq_errorAt (report : file.RangeReport issues) :
    ∀ issue ∈ issues, ∃ message, issue = errorAt "range" message := by
  cases report with
  | missing => simp
  | inverted => simp
  | fine => simp

theorem CountReport.eq_errorAt (report : file.CountReport limits issues) :
    ∀ issue ∈ issues, ∃ message, issue = errorAt "phases" message := by
  cases report with
  | exceeded => simp
  | within => simp

theorem StepReport.eq_errorAt
    {path : String} {step : TextMap} (report : StepReport path step issues) :
    ∀ issue ∈ issues, ∃ message, issue = errorAt path message := by
  cases report with
  | several => simp
  | pair single =>
      intro issue member
      rw [List.mem_append] at member
      rcases member with named | titled
      · split at named
        · cases named
        · exact ⟨_, List.mem_singleton.1 named⟩
      · split at titled
        · exact ⟨_, List.mem_singleton.1 titled⟩
        · cases titled

theorem PhaseReport.error_about
    {position : Nat} {phase : PhaseSpec} (report : PhaseReport position phase issues) :
    ∀ issue ∈ issues, issue.IsAbout position ∧ issue.severity = .error := by
  rw [phaseReport_iff] at report
  rintro issue member
  rw [report, phaseErrors] at member
  split at member
  · rw [List.mem_singleton.1 member]
    exact ⟨.inl rfl, rfl⟩
  · rw [stepsErrors_eq_flatten, List.mem_flatten] at member
    obtain ⟨errors, among, inside⟩ := member
    obtain ⟨⟨step, index⟩, _, rfl⟩ := List.mem_map.1 among
    obtain ⟨message, rfl⟩ := (stepReport_iff.2 rfl).eq_errorAt issue inside
    exact ⟨.inr ⟨index, rfl⟩, rfl⟩

/-- The errors of some phases are about the positions where these stand. -/
theorem exists_isAbout_of_mem_phasesErrors
    {position : Nat} {phases : List PhaseSpec} {issue : PlanIssue}
    (member : issue ∈ phasesErrors position phases) :
    ∃ index < phases.length, issue.IsAbout (position + index) := by
  induction phases generalizing position with
  | nil => cases member
  | cons phase rest induction =>
      rw [phasesErrors, List.mem_append] at member
      rcases member with here | later
      · exact ⟨0, Nat.succ_pos _, ((phaseReport_iff.2 rfl).error_about issue here).1⟩
      · obtain ⟨index, bounded, about⟩ := induction later
        refine ⟨index + 1, Nat.succ_lt_succ bounded, ?_⟩
        rwa [Nat.add_assoc, Nat.add_comm 1 index] at about

/-! ## Another phase in the place of one -/

theorem phasesErrors_append (position : Nat) (phases others : List PhaseSpec) :
    phasesErrors position (phases ++ others) =
      phasesErrors position phases ++ phasesErrors (position + phases.length) others := by
  simp only [phasesErrors_eq_flatten, List.zipIdx_append, List.map_append, List.flatten_append]

theorem countErrors_congr {file other : PlanFile}
    (same : other.phases.length = file.phases.length) :
    other.countErrors limits = file.countErrors limits := by
  rw [countErrors, countErrors, same]

theorem errors_eq_around
    (limits : Limits) {file : PlanFile} {earlier later : List PhaseSpec} {phase : PhaseSpec}
    (split : file.phases = earlier ++ phase :: later) :
    file.errors limits =
      (file.rangeErrors ++ file.countErrors limits ++ phasesErrors 0 earlier) ++
        phaseErrors earlier.length phase ++ phasesErrors (earlier.length + 1) later := by
  rw [errors_eq_of_declared limits (by simp [split]), split, phasesErrors_append, phasesErrors]
  simp only [Nat.zero_add, List.append_assoc]

/-- What stands before and behind the errors of a phase is about other places. -/
theorem not_isAbout_around
    {file : PlanFile} {earlier later : List PhaseSpec} {issue : PlanIssue}
    (member :
      issue ∈
        (file.rangeErrors ++ file.countErrors limits ++ phasesErrors 0 earlier) ++
          phasesErrors (earlier.length + 1) later) :
    ¬ issue.IsAbout earlier.length := by
  intro about
  simp only [List.mem_append] at member
  rcases member with ((ranged | counted) | before) | behind
  · obtain ⟨message, rfl⟩ := (rangeReport_iff.2 rfl).eq_errorAt issue ranged
    exact about.path_notMem (by simp [errorAt])
  · obtain ⟨message, rfl⟩ := (countReport_iff.2 rfl).eq_errorAt issue counted
    exact about.path_notMem (by simp [errorAt])
  · obtain ⟨index, bounded, elsewhere⟩ := exists_isAbout_of_mem_phasesErrors before
    have same := about.unique elsewhere
    omega
  · obtain ⟨index, bounded, elsewhere⟩ := exists_isAbout_of_mem_phasesErrors behind
    have same := about.unique elsewhere
    omega

end PlanFile

/-! ## One validator for several plan files -/

namespace Validator

/-- The issues of several plan files, to which one validator is put one after the other. -/
def validateEach (validator : Validator) : List (Limits × PlanFile) → List Validation
  | [] => []
  | (limits, file) :: rest =>
    (validator.validate limits file).1 :: (validator.validate limits file).2.validateEach rest

theorem validateEach_eq_map (validator : Validator) (jobs : List (Limits × PlanFile)) :
    validator.validateEach jobs = jobs.map fun job => (fresh.validate job.1 job.2).1 := by
  induction jobs generalizing validator with
  | nil => rfl
  | cons job rest induction =>
      rw [validateEach, induction, List.map_cons, validate_eq, validate_eq]

open PlanFile

/--
Whatever a validator was used for before, the errors that it hands over for a
plan file with phases are those of the range, of the number of phases and of the
phases one by one.  Another phase in the place of one changes the errors about
this place, which stand together, and keeps those before and behind them.  If
one validator looks at several plan files, each gets the issues that a fresh one
would find.
-/
theorem validate_by_parts :
    (∀ (limits : Limits) (file : PlanFile), file.phases ≠ [] →
      (∀ (validator : Validator) (issues : List PlanIssue),
        (validator.validate limits file).1.errors = issues ↔ file.ErrorReport limits issues) ∧
      ∀ (validator : Validator) (position : Nat) (phase other : PhaseSpec),
        file.phases[position]? = some phase →
          ∃ before reported changed after,
            (validator.validate limits file).1.errors = before ++ reported ++ after ∧
            (validator.validate limits
                { file with phases := file.phases.set position other }).1.errors =
              before ++ changed ++ after ∧
            PhaseReport position phase reported ∧ PhaseReport position other changed ∧
            (∀ issue ∈ before ++ after, ¬ issue.IsAbout position) ∧
            ∀ issue ∈ reported ++ changed, issue.IsAbout position) ∧
    ∀ (validator : Validator) (jobs : List (Limits × PlanFile)),
      validator.validateEach jobs =
        jobs.map fun job => (fresh.validate job.1 job.2).1 := by
  refine ⟨fun limits file declared => ⟨?_, ?_⟩, validateEach_eq_map⟩
  · intro validator issues
    rw [validate_eq, errorReport_iff declared, eq_comm]
    exact Iff.rfl
  · intro validator position phase other atPosition
    obtain ⟨bounded, rfl⟩ := List.getElem?_eq_some_iff.1 atPosition
    obtain ⟨earlier, later, split, rfl, replaced⟩ :
        ∃ earlier later,
          file.phases = earlier ++ file.phases[position] :: later ∧
            earlier.length = position ∧
            file.phases.set position other = earlier ++ other :: later :=
      List.exists_of_set bounded
    have counted :
        ({ file with phases := file.phases.set earlier.length other } : PlanFile).countErrors
            limits = file.countErrors limits :=
      countErrors_congr List.length_set
    refine
      ⟨file.rangeErrors ++ file.countErrors limits ++ phasesErrors 0 earlier,
        phaseErrors earlier.length _, phaseErrors earlier.length other,
        phasesErrors (earlier.length + 1) later, ?_, ?_, phaseReport_iff.2 rfl,
        phaseReport_iff.2 rfl, fun _ => not_isAbout_around, ?_⟩
    · rw [validate_eq]
      exact errors_eq_around limits split
    · rw [validate_eq, ← counted]
      exact errors_eq_around limits replaced
    · intro issue member
      rcases List.mem_append.1 member with reported | changed
      · exact ((phaseReport_iff.2 rfl).error_about issue reported).1
      · exact ((phaseReport_iff.2 rfl).error_about issue changed).1

/-- A plan file with something to report about each of its parts. -/
def crookedFile : PlanFile :=
  { mode := .range
    phases :=
      [ [],
        [{ pairs := [("shows_app_window", "A"), ("hides_app_window", "B")] }],
        [{ pairs := [("shows_app_windw", " ")] }] ] }

/-- A validator that still holds the issues of another plan file. -/
def usedValidator : Validator :=
  { errors := [errorAt "phases" "plan declares no phases"] }

theorem crookedFile_reported :
    crookedFile.phases ≠ [] ∧
      (usedValidator.validate { maxPhases := 2 } crookedFile).1.errors =
        [ errorAt "range" "mode 'range' requires a range",
          errorAt "phases" "plan declares 3 phases (limit: 2)",
          errorAt "phases[0]" "phase is empty",
          errorAt "phases[1][0]" "expected exactly one '<assertion>: <window>' pair",
          errorAt "phases[2][0]"
            "unknown assertion 'shows_app_windw' (did you mean 'shows_app_window'?)",
          errorAt "phases[2][0]" "window title is empty" ] ∧
      crookedFile.ErrorReport { maxPhases := 2 }
        (usedValidator.validate { maxPhases := 2 } crookedFile).1.errors ∧
      crookedFile.phases[1]? =
        some [{ pairs := [("shows_app_window", "A"), ("hides_app_window", "B")] }] ∧
      (∃ before reported changed after,
        (usedValidator.validate { maxPhases := 2 } crookedFile).1.errors =
          before ++ reported ++ after ∧
        (usedValidator.validate { maxPhases := 2 }
            { crookedFile with phases := crookedFile.phases.set 1 [] }).1.errors =
          before ++ changed ++ after ∧
        PhaseReport 1 [{ pairs := [("shows_app_window", "A"), ("hides_app_window", "B")] }]
          reported ∧
        PhaseReport 1 [] changed ∧
        (∀ issue ∈ before ++ after, ¬ issue.IsAbout 1) ∧
        ∀ issue ∈ reported ++ changed, issue.IsAbout 1) ∧
      usedValidator.validateEach [({ maxPhases := 2 }, crookedFile), ({}, keyboardFile)] =
        [ (fresh.validate { maxPhases := 2 } crookedFile).1,
          (fresh.validate {} keyboardFile).1 ] := by
  rcases validate_by_parts with ⟨byParts, reused⟩
  have declared : crookedFile.phases ≠ [] := by decide
  rcases byParts { maxPhases := 2 } crookedFile declared with ⟨reports, replaced⟩
  exact
    ⟨declared, by decide +kernel, (reports usedValidator _).1 rfl, rfl,
      replaced usedValidator 1 _ [] rfl, reused usedValidator _⟩

end Validator

end PhaseAssertions
