import PhaseAssertions.Proofs.Application
import PhaseAssertions.Proofs.Subsumption

/-!
# Phases that repeat the phase before them

Validation compares every phase of a plan file with the phase before it, step
by step, and warns where they are the same.  In a well-formed file a phase is
resolved from its steps one by one, so a phase that is warned about has the
assertions of the phase before it, and its group accepts the same entries.

Such a phase is never reached, which is what the warning says: a plan that is
loaded with it fails on every trace, as long as it looks at more than a single
entry.
-/

namespace PhaseAssertions

universe u

/-! ## Warnings about repeated phases -/

namespace TextMap

@[ext]
theorem ext {map other : TextMap} (same : map.pairs = other.pairs) : map = other := by
  cases map
  cases other
  cases same
  rfl

theorem agrees_of_single
    {map other : TextMap} {pair otherPair : String × String}
    (single : map.pairs = [pair]) (otherSingle : other.pairs = [otherPair]) :
    map.agrees other = true ↔ map = other := by
  rw [TextMap.ext_iff, agrees, single, otherSingle]
  simp

end TextMap

namespace PlanFile

def repeatMessage : String :=
  "phase repeats the phase before it and can never be reached"

/-- The warning that the phase at a position repeats the phase before it. -/
def repeatWarning (position : Nat) : PlanIssue :=
  warningAt (phasePath position) repeatMessage

theorem phasePath_injective : Function.Injective phasePath := by
  intro position other same
  have digits : Nat.toDigits 10 position = Nat.toDigits 10 other := by
    simpa [phasePath, Nat.toString_eq_ofList_toDigits] using congrArg String.toList same
  rw [← Nat.ofDigitChars_ten_toDigits (n := position), digits,
    Nat.ofDigitChars_ten_toDigits]

/-- Phases of single pairs are the same only if they are equal. -/
theorem samePhase_iff
    {phase other : PhaseSpec}
    (formed : ∀ step ∈ phase, step.IsAssertion)
    (otherFormed : ∀ step ∈ other, step.IsAssertion) :
    samePhase phase other = true ↔ phase = other := by
  induction phase generalizing other with
  | nil => cases other <;> simp [samePhase]
  | cons step rest induction =>
      cases other with
      | nil => simp [samePhase]
      | cons otherStep others =>
          rw [List.forall_mem_cons] at formed otherFormed
          rcases formed with ⟨⟨_, _, single, _⟩, remaining⟩
          rcases otherFormed with ⟨⟨_, _, otherSingle, _⟩, otherRemaining⟩
          rw [samePhase, Bool.and_eq_true, induction remaining otherRemaining,
            TextMap.agrees_of_single single otherSingle, List.cons.injEq]

theorem mem_repeatWarnings_iff
    {issue : PlanIssue} {position : Nat} {phases : List PhaseSpec} :
    issue ∈ repeatWarnings position phases ↔
      ∃ index first second,
        phases[index]? = some first ∧ phases[index + 1]? = some second ∧
          second ≠ [] ∧ samePhase first second = true ∧
          issue = repeatWarning (position + index + 1) := by
  induction phases generalizing position with
  | nil => simp [repeatWarnings]
  | cons first rest induction =>
      cases rest with
      | nil => simp [repeatWarnings]
      | cons second rest =>
          rw [repeatWarnings, List.mem_append, induction]
          constructor
          · rintro (here | ⟨index, earlier, later, atIndex, atNext, filled, same, rfl⟩)
            · split at here
              · next repeats =>
                  rw [Bool.and_eq_true, Bool.not_eq_true', List.isEmpty_eq_false_iff]
                    at repeats
                  exact
                    ⟨0, first, second, rfl, rfl, repeats.1, repeats.2,
                      List.mem_singleton.1 here⟩
              · cases here
            · refine ⟨index + 1, earlier, later, atIndex, atNext, filled, same, ?_⟩
              rw [Nat.add_right_comm position 1 index, ← Nat.add_assoc]
          · rintro ⟨index, earlier, later, atIndex, atNext, filled, same, rfl⟩
            cases index with
            | zero =>
                obtain rfl : first = earlier := Option.some.inj atIndex
                obtain rfl : second = later := Option.some.inj atNext
                left
                rw [if_pos (by simp [filled, same])]
                exact List.mem_singleton.2 rfl
            | succ index =>
                right
                refine ⟨index, earlier, later, atIndex, atNext, filled, same, ?_⟩
                rw [Nat.add_right_comm position 1 index, ← Nat.add_assoc]

/-- The warnings about the mode are about a range and about a lead that have no use in it. -/
theorem mem_modeWarnings_iff {file : PlanFile} {issue : PlanIssue} :
    issue ∈ file.modeWarnings ↔
      (file.mode ≠ .range ∧ file.range ≠ none ∧
        issue = warningAt "range" "range is ignored unless mode is 'range'") ∨
      ((file.mode = .first ∨ file.mode = .last) ∧ file.skipUntilFirst = true ∧
        issue =
          warningAt "skip_until_first"
            "skip_until_first has no effect when checking a single entry") := by
  rw [modeWarnings, List.mem_append, List.mem_ite_nil_right, List.mem_ite_nil_right]
  apply or_congr
  · simp [Option.isSome_iff_ne_none, and_assoc]
  · simp [and_assoc, and_left_comm]

theorem message_ne_of_mem_modeWarnings
    {file : PlanFile} {issue : PlanIssue} (member : issue ∈ file.modeWarnings) :
    issue.message ≠ repeatMessage := by
  rcases mem_modeWarnings_iff.1 member with ⟨_, _, rfl⟩ | ⟨_, _, rfl⟩
  · decide
  · decide

variable {limits : Limits} {file : PlanFile} {plan : Plan}

/-- In a well-formed file, the phases that are warned about are those that repeat another. -/
theorem WellFormed.mem_warnings_iff
    (formed : file.WellFormed limits) {issue : PlanIssue} :
    issue ∈ file.warnings ∧ issue.message = repeatMessage ↔
      ∃ index phase,
        file.phases[index]? = some phase ∧ file.phases[index + 1]? = some phase ∧
          issue = repeatWarning (index + 1) := by
  have equal :
      ∀ {index first second},
        file.phases[index]? = some first → file.phases[index + 1]? = some second →
          (samePhase first second = true ↔ first = second) := by
    intro index first second atIndex atNext
    exact
      samePhase_iff (formed.phases first (List.mem_of_getElem? atIndex)).2
        (formed.phases second (List.mem_of_getElem? atNext)).2
  rw [warnings, List.mem_append, mem_repeatWarnings_iff]
  constructor
  · rintro ⟨moded | ⟨index, first, second, atIndex, atNext, _, same, rfl⟩, worded⟩
    · exact absurd worded (message_ne_of_mem_modeWarnings moded)
    · obtain rfl := (equal atIndex atNext).1 same
      exact ⟨index, first, atIndex, atNext, by rw [Nat.zero_add]⟩
  · rintro ⟨index, phase, atIndex, atNext, rfl⟩
    have filled := (formed.phases phase (List.mem_of_getElem? atNext)).1
    refine ⟨.inr ⟨index, phase, phase, atIndex, atNext, filled, ?_, ?_⟩, rfl⟩
    · exact (equal atIndex atNext).2 rfl
    · rw [Nat.zero_add]

theorem WellFormed.flatMap_pairs_ne_nil
    (formed : file.WellFormed limits) {phase : PhaseSpec} (member : phase ∈ file.phases) :
    phase.flatMap TextMap.pairs ≠ [] := by
  rcases formed.phases phase member with ⟨filled, steps⟩
  rcases List.exists_mem_of_ne_nil phase filled with ⟨step, inside⟩
  rcases steps step inside with ⟨_, _, single, _⟩
  intro nothing
  have unpaired := List.flatMap_eq_nil_iff.1 nothing step inside
  rw [single] at unpaired
  cases unpaired

end PlanFile

/-! ## Groups of repeated phases -/

theorem PlanAssertion.pair_injective : Function.Injective PlanAssertion.pair := by
  rintro ⟨assertion, window⟩ ⟨other, otherWindow⟩ same
  rcases Prod.mk.inj same with ⟨named, alike⟩
  cases WindowAssertion.name_injective named
  cases alike
  rfl

namespace Plan.StandsFor

variable {limits : Limits} {file : PlanFile} {plan : Plan}

/-- The phase at a position is resolved from the one at the same position of the file. -/
theorem exists_resolved
    (stands : plan.StandsFor file) {index : Nat} {phase : PhaseSpec}
    (atIndex : file.phases[index]? = some phase) :
    ∃ resolved,
      plan.phases[index]? = some resolved ∧
        resolved.map PlanAssertion.pair = phase.flatMap TextMap.pairs := by
  have paired := congrArg (fun phases => phases[index]?) stands.phases
  simp only [List.getElem?_map, atIndex, Option.map_some] at paired
  exact Option.map_eq_some_iff.1 paired

theorem phases_filled
    (stands : plan.StandsFor file) (formed : file.WellFormed limits) :
    ∀ phase ∈ plan.phases, phase ≠ [] := by
  rintro phase member rfl
  have paired : [] ∈ file.phases.map (List.flatMap TextMap.pairs) := by
    rw [← stands.phases]
    exact List.mem_map_of_mem member
  rcases List.mem_map.1 paired with ⟨written, inFile, nothing⟩
  exact formed.flatMap_pairs_ne_nil inFile nothing

end Plan.StandsFor

namespace Plan

/-- Without empty phases, every phase has its group at its own position. -/
theorem map_some_groups
    {plan : Plan} (filled : ∀ phase ∈ plan.phases, phase ≠ []) :
    plan.groups.map some = plan.phases.map PlanAssertion.group? := by
  rw [groups]
  generalize plan.phases = phases at filled
  induction phases with
  | nil => rfl
  | cons phase rest induction =>
      rw [List.forall_mem_cons] at filled
      rcases List.exists_cons_of_ne_nil filled.1 with ⟨first, others, rfl⟩
      exact congrArg (_ :: ·) (induction filled.2)

theorem exists_group
    {plan : Plan} {index : Nat} {phase : List PlanAssertion}
    (filled : ∀ phase ∈ plan.phases, phase ≠ [])
    (atIndex : plan.phases[index]? = some phase) :
    ∃ group,
      plan.groups[index]? = some group ∧ PlanAssertion.group? phase = some group := by
  have grouped := congrArg (fun groups => groups[index]?) (map_some_groups filled)
  simp only [List.getElem?_map, atIndex, Option.map_some] at grouped
  rcases Option.map_eq_some_iff.1 grouped with ⟨group, found, same⟩
  exact ⟨group, found, same.symm⟩

/-- A plan in which a phase repeats the one before it fails on every trace. -/
theorem exists_failed_of_repeated
    {plan : Plan} {index : Nat} {phase : List PlanAssertion}
    (filled : ∀ phase ∈ plan.phases, phase ≠ [])
    (all : plan.evaluation.mode = .allEntries)
    (atIndex : plan.phases[index]? = some phase)
    (atNext : plan.phases[index + 1]? = some phase)
    (trace : Trace WindowManagerEntry) :
    ∃ report, (plan.apply trace).result = .error (.failed report) := by
  rcases exists_group filled atIndex with ⟨group, found, grouped⟩
  rcases exists_group filled atNext with ⟨other, otherFound, otherGrouped⟩
  obtain rfl : group = other := Option.some.inj (grouped.symm.trans otherGrouped)
  rw [← groups_engine] at found otherFound
  have fails : plan.engine.test trace.entries ≠ [] :=
    Checker.test_ne_nil_of_subsumed all found otherFound fun _ _ accepted => accepted
  rcases (plan.tells_engine trace).2 fails with ⟨report, failed, _⟩
  exact ⟨report, failed⟩

end Plan

/-! ## Loaded plans -/

/-- The ways to load a plan: from a text, and from a file that holds one. -/
inductive LoadedPlan.Loads (limits : Limits) (loaded : LoadedPlan) : Prop where
  | ofText (path text : String)
      (read : Plan.ofText limits path text = .ok loaded) : Loads limits loaded
  | load (files : Files) (path : String)
      (read : Plan.load files limits path = .ok loaded) : Loads limits loaded

theorem PlanFile.toPlan_eq_ok
    {limits : Limits} {file : PlanFile} {path : String} {loaded : LoadedPlan}
    (converted : file.toPlan limits path = .ok loaded) :
    file.WellFormed limits ∧ file.resolve = .ok loaded.plan ∧
      loaded.warnings =
        file.warnings.map fun issue =>
          { message := issue.message, location := issue.path } := by
  by_cases formed : file.WellFormed limits
  · rcases formed.exists_resolve with ⟨plan, resolved⟩
    have valid := (errors_eq_nil_iff limits file).2 formed
    simp only [toPlan, Validator.validate_eq, validate, Validation.hasErrors, valid,
      resolved] at converted
    cases converted
    exact ⟨formed, resolved, rfl⟩
  · rw [(toPlan_eq_invalid formed path).2] at converted
    cases converted

theorem Plan.exists_toPlan_of_ofText
    {limits : Limits} {path text : String} {loaded : LoadedPlan}
    (read : ofText limits path text = .ok loaded) :
    ∃ file : PlanFile, file.toPlan limits path = .ok loaded := by
  dsimp only [ofText] at read
  split at read
  · cases read
  · split at read
    · cases read
    · next file decoded => exact ⟨file, read⟩

theorem LoadedPlan.Loads.exists_toPlan
    {limits : Limits} {loaded : LoadedPlan} (loads : loaded.Loads limits) :
    ∃ path, ∃ file : PlanFile, file.toPlan limits path = .ok loaded := by
  cases loads with
  | ofText path text read => exact ⟨path, Plan.exists_toPlan_of_ofText read⟩
  | load files path read =>
      refine ⟨path, ?_⟩
      unfold Plan.load at read
      split at read
      · cases read
      · split at read
        · cases read
        · split at read
          · cases read
          · next contents _ =>
              unfold Plan.ofContents at read
              split at read
              · cases read
              · exact Plan.exists_toPlan_of_ofText read

/--
The warning that a phase can never be reached is true.  A test of all entries,
with or without a range and a lead that is skipped, finds failures if a phase
accepts all covered entries that the next one accepts; and so a loaded plan that
comes with this warning fails on every trace, unless it looks at one entry only.
-/
theorem repeat_warning_sound :
    (∀ {Entry : Type u} [Snapshot Entry] (checker : Checker Entry) (entries : List Entry),
      checker.mode = .allEntries →
        checker.covered entries ⊆ checker.selected entries ∧
        ∀ (index : Nat) (earlier later : PhaseGroup Entry),
          checker.groups[index]? = some earlier →
            checker.groups[index + 1]? = some later →
              (∀ entry ∈ checker.covered entries, later.Holds entry → earlier.Holds entry) →
                checker.test entries ≠ []) ∧
    ∀ (limits : Limits) (loaded : LoadedPlan),
      loaded.Loads limits →
        (loaded.plan.evaluation = .allEntries ∨
          ∃ bounds, loaded.plan.evaluation = .range bounds) →
        (∃ warning ∈ loaded.warnings, warning.message = PlanFile.repeatMessage) →
          ∀ trace, ∃ report,
            (loaded.plan.apply trace).result = .error (.failed report) := by
  constructor
  · intro Entry _ checker entries all
    refine ⟨checker.covered_subset_selected entries, ?_⟩
    intro index earlier later atIndex atNext subsumed
    exact Checker.test_ne_nil_of_subsumed all atIndex atNext subsumed
  · rintro limits loaded loads evaluation ⟨warning, member, worded⟩ trace
    rcases loads.exists_toPlan with ⟨path, file, converted⟩
    rcases PlanFile.toPlan_eq_ok converted with ⟨formed, resolved, carried⟩
    have stands := PlanFile.resolve_eq_ok_iff.1 resolved
    rw [carried] at member
    rcases List.mem_map.1 member with ⟨issue, reported, rfl⟩
    rcases formed.mem_warnings_iff.1 ⟨reported, worded⟩ with
      ⟨index, phase, atIndex, atNext, _⟩
    -- Both phases are resolved from the same steps.
    rcases stands.exists_resolved atIndex with ⟨first, firstAt, firstPairs⟩
    rcases stands.exists_resolved atNext with ⟨second, secondAt, secondPairs⟩
    obtain rfl : first = second :=
      PlanAssertion.pair_injective.list_map (firstPairs.trans secondPairs.symm)
    have all : loaded.plan.evaluation.mode = .allEntries := by
      rcases evaluation with whole | ⟨bounds, ranged⟩
      · rw [whole]
        rfl
      · rw [ranged]
        rfl
    exact
      Plan.exists_failed_of_repeated (stands.phases_filled formed) all firstAt
        secondAt trace

/-- A window that is visible at first and on top from some time on. -/
def rising : Checker WindowManagerEntry :=
  ((Checker.empty.add (WindowAssertion.predicate ⟨.layer .app, true⟩ "W")).add
    (WindowAssertion.predicate ⟨.appOnTop, true⟩ "W")).skippingUntilFirst

/-- A plan that asks for a keyboard twice. -/
def insistentText : String :=
  "mode: range\nrange:\n  start: 0\n  end: 9\n" ++
    "phases: [[shows_ime_window: K], [shows_ime_window: K]]"

/-- The plan that `insistentText` spells, with the warning about it. -/
def insistentPlan : LoadedPlan :=
  { plan :=
      { name := none
        evaluation := .range ⟨0, 9, by decide⟩
        skipUntilFirst := false
        phases := [[⟨⟨.layer .ime, true⟩, "K"⟩], [⟨⟨.layer .ime, true⟩, "K"⟩]] }
    warnings := [⟨PlanFile.repeatMessage, "phases[1]"⟩] }

theorem insistentPlan_fails :
    (rising.mode = .allEntries ∧
      ∃ earlier later,
        rising.groups[0]? = some earlier ∧ rising.groups[1]? = some later ∧
          (∀ entry ∈ rising.covered Checker.flickering,
            later.Holds entry → earlier.Holds entry) ∧
          rising.test Checker.flickering ≠ []) ∧
    insistentPlan.Loads {} ∧
      (∃ bounds, insistentPlan.plan.evaluation = .range bounds) ∧
      (∃ warning ∈ insistentPlan.warnings, warning.message = PlanFile.repeatMessage) ∧
      ∃ report,
        (insistentPlan.plan.apply Checker.flickeringTrace).result =
          .error (.failed report) := by
  rcases repeat_warning_sound with ⟨subsumption, plans⟩
  constructor
  · have subsumed :
        ∀ entry ∈ rising.covered Checker.flickering,
          PhaseGroup.Holds ⟨WindowAssertion.predicate ⟨.appOnTop, true⟩ "W", []⟩ entry →
            PhaseGroup.Holds ⟨WindowAssertion.predicate ⟨.layer .app, true⟩ "W", []⟩
              entry := by
      decide
    exact
      ⟨rfl, _, _, rfl, rfl, subsumed,
        (subsumption rising Checker.flickering rfl).2 0 _ _ rfl rfl subsumed⟩
  · have loads : insistentPlan.Loads {} :=
      .ofText "plan.yaml" insistentText (by decide +kernel)
    have warned :
        ∃ warning ∈ insistentPlan.warnings, warning.message = PlanFile.repeatMessage :=
      ⟨_, List.mem_cons_self, rfl⟩
    exact
      ⟨loads, ⟨_, rfl⟩, warned,
        plans {} insistentPlan loads (.inr ⟨_, rfl⟩) warned Checker.flickeringTrace⟩

end PhaseAssertions
