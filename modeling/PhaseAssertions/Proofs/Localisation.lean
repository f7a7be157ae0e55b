import Mathlib.Data.List.Basic
import PhaseAssertions.Proofs.Evaluation

/-!
# Where a test of all entries fails

A test of all entries can end in three ways: every phase has its run, some
phase is to blame at one entry, or the entries end before all phases are
reached.  A `Placement` names the way and its positions.  When a placement
fits is said through shorter programs that pass on shorter traces, without
reference to the walk; exactly one placement fits, and the test reports what
belongs to it.
-/

namespace PhaseAssertions

universe u

variable {Entry : Type u}

/-- The checker with the same settings that knows its first `count` phases only. -/
def Checker.truncate (checker : Checker Entry) (count : Nat) : Checker Entry :=
  { checker with
    complete := (checker.groups.take count).dropLast
    opened := (checker.groups.take count).getLast? }

@[simp]
theorem Checker.groups_truncate (checker : Checker Entry) (count : Nat) :
    (checker.truncate count).groups = checker.groups.take count := by
  change
    (checker.groups.take count).dropLast ++
        (checker.groups.take count).getLast?.toList =
      checker.groups.take count
  generalize checker.groups.take count = taken
  cases last : taken.getLast? with
  | none => simp [List.getLast?_eq_none_iff.1 last]
  | some group => exact List.dropLast_append_getLast? group last

/-- How entries can be placed in the phases of a program. -/
inductive Placement where
  /-- Every phase has its run. -/
  | complete
  /-- The phase at position `group` is to blame at the entry at position `entry`. -/
  | rejected (entry group : Nat)
  /-- The entries end while the phase at position `last` holds. -/
  | ended (last : Nat)

namespace Placement

/-- The kind of the first failure that is reported for a placement. -/
def kind? : Placement → Option FailureKind
  | .complete => none
  | .rejected _ _ => some .predicateFailure
  | .ended _ => some .phaseMismatch

variable [Snapshot Entry]

/-- How a phase comes to be blamed for rejecting the entry at a position. -/
inductive Cause (checker : Checker Entry) (entries : List Entry) (entry : Entry) :
    Nat → Nat → Prop where
  /-- The first entry has to satisfy the first phase. -/
  | first : Cause checker entries entry 0 0
  /-- The phases before have passed, and the one that is left rejects as well. -/
  | next {position blamed : Nat} {previous : PhaseGroup Entry}
      (positive : 1 ≤ blamed)
      (passes : (checker.truncate blamed).test (entries.take position) = [])
      (atPrevious : checker.groups[blamed - 1]? = some previous)
      (left : ¬ previous.Holds entry) :
      Cause checker entries entry position blamed
  /-- All phases have passed, and no phase is left to take over. -/
  | last {position blamed : Nat}
      (final : blamed + 1 = checker.groups.length)
      (passes : checker.test (entries.take position) = []) :
      Cause checker entries entry position blamed

/-- When a placement fits the entries that a checker evaluates. -/
def Fits (checker : Checker Entry) (entries : List Entry) : Placement → Prop
  | .complete => checker.test entries = []
  | .rejected position blamed =>
      ∃ entry group,
        entries[position]? = some entry ∧ checker.groups[blamed]? = some group ∧
          ¬ group.Holds entry ∧ Cause checker entries entry position blamed
  | .ended last =>
      last + 1 < checker.groups.length ∧
        (checker.truncate (last + 1)).test entries = []

/-- What a test reports for a placement. -/
def Reports (checker : Checker Entry) (entries : List Entry)
    (failures : List Failure) : Placement → Prop
  | .complete => failures = []
  | .rejected position blamed =>
      ∃ entry group member,
        entries[position]? = some entry ∧ checker.groups[blamed]? = some group ∧
          group.FirstToReject entry member ∧
          failures =
            [{ kind := .predicateFailure
               phase := group.name
               location := .entry position (Snapshot.timestamp entry)
               reason := (member.evaluate entry).reason }]
  | .ended last =>
      ∃ head final,
        entries.head? = some head ∧ entries.getLast? = some final ∧
          failures =
            (checker.groups.drop (last + 1)).map fun group =>
              { kind := .phaseMismatch
                phase := group.name
                location :=
                  .span (Snapshot.timestamp head) (Snapshot.timestamp final)
                reason :=
                  "trace ended before this phase was reached (passed: " ++
                    ", ".intercalate
                      ((checker.groups.take (last + 1)).map PhaseGroup.name) ++
                    ")" }

/-! ## Placements and traversed phases -/

section Tests

variable {checker : Checker Entry} {entries chosen : List Entry}
variable
  (all : checker.mode = .allEntries)
  (unskipped : checker.skipUntilFirst = false)
  (declared : checker.groups ≠ [])

include all unskipped declared

theorem test_chosen_eq_nil_iff
    (subset : chosen ⊆ checker.selected entries) :
    checker.test chosen = [] ↔ Traverses checker.groups chosen := by
  rw [Checker.test_eq_nil_iff all unskipped declared,
    Checker.selected_of_subset subset]

theorem test_truncate_eq_nil_iff
    {count : Nat} (positive : 1 ≤ count)
    (subset : chosen ⊆ checker.selected entries) :
    (checker.truncate count).test chosen = [] ↔
      Traverses (checker.groups.take count) chosen := by
  have remaining : (checker.truncate count).groups ≠ [] := by
    rw [Checker.groups_truncate, ne_eq, List.take_eq_nil_iff]
    rintro (nothing | nothing)
    · omega
    · exact declared nothing
  have mode : (checker.truncate count).mode = .allEntries := all
  have plain : (checker.truncate count).skipUntilFirst = false := unskipped
  have kept : chosen ⊆ (checker.truncate count).selected entries := subset
  rw [Checker.test_eq_nil_iff mode plain remaining,
    Checker.selected_of_subset kept, Checker.groups_truncate]

theorem fits_ended_iff (last : Nat) :
    (ended last).Fits checker (checker.selected entries) ↔
      ∃ passed current rest,
        checker.groups = passed ++ current :: rest ∧ rest ≠ [] ∧
          passed.length = last ∧
          Traversed passed current (checker.selected entries) := by
  rw [Fits,
    test_truncate_eq_nil_iff all unskipped declared (Nat.le_add_left 1 last)
      (List.Subset.refl _)]
  constructor
  · rintro ⟨unfinished, traverses⟩
    rcases traverses.exists_split (Nat.le_of_lt unfinished) with
      ⟨passed, current, program, length, traversed⟩
    refine ⟨passed, current, _, program, ?_, by omega, traversed⟩
    simpa using unfinished
  · rintro ⟨passed, current, rest, program, unfinished, rfl, traversed⟩
    have more := List.length_pos_iff.2 unfinished
    refine ⟨?_, traversed.traverses_take program⟩
    rw [program, List.length_append, List.length_cons]
    omega

theorem Cause.blamed
    {entry : Entry} {group : PhaseGroup Entry} {position blamed : Nat}
    (cause : Cause checker (checker.selected entries) entry position blamed)
    (atBlamed : checker.groups[blamed]? = some group)
    (rejects : ¬ group.Holds entry) :
    Blamed checker.groups ((checker.selected entries).take position) entry
      blamed group := by
  have subset :
      (checker.selected entries).take position ⊆ checker.selected entries :=
    List.take_subset _ _
  cases cause with
  | first =>
      rw [← List.head?_eq_getElem?] at atBlamed
      rcases List.head?_eq_some_iff.1 atBlamed with ⟨rest, program⟩
      exact .first program List.take_zero rejects
  | @next _ _ previous positive passes atPrevious left =>
      rw [test_truncate_eq_nil_iff all unskipped declared positive subset]
        at passes
      rcases List.getElem?_eq_some_iff.1 atBlamed with ⟨bounded, atGroup⟩
      rcases passes.exists_split (Nat.le_of_lt bounded) with
        ⟨passed, current, program, rfl, traversed⟩
      rw [List.drop_eq_getElem_cons bounded, atGroup] at program
      obtain rfl : current = previous := by
        rw [program] at atPrevious
        simpa using atPrevious
      exact .next program traversed left rejects
  | last final passes =>
      rw [test_chosen_eq_nil_iff all unskipped declared subset] at passes
      rcases passes with ⟨passed, current, program, traversed⟩
      obtain rfl : blamed = passed.length := by
        rw [program, List.length_append, List.length_singleton] at final
        omega
      rw [program] at atBlamed
      obtain rfl : current = group := by simpa using atBlamed
      exact .last program traversed rejects

theorem cause_of_blamed
    {before after : List Entry} {entry : Entry} {group : PhaseGroup Entry}
    {blamed : Nat}
    (selection : checker.selected entries = before ++ entry :: after)
    (blame : Blamed checker.groups before entry blamed group) :
    Cause checker (checker.selected entries) entry before.length blamed := by
  have subset : before ⊆ checker.selected entries := by
    rw [selection]
    exact List.subset_append_left _ _
  have taken : (checker.selected entries).take before.length = before := by
    rw [selection, List.take_left]
  cases blame with
  | first program nothing rejects =>
      rw [nothing]
      exact .first
  | @next passed rest current _ program traversed left rejects =>
      refine .next (Nat.le_add_left _ _) ?_ ?_ left
      · rw [taken,
          test_truncate_eq_nil_iff all unskipped declared
            (Nat.le_add_left _ _) subset]
        exact traversed.traverses_take program
      · simp [program]
  | last program traversed rejects =>
      refine .last (by simp [program]) ?_
      rw [taken, test_chosen_eq_nil_iff all unskipped declared subset]
      exact ⟨_, _, program, traversed⟩

theorem fits_rejected_iff (position blamed : Nat) :
    (rejected position blamed).Fits checker (checker.selected entries) ↔
      ∃ before entry after group,
        checker.selected entries = before ++ entry :: after ∧
          before.length = position ∧
          Blamed checker.groups before entry blamed group := by
  constructor
  · rintro ⟨entry, group, atPosition, atBlamed, rejects, cause⟩
    rcases List.getElem?_eq_some_iff.1 atPosition with ⟨inside, atEntry⟩
    refine
      ⟨(checker.selected entries).take position, entry,
        (checker.selected entries).drop (position + 1), group, ?_, ?_, ?_⟩
    · rw [← atEntry, ← List.drop_eq_getElem_cons inside,
        List.take_append_drop]
    · rw [List.length_take]
      omega
    · exact cause.blamed all unskipped declared atBlamed rejects
  · rintro ⟨before, entry, after, group, selection, rfl, blame⟩
    exact
      ⟨entry, group, by simp [selection], blame.getElem?_eq, blame.not_holds,
        cause_of_blamed all unskipped declared selection blame⟩

/-- Non-empty entries can be placed. -/
theorem exists_fits
    (evaluated : checker.selected entries ≠ []) :
    ∃ placement : Placement,
      placement.Fits checker (checker.selected entries) := by
  rcases Checker.traversed_or_blamed declared evaluated with
    ⟨passed, current, rest, program, traversed⟩ |
      ⟨before, entry, after, blamed, group, selection, blame⟩
  · cases rest with
    | nil =>
        refine ⟨.complete, ?_⟩
        rw [Fits,
          test_chosen_eq_nil_iff all unskipped declared (List.Subset.refl _)]
        exact ⟨passed, current, program, traversed⟩
    | cons next rest =>
        refine ⟨.ended passed.length, ?_⟩
        rw [fits_ended_iff all unskipped declared]
        exact
          ⟨passed, current, next :: rest, program, by simp, rfl, traversed⟩
  · refine ⟨.rejected before.length blamed, ?_⟩
    rw [fits_rejected_iff all unskipped declared]
    exact ⟨before, entry, after, group, selection, rfl, blame⟩

/-- The test reports what belongs to a fitting placement. -/
theorem Fits.reports
    {placement : Placement}
    (fits : placement.Fits checker (checker.selected entries)) :
    placement.Reports checker (checker.selected entries)
      (checker.test entries) := by
  cases placement with
  | complete =>
      rw [Fits,
        test_chosen_eq_nil_iff all unskipped declared (List.Subset.refl _)]
        at fits
      exact (Checker.test_eq_nil_iff all unskipped declared).2 fits
  | rejected position blamed =>
      rcases (fits_rejected_iff all unskipped declared _ _).1 fits with
        ⟨before, entry, after, group, selection, rfl, blame⟩
      rcases PhaseGroup.exists_firstToReject blame.not_holds with
        ⟨member, first⟩
      refine
        ⟨entry, group, member, by simp [selection], blame.getElem?_eq, first, ?_⟩
      rw [Checker.test_of_blamed all unskipped selection blame,
        Cursor.rejection, PhaseGroup.evaluate_of_firstToReject first]
      rfl
  | ended last =>
      rcases (fits_ended_iff all unskipped declared _).1 fits with
        ⟨passed, current, rest, program, _, rfl, traversed⟩
      have evaluated := traversed.ne_nil
      refine
        ⟨_, _, List.head?_eq_some_head evaluated,
          List.getLast?_eq_some_getLast evaluated, ?_⟩
      rw [Checker.test_of_traversed all unskipped program traversed
        (List.head?_eq_some_head evaluated)
        (List.getLast?_eq_some_getLast evaluated)]
      rw [take_program program, drop_program program]
      rfl

theorem Fits.kind?_eq
    {placement : Placement}
    (fits : placement.Fits checker (checker.selected entries)) :
    (checker.test entries).head?.map Failure.kind = placement.kind? := by
  have reports := fits.reports all unskipped declared
  cases placement with
  | complete =>
      rw [Reports] at reports
      rw [reports]
      rfl
  | rejected position blamed =>
      rcases reports with ⟨entry, group, member, _, _, _, reported⟩
      rw [reported]
      rfl
  | ended last =>
      rcases reports with ⟨head, final, _, _, reported⟩
      rw [reported, List.drop_eq_getElem_cons fits.1]
      rfl

theorem rejected_unique
    {position otherPosition blamed otherBlamed : Nat}
    (fits : (rejected position blamed).Fits checker (checker.selected entries))
    (otherFits :
      (rejected otherPosition otherBlamed).Fits checker
        (checker.selected entries)) :
    rejected position blamed = rejected otherPosition otherBlamed := by
  rcases fits.reports all unskipped declared with ⟨_, _, _, _, _, _, reported⟩
  rcases otherFits.reports all unskipped declared with
    ⟨_, _, _, _, _, _, otherReported⟩
  -- Both failures are the one that the test reports, so they name one entry.
  have samePosition : position = otherPosition := by
    rw [reported] at otherReported
    simp only [List.cons.injEq, Failure.mk.injEq,
      FailureLocation.entry.injEq] at otherReported
    exact otherReported.1.2.2.1.1
  subst samePosition
  rcases fits with ⟨entry, group, atPosition, atBlamed, rejects, cause⟩
  rcases otherFits with
    ⟨otherEntry, otherGroup, otherAt, otherAtBlamed, otherRejects, otherCause⟩
  have sameEntry : entry = otherEntry :=
    Option.some.inj (atPosition.symm.trans otherAt)
  subst sameEntry
  have blame := cause.blamed all unskipped declared atBlamed rejects
  have otherBlame :=
    otherCause.blamed all unskipped declared otherAtBlamed otherRejects
  rw [blame.unique otherBlame]

theorem ended_unique
    {last otherLast : Nat}
    (fits : (ended last).Fits checker (checker.selected entries))
    (otherFits : (ended otherLast).Fits checker (checker.selected entries)) :
    ended last = ended otherLast := by
  rcases fits with ⟨unfinished, passes⟩
  rcases otherFits with ⟨otherUnfinished, otherPasses⟩
  rw [test_truncate_eq_nil_iff all unskipped declared
    (Nat.le_add_left _ _) (List.Subset.refl _)] at passes otherPasses
  have equal :=
    passes.count_unique otherPasses (Nat.le_of_lt unfinished)
      (Nat.le_of_lt otherUnfinished)
  rw [Nat.add_right_cancel equal]

/-- Entries cannot be placed in two ways. -/
theorem Fits.unique
    {placement other : Placement}
    (fits : placement.Fits checker (checker.selected entries))
    (otherFits : other.Fits checker (checker.selected entries)) :
    placement = other := by
  have same : placement.kind? = other.kind? := by
    rw [← fits.kind?_eq all unskipped declared,
      otherFits.kind?_eq all unskipped declared]
  cases placement with
  | complete =>
      cases other with
      | complete => rfl
      | rejected otherPosition otherBlamed => simp [kind?] at same
      | ended otherLast => simp [kind?] at same
  | rejected position blamed =>
      cases other with
      | complete => simp [kind?] at same
      | rejected otherPosition otherBlamed =>
          exact rejected_unique all unskipped declared fits otherFits
      | ended otherLast => simp [kind?] at same
  | ended last =>
      cases other with
      | complete => simp [kind?] at same
      | rejected otherPosition otherBlamed => simp [kind?] at same
      | ended otherLast =>
          exact ended_unique all unskipped declared fits otherFits

end Tests

end Placement

/--
Exactly one placement fits the entries of a test of all entries, and the test
reports what belongs to it.
-/
theorem Checker.test_reports_unique_placement
    [Snapshot Entry] {checker : Checker Entry} {entries : List Entry}
    (all : checker.mode = .allEntries)
    (unskipped : checker.skipUntilFirst = false)
    (declared : checker.groups ≠ [])
    (evaluated : checker.selected entries ≠ []) :
    ∃ placement : Placement,
      placement.Fits checker (checker.selected entries) ∧
        placement.Reports checker (checker.selected entries)
          (checker.test entries) ∧
        ∀ other : Placement,
          other.Fits checker (checker.selected entries) → other = placement := by
  rcases Placement.exists_fits all unskipped declared evaluated with
    ⟨placement, fits⟩
  refine ⟨placement, fits, fits.reports all unskipped declared, ?_⟩
  intro other otherFits
  exact otherFits.unique all unskipped declared fits

theorem Checker.opening_reports_placement :
    opening.mode = .allEntries ∧ opening.skipUntilFirst = false ∧
      opening.groups ≠ [] ∧ opening.selected flickering.tail.tail ≠ [] ∧
      ∃ placement : Placement,
        placement.Fits opening (opening.selected flickering.tail.tail) ∧
          placement.Reports opening (opening.selected flickering.tail.tail)
            (opening.test flickering.tail.tail) ∧
          ∀ other : Placement,
            other.Fits opening (opening.selected flickering.tail.tail) →
              other = placement := by
  have declared : opening.groups ≠ [] := by
    simp [opening, groups, withinRange, add]
  exact
    ⟨rfl, rfl, declared, by decide,
      test_reports_unique_placement rfl rfl declared (by decide)⟩

end PhaseAssertions
