import Mathlib.Data.List.TakeWhile
import PhaseAssertions.Proofs.Selection
import PhaseAssertions.Proofs.SkippedLead
import PhaseAssertions.Proofs.Split

/-!
# Phases that subsume the next one

A phase is left at an entry that it rejects and the next phase accepts.  So if
every entry that the next phase accepts satisfies the phase as well, the phase
is never left, and the phases after it are never reached.

This does not depend on where the evaluation begins.  A test of all entries,
with or without a lead that is skipped, succeeds exactly when its phases are
traversed by the entries that they have to cover, and these are what the
subsumption is about.
-/

namespace PhaseAssertions

universe u

variable {Entry : Type u}

/-- At the cut between two phases there is an entry that tells them apart. -/
theorem GreedySplit.exists_distinguishing
    {groups : List (PhaseGroup Entry)} {entries : List Entry} {cut : Nat → Nat}
    {index : Nat} {earlier later : PhaseGroup Entry}
    (split : GreedySplit groups entries cut)
    (atIndex : groups[index]? = some earlier)
    (atNext : groups[index + 1]? = some later) :
    ∃ entry ∈ entries, later.Holds entry ∧ ¬ earlier.Holds entry := by
  have bounded : index + 1 < groups.length :=
    (List.getElem?_eq_some_iff.1 atNext).1
  have atCut := List.getElem?_eq_getElem (split.lt_length bounded)
  refine ⟨_, List.mem_of_getElem? atCut, ?_, ?_⟩
  · exact
      split.satisfied (index + 1) _ later _ atNext atCut (Nat.le_refl _)
        (split.increasing (index + 1) bounded)
  · exact split.handedOver index earlier _ bounded atIndex atCut

namespace Checker

variable [Snapshot Entry]

/-! ## Covered entries -/

/--
The entries that the phases have to cover: the selected ones, and of these only
those from the first match of the first phase on if a lead is skipped.
-/
def covered (checker : Checker Entry) (entries : List Entry) : List Entry :=
  match checker.skipUntilFirst, checker.groups with
  | true, first :: _ =>
    (checker.selected entries).dropWhile fun entry => (first.evaluate entry).failed
  | _, _ => checker.selected entries

theorem covered_subset_selected (checker : Checker Entry) (entries : List Entry) :
    checker.covered entries ⊆ checker.selected entries := by
  unfold covered
  split
  · exact (List.dropWhile_suffix _).subset
  · exact List.Subset.refl _

variable {checker : Checker Entry} {entries : List Entry}

theorem covered_of_unskipped (unskipped : checker.skipUntilFirst = false) :
    checker.covered entries = checker.selected entries := by
  rw [covered, unskipped]

theorem covered_of_unmatched
    {first : PhaseGroup Entry} {later : List (PhaseGroup Entry)}
    (skips : checker.skipUntilFirst = true)
    (declared : checker.groups = first :: later)
    (unmatched : ∀ entry ∈ checker.selected entries, ¬ first.Holds entry) :
    checker.covered entries = [] := by
  simp only [covered, skips, declared]
  rw [List.dropWhile_eq_nil_iff]
  intro entry member
  simpa using unmatched entry member

theorem covered_of_match
    {first : PhaseGroup Entry} {later : List (PhaseGroup Entry)}
    {lead rest : List Entry} {entry : Entry}
    (skips : checker.skipUntilFirst = true)
    (declared : checker.groups = first :: later)
    (split : checker.selected entries = lead ++ entry :: rest)
    (begins : first.Holds entry)
    (skipped : ∀ candidate ∈ lead, ¬ first.Holds candidate) :
    checker.covered entries = entry :: rest := by
  simp only [covered, skips, declared, split]
  rw [List.dropWhile_append_of_pos (by simpa using skipped), List.dropWhile_cons_of_neg]
  simpa using begins

theorem failures_walkAll_eq_nil_iff
    {first : PhaseGroup Entry} {later : List (PhaseGroup Entry)}
    {entry : Entry} {rest : List Entry} :
    (walkAll first later entry rest).failures = [] ↔
      Traverses (first :: later) (entry :: rest) := by
  let plain : Checker Entry := { complete := first :: later }
  have declared : plain.groups = first :: later := List.append_nil _
  have walked : plain.test (entry :: rest) = (walkAll first later entry rest).failures :=
    test_eq_failures rfl rfl declared rfl
  rw [← walked, test_eq_nil_iff rfl rfl (by simp [declared]), declared]
  rfl

/-- A test of all entries succeeds exactly when the covered entries traverse its phases. -/
theorem test_eq_nil_iff_traverses_covered
    (all : checker.mode = .allEntries) (declared : checker.groups ≠ []) :
    checker.test entries = [] ↔
      Traverses checker.groups (checker.covered entries) := by
  cases skips : checker.skipUntilFirst with
  | false =>
      rw [covered_of_unskipped skips]
      exact test_eq_nil_iff all skips declared
  | true =>
      rcases List.exists_cons_of_ne_nil declared with ⟨first, later, program⟩
      rcases unmatched_or_exists_lead first (checker.selected entries) with
        unmatched | ⟨lead, entry, rest, split, begins, skipped⟩
      · -- Neither side holds: a failure is reported, and no entry is covered.
        rw [covered_of_unmatched skips program unmatched]
        have untraversed : ¬ Traverses checker.groups ([] : List Entry) := by
          rintro ⟨passed, current, _, traversed⟩
          exact traversed.ne_nil rfl
        simp only [untraversed, iff_false]
        cases selection : checker.selected entries with
        | nil => simp [test_of_nothing_selected selection]
        | cons entry rest =>
            rw [selection] at unmatched
            rw [test_eq_walkFromFirst all skips program selection,
              walkFromFirst_of_unmatched unmatched]
            exact List.cons_ne_nil _ _
      · obtain ⟨head, others, selection⟩ :
            ∃ head others, checker.selected entries = head :: others :=
          List.exists_cons_of_ne_nil (by simp [split])
        rw [covered_of_match skips program split begins skipped,
          test_eq_walkFromFirst all skips program selection,
          walkFromFirst_of_match (selection.symm.trans split) begins skipped,
          List.map_eq_nil_iff, failures_walkAll_eq_nil_iff, program]

/--
A test of all entries never succeeds if one of the phases accepts all covered
entries that the next phase accepts.
-/
theorem test_ne_nil_of_subsumed
    {index : Nat} {earlier later : PhaseGroup Entry}
    (all : checker.mode = .allEntries)
    (atIndex : checker.groups[index]? = some earlier)
    (atNext : checker.groups[index + 1]? = some later)
    (subsumed :
      ∀ entry ∈ checker.covered entries, later.Holds entry → earlier.Holds entry) :
    checker.test entries ≠ [] := by
  have declared : checker.groups ≠ [] :=
    List.ne_nil_of_mem (List.mem_of_getElem? atIndex)
  rw [Ne, test_eq_nil_iff_traverses_covered all declared,
    traverses_iff_exists_greedySplit declared]
  rintro ⟨cut, split⟩
  rcases split.exists_distinguishing atIndex atNext with
    ⟨entry, member, accepted, rejected⟩
  exact rejected (subsumed entry member accepted)

end Checker

end PhaseAssertions
