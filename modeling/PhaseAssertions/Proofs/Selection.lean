import PhaseAssertions.Proofs.Evaluation

/-!
# What a test evaluates

A range has one use: it drops the entries outside of it.  So a test is the test
without a range of the entries that were selected.  What happens to those
depends on the mode.  At a boundary one entry is asked about, by the groups one
after the other until a member rejects it, and the positions that the questions
are logged under have no influence on the failure.
-/

namespace PhaseAssertions

universe u

namespace Checker

variable {Entry : Type u}

/-- The checker with the same phases and settings that has no range. -/
def unbounded (checker : Checker Entry) : Checker Entry :=
  { checker with range := none }

@[simp]
theorem groups_unbounded (checker : Checker Entry) :
    checker.unbounded.groups = checker.groups :=
  rfl

variable [Snapshot Entry]

/-! ## Selected entries -/

theorem selected_of_range_eq_none
    {checker : Checker Entry} (unranged : checker.range = none)
    (entries : List Entry) :
    checker.selected entries = entries := by
  rw [selected, unranged]

theorem selected_withinRange
    (checker : Checker Entry) (range : TimestampRange) (entries : List Entry) :
    (checker.withinRange range).selected entries =
      entries.filter fun entry => range.contains (Snapshot.timestamp entry) :=
  rfl

/-- A test is a test without a range of the selected entries. -/
theorem test_eq_unbounded_selected
    (checker : Checker Entry) (entries : List Entry) :
    checker.test entries = checker.unbounded.test (checker.selected entries) := by
  have kept :
      checker.unbounded.selected (checker.selected entries) =
        checker.selected entries :=
    selected_of_range_eq_none rfl _
  rw [test, test, run, run, kept, groups_unbounded]
  cases checker.selected entries with
  | nil => rfl
  | cons entry rest => cases checker.groups <;> rfl

/-! ## Tests without entries or phases -/

theorem test_of_nothing_selected
    {checker : Checker Entry} {entries : List Entry}
    (nothing : checker.selected entries = []) :
    checker.test entries = [Failure.noEntries] := by
  rw [test, run, nothing]

theorem test_of_undeclared
    {checker : Checker Entry} {entries rest : List Entry} {entry : Entry}
    (undeclared : checker.groups = [])
    (selection : checker.selected entries = entry :: rest) :
    checker.test entries = [] := by
  rw [test, run, selection, undeclared]

theorem test_eq_evaluate
    {checker : Checker Entry} {entries rest : List Entry} {entry : Entry}
    {first : PhaseGroup Entry} {later : List (PhaseGroup Entry)}
    (declared : checker.groups = first :: later)
    (selection : checker.selected entries = entry :: rest) :
    checker.test entries = (checker.evaluate first later entry rest).failures := by
  rw [test, run, selection, declared]

theorem failures_walkAll
    (first : PhaseGroup Entry) (later : List (PhaseGroup Entry))
    (entry : Entry) (rest : List Entry) :
    (walkAll first later entry rest).failures =
      ((Cursor.start first later).walk 0 (entry :: rest)).failures
        (Snapshot.timestamp entry) (lastTimestamp entry rest) :=
  rfl

/-! ## A single entry -/

/-- The first member of any of the groups that rejects `entry`, with its verdict. -/
def firstRejection? (groups : List (PhaseGroup Entry)) (entry : Entry) :
    Option (Predicate Entry × Verdict) :=
  groups.findSome? fun group => group.firstFailure? entry

/-- The failure at a boundary is that of the first member to reject the entry. -/
theorem failures_checkBoundary
    (position index : Nat) (entry : Entry) (groups : List (PhaseGroup Entry)) :
    (checkBoundary position index entry groups).failures =
      (firstRejection? groups entry).toList.map fun (predicate, verdict) =>
        .rejection predicate.name index (Snapshot.timestamp entry)
          verdict.reason := by
  induction groups generalizing position with
  | nil => rfl
  | cons group rest induction =>
      rw [checkBoundary, firstRejection?, List.findSome?_cons]
      cases group.firstFailure? entry with
      | none => exact induction (position + 1)
      | some rejected => rfl

end Checker

end PhaseAssertions
