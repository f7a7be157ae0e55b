import PhaseAssertions.Proofs.Evaluation

/-!
# Tests that skip a lead

A checker can pass over the entries before the first one that satisfies its
first phase.  It finds that entry by a scan and enters the walk behind it,
with the first phase already matched.  The main statement says that this is
the same as a test of the remaining entries from their first one on, failure
by failure, up to the positions of entries, which count the skipped ones.
-/

namespace PhaseAssertions

universe u

variable {Entry : Type u}

/-! ## The first match -/

/-- Whether the entry at `position` is the first one that satisfies `group`. -/
def FirstMatch
    (group : PhaseGroup Entry) (entries : List Entry) (position : Nat) : Prop :=
  ∃ lead entry rest,
    entries = lead ++ entry :: rest ∧ lead.length = position ∧
      group.Holds entry ∧ ∀ skipped ∈ lead, ¬ group.Holds skipped

theorem exists_firstMatch
    {group : PhaseGroup Entry} {entries : List Entry}
    (satisfied : ∃ entry ∈ entries, group.Holds entry) :
    ∃ position, FirstMatch group entries position := by
  induction entries with
  | nil => simp at satisfied
  | cons entry rest induction =>
      by_cases begins : group.Holds entry
      · exact ⟨0, [], entry, rest, rfl, rfl, begins, by simp⟩
      · have later : ∃ entry ∈ rest, group.Holds entry := by
          simpa [begins] using satisfied
        rcases induction later with
          ⟨position, lead, found, remaining, rfl, length, holds, skipped⟩
        refine
          ⟨position + 1, entry :: lead, found, remaining, rfl, by simp [length],
            holds, ?_⟩
        intro candidate member
        rcases List.mem_cons.1 member with rfl | member
        · exact begins
        · exact skipped candidate member

/-- Either no entry satisfies a phase, or the first one that does ends a lead. -/
theorem unmatched_or_exists_lead
    (group : PhaseGroup Entry) (entries : List Entry) :
    (∀ entry ∈ entries, ¬ group.Holds entry) ∨
      ∃ lead entry rest,
        entries = lead ++ entry :: rest ∧ group.Holds entry ∧
          ∀ skipped ∈ lead, ¬ group.Holds skipped := by
  by_cases satisfied : ∃ entry ∈ entries, group.Holds entry
  · rcases exists_firstMatch satisfied with
      ⟨_, lead, entry, rest, split, _, begins, skipped⟩
    exact .inr ⟨lead, entry, rest, split, begins, skipped⟩
  · left
    intro entry member holds
    exact satisfied ⟨entry, member, holds⟩

namespace Checker

/-- The checker with the same phases that skips no entries. -/
def fromStart (checker : Checker Entry) : Checker Entry :=
  { checker with skipUntilFirst := false }

variable [Snapshot Entry]
variable {checker : Checker Entry} {entries : List Entry}
variable {first : PhaseGroup Entry} {later : List (PhaseGroup Entry)}

/-! ## The scan for it -/

/-- The events of evaluating `group` on all of some entries, the first at `index`. -/
def scanEvents (group : PhaseGroup Entry) (index : Nat) (entries : List Entry) :
    List CheckEvent :=
  (entries.zipIdx index).map fun (entry, position) =>
    .ofEvaluation 0 group position entry

/-- A scan goes through entries that the group rejects. -/
theorem scan_append_of_rejected
    {lead : List Entry} (rejected : ∀ candidate ∈ lead, ¬ first.Holds candidate)
    (index : Nat) (rest : List Entry) :
    scan first index (lead ++ rest) =
      { skipped := (scan first (index + lead.length) rest).skipped + lead.length
        remaining := (scan first (index + lead.length) rest).remaining
        events :=
          scanEvents first index lead ++ (scan first (index + lead.length) rest).events } := by
  induction lead generalizing index with
  | nil => rfl
  | cons entry lead induction =>
      rw [List.forall_mem_cons] at rejected
      rw [List.cons_append, scan, if_neg (mt (first.passed_evaluate_iff entry).1 rejected.1),
        induction rejected.2 (index + 1), List.length_cons, Nat.add_right_comm,
        ← Nat.add_assoc, ← Nat.add_assoc]
      rfl

theorem scan_of_unmatched
    (unmatched : ∀ candidate ∈ entries, ¬ first.Holds candidate) :
    scan first 0 entries = ⟨entries.length, [], scanEvents first 0 entries⟩ := by
  have scanned := scan_append_of_rejected unmatched 0 []
  rw [List.append_nil] at scanned
  rw [scanned]
  simp [scan]

theorem scan_of_match
    {lead rest : List Entry} {entry : Entry} (begins : first.Holds entry)
    (skipped : ∀ candidate ∈ lead, ¬ first.Holds candidate) :
    scan first 0 (lead ++ entry :: rest) =
      ⟨lead.length, entry :: rest, scanEvents first 0 (lead ++ [entry])⟩ := by
  rw [scan_append_of_rejected skipped, scan, if_pos ((first.passed_evaluate_iff entry).2 begins)]
  simp [scanEvents, List.zipIdx_append]

/-! ## Tests -/

theorem test_eq_walkFromFirst
    {entry : Entry} {rest : List Entry}
    (all : checker.mode = .allEntries)
    (skips : checker.skipUntilFirst = true)
    (declared : checker.groups = first :: later)
    (selection : checker.selected entries = entry :: rest) :
    checker.test entries = (walkFromFirst first later entry rest).failures := by
  simp [test, run, evaluate, all, skips, declared, selection]

theorem walkFromFirst_of_unmatched
    {entry : Entry} {rest : List Entry}
    (unmatched : ∀ candidate ∈ entry :: rest, ¬ first.Holds candidate) :
    (walkFromFirst first later entry rest).failures =
      [{ kind := .phaseMismatch
         phase := first.name
         location := .span (Snapshot.timestamp entry) (lastTimestamp entry rest)
         reason := "no entry satisfies " ++ first.name }] := by
  rw [walkFromFirst, scan_of_unmatched unmatched]

theorem walkFromFirst_of_match
    {head entry : Entry} {others lead rest : List Entry}
    (split : head :: others = lead ++ entry :: rest)
    (begins : first.Holds entry)
    (skipped : ∀ candidate ∈ lead, ¬ first.Holds candidate) :
    (walkFromFirst first later head others).failures =
      (walkAll first later entry rest).failures.map
        (Failure.moved lead.length) := by
  have entered :
      ((Cursor.start first later).walk 0 (entry :: rest)).outcome =
        ({ Cursor.start first later with matched := true }.walk 1 rest).outcome := by
    have step :
        ((Cursor.start first later).advance 0 entry).outcome =
          .ok { Cursor.start first later with matched := true } :=
      Cursor.transition_iff.1 (.stay _ begins)
    rw [Cursor.outcome_walk_cons, step]
    rfl
  rw [walkFromFirst, split, scan_of_match begins skipped]
  apply Progress.failures_moved
  rw [entered, Nat.add_comm]
  exact Cursor.outcome_walk_add _ 1 lead.length rest

/--
A test that skips a lead fails as a whole if no entry satisfies the first
phase.  Otherwise it reports what a test of the entries from the first match on
reports, with the positions of entries moved by the length of the lead.
-/
theorem test_skipUntilFirst
    (all : checker.mode = .allEntries)
    (skips : checker.skipUntilFirst = true)
    (declared : checker.groups = first :: later)
    (evaluated : checker.selected entries ≠ []) :
    ((¬ ∃ entry ∈ checker.selected entries, first.Holds entry) →
      ∃ head final,
        (checker.selected entries).head? = some head ∧
          (checker.selected entries).getLast? = some final ∧
          checker.test entries =
            [{ kind := .phaseMismatch
               phase := first.name
               location :=
                 .span (Snapshot.timestamp head) (Snapshot.timestamp final)
               reason := "no entry satisfies " ++ first.name }]) ∧
    ((∃ entry ∈ checker.selected entries, first.Holds entry) →
      ∃ position,
        FirstMatch first (checker.selected entries) position ∧
          checker.test entries =
            (checker.fromStart.test
              ((checker.selected entries).drop position)).map
                (Failure.moved position)) := by
  rcases List.exists_cons_of_ne_nil evaluated with ⟨head, others, selection⟩
  rw [test_eq_walkFromFirst all skips declared selection]
  constructor
  · intro unmatched
    rw [selection] at unmatched evaluated ⊢
    have finish := List.getLast?_eq_some_getLast evaluated
    refine ⟨head, _, rfl, finish, ?_⟩
    rw [walkFromFirst_of_unmatched, lastTimestamp_eq finish]
    intro candidate member holds
    exact unmatched ⟨candidate, member, holds⟩
  · intro satisfied
    rcases exists_firstMatch satisfied with ⟨position, matching⟩
    rcases matching with ⟨lead, entry, rest, split, rfl, begins, skipped⟩
    refine
      ⟨lead.length, ⟨lead, entry, rest, split, rfl, begins, skipped⟩, ?_⟩
    have remaining : (checker.selected entries).drop lead.length = entry :: rest := by
      rw [split, List.drop_left]
    have kept :
        checker.fromStart.selected (entry :: rest) = entry :: rest := by
      have subset : entry :: rest ⊆ checker.fromStart.selected entries := by
        change entry :: rest ⊆ checker.selected entries
        rw [split]
        exact List.subset_append_right _ _
      exact selected_of_subset subset
    have mode : checker.fromStart.mode = .allEntries := all
    have program : checker.fromStart.groups = first :: later := declared
    rw [remaining, test_eq_failures mode rfl program kept,
      walkFromFirst_of_match (selection.symm.trans split) begins skipped]
    rfl

theorem opening_skipping_moves :
    opening.skippingUntilFirst.mode = .allEntries ∧
      opening.skippingUntilFirst.skipUntilFirst = true ∧
      opening.skippingUntilFirst.selected flickering ≠ [] ∧
      ∃ first later,
        opening.skippingUntilFirst.groups = first :: later ∧
          (∃ entry ∈ opening.skippingUntilFirst.selected flickering,
            first.Holds entry) ∧
          ∃ position,
            FirstMatch first (opening.skippingUntilFirst.selected flickering)
              position ∧
              opening.skippingUntilFirst.test flickering =
                (opening.skippingUntilFirst.fromStart.test
                  ((opening.skippingUntilFirst.selected flickering).drop
                    position)).map (Failure.moved position) :=
  ⟨rfl, rfl, by decide, _, _, rfl, by decide,
    (test_skipUntilFirst rfl rfl rfl (by decide)).2 (by decide)⟩

end Checker

end PhaseAssertions
