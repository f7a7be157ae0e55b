import PhaseAssertions.Proofs.Selection
import PhaseAssertions.Proofs.SkippedLead

/-!
# Tests of a trace that goes on

A test of all entries can be read as a monitor that has seen a part of a trace.
What it says about this part restricts what it can say once more entries have
come: the rejection of an entry is final, a passed program can only fail at a
later entry in its last phase, and the phases reported as unreached become
fewer from the front.

The reason is that a walk never returns to a phase.  The phases that a cursor
has not left yet are the current one and those to come; each transition leads
to a suffix of them, and only one of them can be blamed.
-/

namespace PhaseAssertions

universe u

variable {Entry : Type u}

/-- Whether the failure rejects one entry, which stands at `position` or later. -/
def Failure.RejectsFrom (position : Nat) (failure : Failure) : Prop :=
  failure.kind = .predicateFailure ∧
    ∃ index timestamp,
      failure.location = .entry index timestamp ∧ position ≤ index

namespace Cursor

/-! ## Phases that were not left yet -/

/-- The current phase and those still to come. -/
def remaining (cursor : Cursor Entry) : List (PhaseGroup Entry) :=
  cursor.current :: cursor.later

theorem later_suffix_of_remaining_suffix
    {cursor next : Cursor Entry}
    (fewer : next.remaining <:+ cursor.remaining) :
    next.later <:+ cursor.later := by
  rcases List.suffix_cons_iff.1 fewer with equal | inside
  · have same : next.later = cursor.later := (List.cons.inj equal).2
    exact same ▸ List.suffix_refl next.later
  · exact (List.suffix_cons next.current next.later).trans inside

theorem map_phase_unreached
    (cursor : Cursor Entry) (start finish : Int64) :
    (cursor.unreached start finish).map Failure.phase =
      cursor.later.map PhaseGroup.name := by
  rw [unreached, List.map_map]
  rfl

theorem kind_of_mem_unreached
    {cursor : Cursor Entry} {start finish : Int64} {failure : Failure}
    (member : failure ∈ cursor.unreached start finish) :
    failure.kind = .phaseMismatch := by
  rcases List.mem_map.1 member with ⟨group, _, rfl⟩
  rfl

variable [Snapshot Entry]

theorem rejection_rejectsFrom
    {position index : Nat} (ordered : position ≤ index)
    (group : PhaseGroup Entry) (entry : Entry) :
    (rejection group index entry).RejectsFrom position :=
  ⟨rfl, index, Snapshot.timestamp entry, rfl, ordered⟩

/-- A transition returns to no phase. -/
theorem Transition.remaining_suffix
    {index : Nat} {entry : Entry} {cursor next : Cursor Entry}
    (transition : Transition index entry cursor (.ok next)) :
    next.remaining <:+ cursor.remaining := by
  cases transition with
  | stay cursor accepted => exact List.suffix_refl _
  | handOver rejected accepted => exact List.suffix_cons _ _

/-- A transition that fails blames a phase that was not left yet. -/
theorem Transition.exists_mem_remaining
    {index : Nat} {entry : Entry} {cursor : Cursor Entry} {failure : Failure}
    (transition : Transition index entry cursor (.error failure)) :
    ∃ group ∈ cursor.remaining, failure = rejection group index entry := by
  cases transition with
  | @refuse passed rest current next rejected refused =>
      exact ⟨next, by simp [remaining], rfl⟩
  | block cursor rejected stuck =>
      exact ⟨cursor.current, List.mem_cons_self, rfl⟩

theorem remaining_suffix_of_walk
    {cursor next : Cursor Entry} {index : Nat} {entries : List Entry}
    (walked : (cursor.walk index entries).outcome = .ok next) :
    next.remaining <:+ cursor.remaining := by
  induction entries generalizing cursor index with
  | nil =>
      obtain rfl : cursor = next := by simpa using walked
      exact List.suffix_refl _
  | cons entry rest induction =>
      rw [outcome_walk_cons] at walked
      cases stepped : (cursor.advance index entry).outcome with
      | error failure =>
          rw [stepped] at walked
          cases walked
      | ok middle =>
          rw [stepped] at walked
          have step := (transition_iff.2 stepped).remaining_suffix
          exact (induction walked).trans step

/-- A walk that fails blames a phase that was not left when the walk began. -/
theorem exists_mem_remaining_of_walk
    {cursor : Cursor Entry} {index : Nat} {entries : List Entry}
    {failure : Failure}
    (failed : (cursor.walk index entries).outcome = .error failure) :
    ∃ group ∈ cursor.remaining, ∃ position entry,
      index ≤ position ∧ failure = rejection group position entry := by
  rcases (outcome_walk_eq_error_iff _ _ _ _).1 failed with
    ⟨before, entry, after, middle, _, walked, transition⟩
  rcases transition.exists_mem_remaining with ⟨group, member, blamed⟩
  have fewer := remaining_suffix_of_walk walked
  exact
    ⟨group, fewer.subset member, index + before.length, entry,
      Nat.le_add_right _ _, blamed⟩

end Cursor

/-- A walk that reports a rejected entry has failed by it. -/
theorem Progress.outcome_of_rejection
    {progress : Progress Entry} {start finish : Int64} {failure : Failure}
    (reported : failure ∈ progress.failures start finish)
    (rejects : failure.kind = .predicateFailure) :
    progress.outcome = .error failure := by
  unfold failures at reported
  cases outcome : progress.outcome with
  | error cause =>
      rw [outcome, List.mem_singleton] at reported
      rw [reported]
  | ok cursor =>
      rw [outcome] at reported
      have unreached := Cursor.kind_of_mem_unreached reported
      rw [rejects] at unreached
      contradiction

namespace Checker

variable [Snapshot Entry]

/-! ## Rejections are final -/

theorem walkAll_append_of_rejection
    {first : PhaseGroup Entry} {later : List (PhaseGroup Entry)}
    {entry : Entry} {rest : List Entry} {failure : Failure}
    (reported : failure ∈ (walkAll first later entry rest).failures)
    (rejects : failure.kind = .predicateFailure) (more : List Entry) :
    (walkAll first later entry rest).failures = [failure] ∧
      (walkAll first later entry (rest ++ more)).failures = [failure] := by
  have failed :
      ((Cursor.start first later).walk 0 (entry :: rest)).outcome =
        .error failure :=
    Progress.outcome_of_rejection reported rejects
  have still :
      ((Cursor.start first later).walk 0 (entry :: (rest ++ more))).outcome =
        .error failure := by
    rw [← List.cons_append, Cursor.outcome_walk_append, failed]
    rfl
  constructor
  · rw [failures_walkAll, Progress.failures, failed]
  · rw [failures_walkAll, Progress.failures, still]

theorem walkFromFirst_append_of_rejection
    {first : PhaseGroup Entry} {later : List (PhaseGroup Entry)}
    {head : Entry} {others : List Entry} {failure : Failure}
    (reported : failure ∈ (walkFromFirst first later head others).failures)
    (rejects : failure.kind = .predicateFailure) (more : List Entry) :
    (walkFromFirst first later head others).failures = [failure] ∧
      (walkFromFirst first later head (others ++ more)).failures = [failure] := by
  rcases unmatched_or_exists_lead first (head :: others) with
    unmatched | ⟨lead, entry, rest, split, begins, skipped⟩
  · rw [walkFromFirst_of_unmatched unmatched] at reported
    rw [List.mem_singleton.1 reported] at rejects
    contradiction
  · have longer : head :: (others ++ more) = lead ++ entry :: (rest ++ more) := by
      rw [← List.cons_append, split, List.append_assoc, List.cons_append]
    rw [walkFromFirst_of_match split begins skipped] at reported ⊢
    rw [walkFromFirst_of_match longer begins skipped]
    -- The failure of the entries behind the lead, before it is moved.
    rcases List.mem_map.1 reported with ⟨cause, reportedBehind, rfl⟩
    rcases walkAll_append_of_rejection reportedBehind rejects more with
      ⟨fails, still⟩
    rw [fails, still]
    exact ⟨rfl, rfl⟩

variable {checker : Checker Entry} {seen : List Entry}
variable {first : PhaseGroup Entry} {later : List (PhaseGroup Entry)}

theorem test_append_of_rejection
    (all : checker.mode = .allEntries)
    (unranged : checker.range = none)
    (declared : checker.groups = first :: later)
    (evaluated : seen ≠ []) {failure : Failure}
    (reported : failure ∈ checker.test seen)
    (rejects : failure.kind = .predicateFailure) (more : List Entry) :
    checker.test seen = [failure] ∧ checker.test (seen ++ more) = [failure] := by
  rcases List.exists_cons_of_ne_nil evaluated with ⟨head, others, rfl⟩
  have tested :
      ∀ rest,
        checker.test (head :: rest) =
          (checker.evaluate first later head rest).failures := by
    intro rest
    exact test_eq_evaluate declared (selected_of_range_eq_none unranged _)
  rw [tested] at reported ⊢
  rw [List.cons_append, tested]
  unfold evaluate at reported ⊢
  rw [all] at reported ⊢
  cases skips : checker.skipUntilFirst with
  | false =>
      rw [skips] at reported
      exact walkAll_append_of_rejection reported rejects more
  | true =>
      rw [skips] at reported
      exact walkFromFirst_append_of_rejection reported rejects more

/-! ## Verdicts that are still open -/

/--
As long as no entry is rejected, the test stands in some phase and reports the
phases after it.  With more entries it either reports the last of these only, or
it rejects one of the new entries in a phase that it has not left yet.
-/
theorem test_append_of_unrejected
    (all : checker.mode = .allEntries)
    (unskipped : checker.skipUntilFirst = false)
    (unranged : checker.range = none)
    (declared : checker.groups = first :: later)
    (evaluated : seen ≠ [])
    (unrejected :
      ∀ failure ∈ checker.test seen, failure.kind = .phaseMismatch)
    (more : List Entry) :
    ∃ passed current rest,
      checker.groups = passed ++ current :: rest ∧
        (checker.test seen).map Failure.phase = rest.map PhaseGroup.name ∧
        ((∃ unreached,
            unreached <:+ rest ∧
              (checker.test (seen ++ more)).map Failure.phase =
                unreached.map PhaseGroup.name ∧
              ∀ failure ∈ checker.test (seen ++ more),
                failure.kind = .phaseMismatch) ∨
          ∃ failure,
            checker.test (seen ++ more) = [failure] ∧
              failure.RejectsFrom seen.length ∧
              ∃ group ∈ current :: rest, failure.phase = group.name) := by
  rcases List.exists_cons_of_ne_nil evaluated with ⟨head, others, rfl⟩
  have tested :
      ∀ rest,
        checker.test (head :: rest) =
          ((Cursor.start first later).walk 0 (head :: rest)).failures
            (Snapshot.timestamp head) (lastTimestamp head rest) := by
    intro rest
    exact
      test_eq_failures all unskipped declared
        (selected_of_range_eq_none unranged _)
  cases walked :
      ((Cursor.start first later).walk 0 (head :: others)).outcome with
  | error failure =>
      rcases Cursor.exists_mem_remaining_of_walk walked with
        ⟨group, _, position, entry, _, rfl⟩
      have kind :=
        unrejected (Cursor.rejection group position entry)
          (by simp [tested, Progress.failures, walked])
      contradiction
  | ok cursor =>
      obtain ⟨program, reports⟩ :
          checker.groups = cursor.passed ++ cursor.remaining ∧
            (checker.test (head :: others)).map Failure.phase =
              cursor.later.map PhaseGroup.name := by
        constructor
        · cases reached_of_walk walked with
          | inside traversed program => exact declared.trans program
        · rw [tested, Progress.failures, walked]
          exact cursor.map_phase_unreached _ _
      refine ⟨cursor.passed, cursor.current, cursor.later, program, reports, ?_⟩
      have goesOn :
          ((Cursor.start first later).walk 0 (head :: (others ++ more))).outcome =
            (cursor.walk (head :: others).length more).outcome := by
        rw [← List.cons_append, Cursor.outcome_walk_append, walked,
          Nat.zero_add]
        rfl
      rw [List.cons_append, tested, Progress.failures, goesOn]
      cases ended : (cursor.walk (head :: others).length more).outcome with
      | ok next =>
          have fewer := Cursor.remaining_suffix_of_walk ended
          refine .inl ⟨next.later, ?_, next.map_phase_unreached _ _, ?_⟩
          · exact Cursor.later_suffix_of_remaining_suffix fewer
          · intro failure member
            exact Cursor.kind_of_mem_unreached member
      | error failure =>
          rcases Cursor.exists_mem_remaining_of_walk ended with
            ⟨group, member, position, entry, ordered, rfl⟩
          exact
            .inr
              ⟨_, rfl, Cursor.rejection_rejectsFrom ordered group entry, group,
                member, rfl⟩

/--
What a test says about the entries seen so far, and what it can say when more
entries follow.  A rejection is final, whether a lead is skipped or not.
Without skipping, a test that passes can only fail in the last phase at one of
the new entries; and unreached phases are reached, or stay unreached from some
phase on, or one of the new entries is rejected.
-/
theorem test_append
    (all : checker.mode = .allEntries)
    (unranged : checker.range = none)
    (declared : checker.groups ≠ [])
    (evaluated : seen ≠ []) (more : List Entry) :
    (∀ failure ∈ checker.test seen, failure.kind = .predicateFailure →
      checker.test seen = [failure] ∧
        checker.test (seen ++ more) = [failure]) ∧
    (checker.skipUntilFirst = false → checker.test seen = [] →
      checker.test (seen ++ more) = [] ∨
        ∃ failure last,
          checker.test (seen ++ more) = [failure] ∧
            failure.RejectsFrom seen.length ∧
            checker.groups.getLast? = some last ∧ failure.phase = last.name) ∧
    (checker.skipUntilFirst = false →
      (∀ failure ∈ checker.test seen, failure.kind = .phaseMismatch) →
        checker.test (seen ++ more) = [] ∨
        (∃ failure,
          checker.test (seen ++ more) = [failure] ∧
            failure.RejectsFrom seen.length) ∨
        (∀ failure ∈ checker.test (seen ++ more),
            failure.kind = .phaseMismatch) ∧
          (checker.test (seen ++ more)).map Failure.phase <:+
            (checker.test seen).map Failure.phase) := by
  rcases List.exists_cons_of_ne_nil declared with ⟨first, later, program⟩
  refine ⟨?_, ?_, ?_⟩
  · intro failure reported rejects
    exact
      test_append_of_rejection all unranged program evaluated reported rejects more
  · intro unskipped passes
    have unrejected :
        ∀ failure ∈ checker.test seen, failure.kind = .phaseMismatch := by
      simp [passes]
    rcases test_append_of_unrejected all unskipped unranged program evaluated
        unrejected more with
      ⟨passed, current, rest, split, reports, continued⟩
    obtain rfl : rest = [] := by simpa [passes] using reports.symm
    rcases continued with
      ⟨unreached, fewer, named, _⟩ |
        ⟨failure, reported, rejects, group, member, phase⟩
    · left
      rw [List.suffix_nil] at fewer
      simpa [fewer] using named
    · right
      obtain rfl : group = current := List.mem_singleton.1 member
      exact ⟨failure, group, reported, rejects, by simp [split], phase⟩
  · intro unskipped unrejected
    rcases test_append_of_unrejected all unskipped unranged program evaluated
        unrejected more with
      ⟨passed, current, rest, split, reports, continued⟩
    right
    rcases continued with
      ⟨unreached, fewer, named, mismatches⟩ | ⟨failure, reported, rejects, _⟩
    · right
      rw [named, reports]
      exact ⟨mismatches, fewer.map PhaseGroup.name⟩
    · left
      exact ⟨failure, reported, rejects⟩

theorem opening_append :
    opening.unbounded.mode = .allEntries ∧ opening.unbounded.range = none ∧
      opening.unbounded.groups ≠ [] ∧
      (shownOnce.take 2 ≠ [] ∧
        (∀ failure ∈ opening.unbounded.test (shownOnce.take 2),
          failure.kind = .phaseMismatch) ∧
        (opening.unbounded.test (shownOnce.take 2 ++ shownOnce.drop 2) = [] ∨
          (∃ failure,
            opening.unbounded.test (shownOnce.take 2 ++ shownOnce.drop 2) =
                [failure] ∧
              failure.RejectsFrom 2) ∨
          (∀ failure ∈
              opening.unbounded.test (shownOnce.take 2 ++ shownOnce.drop 2),
              failure.kind = .phaseMismatch) ∧
            (opening.unbounded.test (shownOnce.take 2 ++ shownOnce.drop 2)).map
                Failure.phase <:+
              (opening.unbounded.test (shownOnce.take 2)).map Failure.phase)) ∧
      (shownOnce.take 4 ≠ [] ∧ opening.unbounded.test (shownOnce.take 4) = [] ∧
        (opening.unbounded.test (shownOnce.take 4 ++ shownOnce.drop 4) = [] ∨
          ∃ failure last,
            opening.unbounded.test (shownOnce.take 4 ++ shownOnce.drop 4) =
                [failure] ∧
              failure.RejectsFrom 4 ∧
              opening.unbounded.groups.getLast? = some last ∧
              failure.phase = last.name)) ∧
      ∃ failure ∈ opening.unbounded.skippingUntilFirst.test (flickering.take 5),
        failure.kind = .predicateFailure ∧
          opening.unbounded.skippingUntilFirst.test
              (flickering.take 5 ++ flickering.drop 5) =
            [failure] := by
  have declared : opening.unbounded.groups ≠ [] := by
    simp [opening, unbounded, groups, withinRange, add]
  have mismatches :
      ∀ failure ∈ opening.unbounded.test (shownOnce.take 2),
        failure.kind = .phaseMismatch := by
    decide
  have passes : opening.unbounded.test (shownOnce.take 4) = [] := by
    decide
  obtain ⟨failure, reported, rejects⟩ :
      ∃ failure ∈ opening.unbounded.skippingUntilFirst.test (flickering.take 5),
        failure.kind = .predicateFailure := by
    decide
  have skipping : opening.unbounded.skippingUntilFirst.groups ≠ [] := declared
  refine
    ⟨rfl, rfl, declared, ⟨by decide, mismatches, ?_⟩, ⟨by decide, passes, ?_⟩,
      failure, reported, rejects, ?_⟩
  · exact
      (test_append rfl rfl declared (by decide) (shownOnce.drop 2)).2.2 rfl
        mismatches
  · exact
      (test_append rfl rfl declared (by decide) (shownOnce.drop 4)).2.1 rfl passes
  · exact
      ((test_append rfl rfl skipping (by decide) (flickering.drop 5)).1 failure
        reported rejects).2

end Checker

end PhaseAssertions
