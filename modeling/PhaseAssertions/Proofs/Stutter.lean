import PhaseAssertions.Proofs.Selection
import PhaseAssertions.Proofs.SkippedLead

/-!
# Tests of a trace that stutters

A trace can hold an entry several times in a row, because a snapshot was taken
again before anything had changed.  No test takes notice of such copies, except
that they count in the positions of the entries behind them.

A walk stays where it is when it meets an entry again: the phase that accepted
it is now the current one.  Everything else that a test looks at, the entries
within the range, the lead that is skipped, the first and the last entry, is
the same up to copies.
-/

namespace PhaseAssertions

universe u

variable {Entry : Type u}

/-! ## Failures without positions -/

/-- The location with the position of an entry left out. -/
def FailureLocation.unindexed : FailureLocation → FailureLocation
  | .entry _ timestamp => .entry 0 timestamp
  | .span start finish => .span start finish
  | .trace => .trace

/-- The failure with the position of an entry left out. -/
def Failure.unindexed (failure : Failure) : Failure :=
  { failure with location := failure.location.unindexed }

@[simp]
theorem Failure.unindexed_moved (count : Nat) (failure : Failure) :
    (failure.moved count).unindexed = failure.unindexed := by
  rcases failure with ⟨kind, phase, location, reason⟩
  cases location <;> rfl

theorem Failure.map_unindexed_moved (count : Nat) (failures : List Failure) :
    (failures.map (Failure.moved count)).map Failure.unindexed =
      failures.map Failure.unindexed := by
  rw [List.map_map]
  apply List.map_congr_left
  intro failure _
  exact failure.unindexed_moved count

theorem Progress.map_unindexed_failures
    {progress other : Progress Entry}
    (outcome :
      progress.outcome.mapError Failure.unindexed =
        other.outcome.mapError Failure.unindexed)
    (start finish : Int64) :
    (progress.failures start finish).map Failure.unindexed =
      (other.failures start finish).map Failure.unindexed := by
  unfold failures
  cases ended : progress.outcome with
  | error failure =>
      cases otherEnded : other.outcome with
      | error otherFailure =>
          rw [ended, otherEnded] at outcome
          rw [List.map_singleton, List.map_singleton, Except.error.inj outcome]
      | ok otherCursor =>
          rw [ended, otherEnded] at outcome
          cases outcome
  | ok cursor =>
      cases otherEnded : other.outcome with
      | error otherFailure =>
          rw [ended, otherEnded] at outcome
          cases outcome
      | ok otherCursor =>
          rw [ended, otherEnded] at outcome
          rw [Except.ok.inj outcome]

/-! ## Copies of entries -/

/-- The second list is the first one with copies put directly behind entries. -/
inductive Stutters : List Entry → List Entry → Prop where
  | nil : Stutters [] []
  /-- Any number of copies of an entry follow it. -/
  | cons (entry : Entry) (copies : Nat) {entries stuttered : List Entry}
      (stutters : Stutters entries stuttered) :
      Stutters (entry :: entries)
        (entry :: (List.replicate copies entry ++ stuttered))

namespace Stutters

variable {entries stuttered lead rest : List Entry}

theorem eq_nil (stutters : Stutters [] stuttered) : stuttered = [] := by
  cases stutters
  rfl

theorem exists_cons {entry : Entry}
    (stutters : Stutters (entry :: rest) stuttered) :
    ∃ more, stuttered = entry :: more := by
  cases stutters with
  | cons _ copies inner => exact ⟨_, rfl⟩

theorem mem_iff
    (stutters : Stutters entries stuttered) {candidate : Entry} :
    candidate ∈ stuttered ↔ candidate ∈ entries := by
  induction stutters with
  | nil => rfl
  | cons entry copies stutters induction =>
      rw [List.mem_cons, List.mem_append, List.mem_cons, induction,
        List.mem_replicate]
      constructor
      · rintro (rfl | ⟨_, rfl⟩ | inside)
        · exact .inl rfl
        · exact .inl rfl
        · exact .inr inside
      · rintro (rfl | inside)
        · exact .inl rfl
        · exact .inr (.inr inside)

theorem getLast?_eq (stutters : Stutters entries stuttered) :
    stuttered.getLast? = entries.getLast? := by
  induction stutters with
  | nil => rfl
  | @cons entry copies entries stuttered stutters induction =>
      rw [List.getLast?_cons, List.getLast?_cons, List.getLast?_append,
        induction]
      cases entries.getLast? with
      | some final => rfl
      | none => cases copies <;> simp [List.getLast?_replicate]

theorem getLast?_getD_eq {entry : Entry} {more : List Entry}
    (stutters : Stutters (entry :: rest) (entry :: more)) :
    more.getLast?.getD entry = rest.getLast?.getD entry := by
  have last := stutters.getLast?_eq
  rw [List.getLast?_cons, List.getLast?_cons] at last
  exact Option.some.inj last

/-- Leaving entries out leaves their copies out as well. -/
theorem filter
    (stutters : Stutters entries stuttered) (keep : Entry → Bool) :
    Stutters (entries.filter keep) (stuttered.filter keep) := by
  induction stutters with
  | nil => exact .nil
  | cons entry copies stutters induction =>
      by_cases kept : keep entry = true
      · rw [List.filter_cons_of_pos kept, List.filter_cons_of_pos kept,
          List.filter_append, List.filter_replicate_of_pos kept]
        exact .cons entry copies induction
      · rw [List.filter_cons_of_neg kept, List.filter_cons_of_neg kept,
          List.filter_append, List.filter_replicate_of_neg kept,
          List.nil_append]
        exact induction

/-- Where the entries are divided, the list with copies can be divided, too. -/
theorem exists_append
    (stutters : Stutters (lead ++ rest) stuttered) :
    ∃ stutteredLead stutteredRest,
      stuttered = stutteredLead ++ stutteredRest ∧
        Stutters lead stutteredLead ∧ Stutters rest stutteredRest := by
  induction lead generalizing stuttered with
  | nil => exact ⟨[], stuttered, rfl, .nil, stutters⟩
  | cons entry lead induction =>
      cases stutters with
      | cons _ copies inner =>
          rcases induction inner with
            ⟨stutteredLead, stutteredRest, rfl, before, behind⟩
          refine
            ⟨entry :: (List.replicate copies entry ++ stutteredLead),
              stutteredRest, ?_, .cons entry copies before, behind⟩
          rw [List.cons_append, List.append_assoc]

end Stutters

/-! ## Walks -/

namespace Cursor

variable [Snapshot Entry]

/-- An entry that was accepted is accepted again, by the phase that took it. -/
theorem Transition.again
    {index : Nat} {entry : Entry} {cursor next : Cursor Entry}
    (transition : Transition index entry cursor (.ok next)) (other : Nat) :
    Transition other entry next (.ok next) := by
  cases transition with
  | stay cursor accepted =>
      exact .stay { cursor with matched := true } accepted
  | @handOver passed rest current next rejected accepted =>
      exact .stay ⟨passed ++ [current], next, rest, true⟩ accepted

theorem outcome_walk_replicate
    {index : Nat} {entry : Entry} {cursor next : Cursor Entry}
    (transition : Transition index entry cursor (.ok next))
    (copies other : Nat) :
    (next.walk other (List.replicate copies entry)).outcome = .ok next := by
  induction copies generalizing other with
  | zero => rfl
  | succ copies induction =>
      rw [List.replicate_succ, outcome_walk_cons,
        transition_iff.1 (transition.again other)]
      exact induction (other + 1)

/-- The position at which a walk starts only counts in positions. -/
theorem outcome_walk_unindexed
    (cursor : Cursor Entry) (index : Nat) (entries : List Entry) :
    (cursor.walk index entries).outcome.mapError Failure.unindexed =
      (cursor.walk 0 entries).outcome.mapError Failure.unindexed := by
  have moved := cursor.outcome_walk_add 0 index entries
  rw [Nat.zero_add] at moved
  rw [moved]
  cases (cursor.walk 0 entries).outcome with
  | ok next => rfl
  | error failure => exact congrArg Except.error (failure.unindexed_moved index)

/-- Copies do not change what a walk comes to, but for positions. -/
theorem outcome_walk_stutters
    {entries stuttered : List Entry}
    (stutters : Stutters entries stuttered) (cursor : Cursor Entry) :
    (cursor.walk 0 stuttered).outcome.mapError Failure.unindexed =
      (cursor.walk 0 entries).outcome.mapError Failure.unindexed := by
  induction stutters generalizing cursor with
  | nil => rfl
  | @cons entry copies entries stuttered stutters induction =>
      rw [outcome_walk_cons, outcome_walk_cons]
      cases stepped : (cursor.advance 0 entry).outcome with
      | error failure => rfl
      | ok next =>
          have stays :
              (next.walk (0 + 1) (List.replicate copies entry)).outcome =
                .ok next :=
            outcome_walk_replicate (transition_iff.2 stepped) copies (0 + 1)
          simp only [Except.bind, outcome_walk_append, stays]
          rw [outcome_walk_unindexed next _ stuttered,
            outcome_walk_unindexed next _ entries]
          exact induction next

end Cursor

/-! ## Tests -/

namespace Checker

variable [Snapshot Entry]
variable {first : PhaseGroup Entry} {later : List (PhaseGroup Entry)}
variable {entry : Entry} {rest more entries stuttered : List Entry}

theorem lastTimestamp_of_stutters
    (stutters : Stutters (entry :: rest) (entry :: more)) :
    lastTimestamp entry more = lastTimestamp entry rest := by
  rw [lastTimestamp, lastTimestamp, stutters.getLast?_getD_eq]

theorem walkAll_stutters
    (stutters : Stutters (entry :: rest) (entry :: more)) :
    (walkAll first later entry more).failures.map Failure.unindexed =
      (walkAll first later entry rest).failures.map Failure.unindexed := by
  rw [failures_walkAll, failures_walkAll, lastTimestamp_of_stutters stutters]
  exact
    Progress.map_unindexed_failures
      (Cursor.outcome_walk_stutters stutters (Cursor.start first later)) _ _

theorem walkFromFirst_stutters
    (stutters : Stutters (entry :: rest) (entry :: more)) :
    (walkFromFirst first later entry more).failures.map Failure.unindexed =
      (walkFromFirst first later entry rest).failures.map Failure.unindexed := by
  rcases unmatched_or_exists_lead first (entry :: rest) with
    unmatched | ⟨lead, begin, behind, split, begins, skipped⟩
  · have unmatchedMore :
        ∀ candidate ∈ entry :: more, ¬ first.Holds candidate := by
      intro candidate member
      exact unmatched candidate (stutters.mem_iff.1 member)
    rw [walkFromFirst_of_unmatched unmatched,
      walkFromFirst_of_unmatched unmatchedMore,
      lastTimestamp_of_stutters stutters]
  · rw [split] at stutters
    rcases stutters.exists_append with
      ⟨stutteredLead, stutteredRest, splitMore, before, remaining⟩
    rcases remaining.exists_cons with ⟨stutteredBehind, rfl⟩
    have skippedMore :
        ∀ candidate ∈ stutteredLead, ¬ first.Holds candidate := by
      intro candidate member
      exact skipped candidate (before.mem_iff.1 member)
    rw [walkFromFirst_of_match split begins skipped,
      walkFromFirst_of_match splitMore begins skippedMore,
      Failure.map_unindexed_moved, Failure.map_unindexed_moved]
    exact walkAll_stutters remaining

theorem checkBoundary_unindexed
    (position index other : Nat) (entry : Entry)
    (groups : List (PhaseGroup Entry)) :
    (checkBoundary position index entry groups).failures.map Failure.unindexed =
      (checkBoundary position other entry groups).failures.map
        Failure.unindexed := by
  rw [failures_checkBoundary, failures_checkBoundary, List.map_map,
    List.map_map]
  rfl

theorem evaluate_stutters
    (checker : Checker Entry)
    (stutters : Stutters (entry :: rest) (entry :: more)) :
    (checker.evaluate first later entry more).failures.map Failure.unindexed =
      (checker.evaluate first later entry rest).failures.map
        Failure.unindexed := by
  unfold evaluate
  cases checker.mode with
  | firstEntry => rfl
  | lastEntry =>
      rw [stutters.getLast?_getD_eq]
      exact checkBoundary_unindexed 0 _ _ _ _
  | allEntries =>
      cases checker.skipUntilFirst with
      | false => exact walkAll_stutters stutters
      | true => exact walkFromFirst_stutters stutters

theorem selected_stutters
    (checker : Checker Entry) (stutters : Stutters entries stuttered) :
    Stutters (checker.selected entries) (checker.selected stuttered) := by
  unfold selected
  cases checker.range with
  | none => exact stutters
  | some range => exact stutters.filter _

/--
Copies behind entries change nothing that a test reports but the positions of
entries, whatever the phases and the settings of the checker are.
-/
theorem test_stutters
    (checker : Checker Entry) (stutters : Stutters entries stuttered) :
    (checker.test stuttered).map Failure.unindexed =
      (checker.test entries).map Failure.unindexed := by
  have kept := checker.selected_stutters stutters
  cases selection : checker.selected entries with
  | nil =>
      rw [selection] at kept
      rw [test_of_nothing_selected selection,
        test_of_nothing_selected kept.eq_nil]
  | cons entry rest =>
      rw [selection] at kept
      rcases kept.exists_cons with ⟨more, selectionMore⟩
      rw [selectionMore] at kept
      cases declared : checker.groups with
      | nil =>
          rw [test_of_undeclared declared selection,
            test_of_undeclared declared selectionMore]
      | cons first later =>
          rw [test_eq_evaluate declared selection,
            test_eq_evaluate declared selectionMore]
          exact checker.evaluate_stutters kept

/-- The entries of `flickering`, some of which were observed again. -/
def flickeringRepeated : List WindowManagerEntry :=
  [ singleWindow 0 true, singleWindow 0 true, singleWindow 1 true,
    singleWindow 1 true, singleWindow 2 false, singleWindow 3 true,
    singleWindow 3 true, singleWindow 3 true, singleWindow 4 false,
    singleWindow 4 false, singleWindow 5 true ]

theorem flickering_repeated :
    Stutters flickering flickeringRepeated ∧
      (opening.skippingUntilFirst.test flickeringRepeated).map
          Failure.unindexed =
        (opening.skippingUntilFirst.test flickering).map Failure.unindexed := by
  have stutters : Stutters flickering flickeringRepeated := by
    apply Stutters.cons (singleWindow 0 true) 1
    apply Stutters.cons (singleWindow 1 true) 1
    apply Stutters.cons (singleWindow 2 false) 0
    apply Stutters.cons (singleWindow 3 true) 2
    apply Stutters.cons (singleWindow 4 false) 1
    apply Stutters.cons (singleWindow 5 true) 0
    exact .nil
  exact ⟨stutters, test_stutters opening.skippingUntilFirst stutters⟩

end Checker

end PhaseAssertions
