import PhaseAssertions.Proofs.Course
import PhaseAssertions.Proofs.Selection

/-!
# Tests at a boundary

A test at a boundary looks at one entry, the first or the last of those that
were selected, and asks it the predicates of all groups in order until one
rejects it.  Where one group ends and the next one begins has no influence on
this, so the test is the conjunction of the flattened program.

What such a test asks and reports is therefore a function of three things: the
entry, its position, and the predicates in order.  Two tests that agree in
these agree in all, whatever else they differ in.
-/

namespace PhaseAssertions

universe u

variable {Entry : Type u}

/-- The entry that a boundary mode picks out of some entries, with its position. -/
inductive CheckMode.Picks (entries : List Entry) : CheckMode → Nat → Entry → Prop where
  | first {entry : Entry} {rest : List Entry} (split : entries = entry :: rest) :
      Picks entries .firstEntry 0 entry
  | last {before : List Entry} {entry : Entry} (split : entries = before ++ [entry]) :
      Picks entries .lastEntry before.length entry

theorem CheckMode.exists_picks
    {mode : CheckMode} {entries : List Entry}
    (boundary : mode ≠ .allEntries) (evaluated : entries ≠ []) :
    ∃ index entry, mode.Picks entries index entry := by
  cases mode with
  | allEntries => exact absurd rfl boundary
  | firstEntry =>
      obtain ⟨entry, rest, split⟩ := List.exists_cons_of_ne_nil evaluated
      exact ⟨0, entry, .first split⟩
  | lastEntry =>
      obtain ⟨before, entry, split⟩ :=
        (List.eq_nil_or_concat' entries).resolve_left evaluated
      exact ⟨before.length, entry, .last split⟩

theorem CheckMode.Picks.unique
    {mode : CheckMode} {entries : List Entry} {index otherIndex : Nat} {entry other : Entry}
    (picks : mode.Picks entries index entry)
    (otherPicks : mode.Picks entries otherIndex other) :
    otherIndex = index ∧ other = entry := by
  cases picks with
  | first split =>
      cases otherPicks with
      | first otherSplit => exact ⟨rfl, (List.cons.inj (otherSplit.symm.trans split)).1⟩
  | last split =>
      cases otherPicks with
      | last otherSplit =>
          have same := List.append_inj' (otherSplit.symm.trans split) rfl
          exact ⟨congrArg List.length same.1, List.singleton_inj.1 same.2⟩

variable [Snapshot Entry]

/-! ## Asking predicates in order -/

/--
What asking some predicates in order about the entry at `index` comes to: the
questions that are asked, and the failures that are reported.
-/
inductive Interrogation (predicates : List (Predicate Entry)) (index : Nat) (entry : Entry) :
    List Call → List Failure → Prop where
  /-- All predicates accept the entry. -/
  | throughout
      (accepted : ∀ predicate ∈ predicates, (predicate.evaluate entry).passed = true) :
      Interrogation predicates index entry
        (predicates.map fun predicate => predicate.call entry) []
  /-- A predicate rejects the entry, and those after it are not asked. -/
  | upTo
      {before after : List (Predicate Entry)} {rejecting : Predicate Entry}
      (split : predicates = before ++ rejecting :: after)
      (accepted : ∀ predicate ∈ before, (predicate.evaluate entry).passed = true)
      (rejected : (rejecting.evaluate entry).passed = false) :
      Interrogation predicates index entry
        ((before ++ [rejecting]).map fun predicate => predicate.call entry)
        [.rejection rejecting.name index (Snapshot.timestamp entry)
          (rejecting.evaluate entry).reason]

namespace Interrogation

variable {predicates rest : List (Predicate Entry)} {index : Nat} {entry : Entry}
variable {calls otherCalls : List Call} {failures otherFailures : List Failure}

/-- Predicates that accept the entry are asked before all others, and add no failure. -/
theorem prepend
    (interrogation : Interrogation rest index entry calls failures)
    (accepted : ∀ predicate ∈ predicates, (predicate.evaluate entry).passed = true) :
    Interrogation (predicates ++ rest) index entry
      ((predicates.map fun predicate => predicate.call entry) ++ calls) failures := by
  cases interrogation with
  | throughout alsoAccepted =>
      rw [← List.map_append]
      refine .throughout fun predicate member => ?_
      exact (List.mem_append.1 member).elim (accepted predicate) (alsoAccepted predicate)
  | @upTo before after rejecting split alsoAccepted rejected =>
      rw [← List.map_append, ← List.append_assoc]
      refine .upTo (by rw [split, List.append_assoc]) (fun predicate member => ?_) rejected
      exact (List.mem_append.1 member).elim (accepted predicate) (alsoAccepted predicate)

/-- Predicates after one that rejects the entry have no influence. -/
theorem extend
    (interrogation : Interrogation predicates index entry calls failures)
    (reported : failures ≠ []) (rest : List (Predicate Entry)) :
    Interrogation (predicates ++ rest) index entry calls failures := by
  cases interrogation with
  | throughout => exact absurd rfl reported
  | upTo split accepted rejected =>
      exact .upTo (by rw [split, List.append_assoc, List.cons_append]) accepted rejected

theorem calls_eq (interrogation : Interrogation predicates index entry calls failures) :
    calls = (PhaseGroup.asked entry predicates).map fun predicate => predicate.call entry := by
  cases interrogation with
  | throughout accepted => rw [PhaseGroup.asked_throughout accepted]
  | upTo split accepted rejected => rw [split, PhaseGroup.asked_upTo accepted rejected]

theorem failures_eq (interrogation : Interrogation predicates index entry calls failures) :
    failures =
      ((predicates.find? fun predicate => (predicate.evaluate entry).failed).toList.map
        fun predicate =>
          .rejection predicate.name index (Snapshot.timestamp entry)
            (predicate.evaluate entry).reason) := by
  cases interrogation with
  | throughout accepted =>
      have none : (predicates.find? fun predicate => (predicate.evaluate entry).failed) = none := by
        simpa [Verdict.failed] using accepted
      rw [none]
      rfl
  | @upTo before after rejecting split accepted rejected =>
      have found :
          (predicates.find? fun predicate => (predicate.evaluate entry).failed) =
            some rejecting := by
        rw [List.find?_eq_some_iff_append]
        exact ⟨by simp [Verdict.failed, rejected], before, after, split,
          by simpa [Verdict.failed] using accepted⟩
      rw [found]
      rfl

/-- The predicates, the entry and its position settle what is asked and reported. -/
theorem unique
    (interrogation : Interrogation predicates index entry calls failures)
    (other : Interrogation predicates index entry otherCalls otherFailures) :
    otherFailures = failures ∧ otherCalls = calls := by
  rw [interrogation.failures_eq, interrogation.calls_eq, other.failures_eq, other.calls_eq]
  exact ⟨rfl, rfl⟩

end Interrogation

/-! ## Asking groups one after the other -/

/-- What an evaluation asks and finds is what asking the members in order comes to. -/
theorem PhaseGroup.interrogation (group : PhaseGroup Entry) (index : Nat) (entry : Entry) :
    Interrogation group.members index entry (group.calls entry)
      ((group.firstFailure? entry).toList.map fun (predicate, verdict) =>
        .rejection predicate.name index (Snapshot.timestamp entry) verdict.reason) := by
  cases found : group.firstFailure? entry with
  | none =>
      have holds := (group.firstFailure?_eq_none_iff entry).1 found
      rw [calls_of_holds holds]
      exact .throughout holds
  | some rejection =>
      obtain ⟨rejecting, verdict⟩ := rejection
      obtain ⟨⟨before, after, split, accepted, rejected⟩, rfl⟩ :=
        (group.firstFailure?_eq_some_iff entry rejecting verdict).1 found
      rw [calls_of_split split accepted rejected]
      exact .upTo split accepted rejected

namespace Checker

/-- The predicates of all groups in order of declaration. -/
def predicates (checker : Checker Entry) : List (Predicate Entry) :=
  checker.groups.flatMap PhaseGroup.members

/-- The questions that a run asks, in order. -/
def calls (checker : Checker Entry) (entries : List Entry) : List Call :=
  CheckEvent.calls (checker.run entries).events

/-- Asking groups in order is asking the members of all of them in order. -/
theorem interrogation_checkBoundary
    (position index : Nat) (entry : Entry) (groups : List (PhaseGroup Entry)) :
    Interrogation (groups.flatMap PhaseGroup.members) index entry
      (CheckEvent.calls (checkBoundary position index entry groups).events)
      (checkBoundary position index entry groups).failures := by
  induction groups generalizing position with
  | nil => exact .throughout (List.forall_mem_nil _)
  | cons group rest induction =>
      have calls (events : List CheckEvent) :
          CheckEvent.calls (.ofEvaluation position group index entry :: events) =
            group.calls entry ++ CheckEvent.calls events :=
        rfl
      have interrogation := group.interrogation index entry
      rw [checkBoundary, List.flatMap_cons]
      cases found : group.firstFailure? entry with
      | none =>
          have holds := (group.firstFailure?_eq_none_iff entry).1 found
          simp only [calls, PhaseGroup.calls_of_holds holds]
          exact (induction (position + 1)).prepend holds
      | some rejection =>
          rw [found] at interrogation
          simp only [calls]
          simpa [CheckEvent.calls] using
            interrogation.extend (List.cons_ne_nil _ _) (rest.flatMap PhaseGroup.members)

/-- All evaluations are about the one entry. -/
theorem entry_of_mem_checkBoundary
    {position index : Nat} {entry : Entry} {groups : List (PhaseGroup Entry)}
    {evaluation : Evaluation}
    (member :
      evaluation ∈ CheckEvent.evaluations (checkBoundary position index entry groups).events) :
    evaluation.entry = index := by
  induction groups generalizing position with
  | nil => cases member
  | cons group rest induction =>
      rw [checkBoundary] at member
      cases found : group.firstFailure? entry with
      | none =>
          rw [found] at member
          rcases List.mem_cons.1 member with rfl | member
          · rfl
          · exact induction member
      | some rejection =>
          rw [found] at member
          obtain rfl := List.mem_singleton.1 member
          rfl

variable {checker : Checker Entry} {entries : List Entry} {index : Nat} {entry : Entry}

/-- A test at a boundary checks the groups on the entry that the mode picks. -/
theorem evaluate_of_picks
    {head : Entry} {rest : List Entry}
    {first : PhaseGroup Entry} {later : List (PhaseGroup Entry)}
    (picks : checker.mode.Picks (head :: rest) index entry) :
    checker.evaluate first later head rest = checkBoundary 0 index entry (first :: later) := by
  unfold evaluate
  generalize checker.mode = mode at picks ⊢
  cases picks with
  | first split =>
      obtain ⟨rfl, _⟩ := List.cons.inj split
      rfl
  | @last before _ split =>
      have length : rest.length = before.length := by
        simpa using congrArg List.length split
      have last : rest.getLast?.getD head = entry := by
        simpa [List.getLast?_cons] using congrArg List.getLast? split
      simp only [length, last]

omit [Snapshot Entry] in
theorem exists_cons_of_picks
    {mode : CheckMode} {evaluated : List Entry} (picks : mode.Picks evaluated index entry) :
    ∃ head rest, evaluated = head :: rest := by
  cases picks with
  | first split => exact ⟨_, _, split⟩
  | last split => exact List.exists_cons_of_ne_nil (by simp [split])

/-- A test at a boundary asks the predicates of the flattened program in order. -/
theorem interrogation_test (picks : checker.mode.Picks (checker.selected entries) index entry) :
    Interrogation checker.predicates index entry
      (checker.calls entries) (checker.test entries) := by
  obtain ⟨head, rest, selection⟩ := exists_cons_of_picks picks
  cases declared : checker.groups with
  | nil =>
      rw [test_of_undeclared declared selection, calls, calls_eq_nil (.inr declared),
        predicates, declared]
      exact .throughout (List.forall_mem_nil _)
  | cons first later =>
      rw [selection] at picks
      rw [test_eq_evaluate declared selection, predicates, declared]
      change Interrogation _ _ _ ((checker.evaluations entries).flatMap Evaluation.calls) _
      rw [evaluations_eq_evaluate declared selection, evaluate_of_picks picks]
      exact interrogation_checkBoundary 0 index entry (first :: later)

theorem entry_of_mem_evaluations
    (picks : checker.mode.Picks (checker.selected entries) index entry)
    {evaluation : Evaluation} (member : evaluation ∈ checker.evaluations entries) :
    evaluation.entry = index := by
  obtain ⟨head, rest, selection⟩ := exists_cons_of_picks picks
  cases declared : checker.groups with
  | nil =>
      rw [evaluations, run, selection, declared] at member
      cases member
  | cons first later =>
      rw [selection] at picks
      rw [evaluations_eq_evaluate declared selection, evaluate_of_picks picks] at member
      exact entry_of_mem_checkBoundary member

/--
A test of the first or of the last selected entry asks that entry, and no
other, the predicates of all groups in order up to and including the first that
rejects it, which is the only failure.  Any other test at a boundary that picks
the same entry at the same position for the same predicates in order asks and
reports the same: neither the groups that these are parted into count, nor the
range, nor whether a lead is skipped, nor the other entries.
-/
theorem test_boundary
    {checker : Checker Entry} {entries : List Entry}
    (boundary : checker.mode ≠ .allEntries) (evaluated : checker.selected entries ≠ []) :
    ∃ index entry,
      checker.mode.Picks (checker.selected entries) index entry ∧
      Interrogation checker.predicates index entry
        (checker.calls entries) (checker.test entries) ∧
      (∀ evaluation ∈ checker.evaluations entries, evaluation.entry = index) ∧
      ∀ (other : Checker Entry) (others : List Entry),
        other.predicates = checker.predicates →
          other.mode.Picks (other.selected others) index entry →
            other.test others = checker.test entries ∧
              other.calls others = checker.calls entries := by
  obtain ⟨index, entry, picks⟩ := CheckMode.exists_picks boundary evaluated
  have interrogation := interrogation_test picks
  refine ⟨index, entry, picks, interrogation, fun _ => entry_of_mem_evaluations picks, ?_⟩
  intro other others regrouped otherPicks
  have otherInterrogation := interrogation_test otherPicks
  rw [regrouped] at otherInterrogation
  exact interrogation.unique otherInterrogation

/-- The predicates of `opening` in one group, to be tested on the last of all entries. -/
def contradictory : Checker WindowManagerEntry :=
  { opened :=
      some
        { first := WindowAssertion.predicate ⟨.layer .app, false⟩ "W"
          others := [WindowAssertion.predicate ⟨.layer .app, true⟩ "W"] }
    mode := .lastEntry }

/-- The last entry selected from `flickering`, behind entries other than those selected. -/
def crowded : List WindowManagerEntry :=
  [singleWindow 7 true, singleWindow 4 true, singleWindow 0 false, singleWindow 4 false]

theorem opening_atLastEntry :
    opening.skippingUntilFirst.atLastEntry.mode ≠ .allEntries ∧
      opening.skippingUntilFirst.atLastEntry.selected flickering ≠ [] ∧
      opening.skippingUntilFirst.atLastEntry.test flickering =
        [.rejection "shows_app_window(W)" 3 4 "W is invisible"] ∧
      opening.skippingUntilFirst.atLastEntry.calls flickering =
        [⟨"hides_app_window(W)", 4, true⟩, ⟨"shows_app_window(W)", 4, false⟩] ∧
      contradictory.test crowded = [.rejection "shows_app_window(W)" 3 4 "W is invisible"] := by
  have boundary : opening.skippingUntilFirst.atLastEntry.mode ≠ .allEntries := by decide
  have evaluated : opening.skippingUntilFirst.atLastEntry.selected flickering ≠ [] := by decide
  have reported :
      opening.skippingUntilFirst.atLastEntry.test flickering =
        [.rejection "shows_app_window(W)" 3 4 "W is invisible"] := by
    decide
  have last :
      opening.skippingUntilFirst.atLastEntry.mode.Picks
        (opening.skippingUntilFirst.atLastEntry.selected flickering) 3 (singleWindow 4 false) :=
    .last
      (show _ = [singleWindow 1 true, singleWindow 2 false, singleWindow 3 true] ++ _ by decide)
  have otherLast :
      contradictory.mode.Picks (contradictory.selected crowded) 3 (singleWindow 4 false) :=
    .last (show _ = [singleWindow 7 true, singleWindow 4 true, singleWindow 0 false] ++ _ from rfl)
  obtain ⟨index, entry, picks, _, _, same⟩ := test_boundary boundary evaluated
  obtain ⟨rfl, rfl⟩ := picks.unique last
  exact
    ⟨boundary, evaluated, reported, by decide,
      (same contradictory crowded rfl otherLast).1.trans reported⟩

end Checker

end PhaseAssertions
