import Mathlib.Data.List.Forall2
import PhaseAssertions.Proofs.Selection

/-!
# Programs one after the other

Two lists of phases can be declared one after the other.  The joined program
hands over from the first list to the second at the one entry at which the
first program stops passing, and from there on it does what the second program
does alone on the entries that are left.

For this, a walk is compared with the same walk behind further phases that it
has already left.  These phases do not influence any transition; they only
appear in the reasons that are given for unreached phases.
-/

namespace PhaseAssertions

universe u

variable {Entry : Type u}

namespace Cursor

/-! ## Walks behind phases that were left -/

/-- The cursor of a program in which `groups` come first and have been left. -/
def after (groups : List (PhaseGroup Entry)) (cursor : Cursor Entry) :
    Cursor Entry :=
  { cursor with passed := groups ++ cursor.passed }

variable [Snapshot Entry]

theorem Transition.after
    {index : Nat} {entry : Entry} {cursor : Cursor Entry}
    {outcome : Except Failure (Cursor Entry)}
    (transition : Transition index entry cursor outcome)
    (groups : List (PhaseGroup Entry)) :
    Transition index entry (cursor.after groups)
      (outcome.map (Cursor.after groups)) := by
  cases transition with
  | stay cursor accepted => exact .stay (cursor.after groups) accepted
  | @handOver passed rest current next rejected accepted =>
      change
        Transition index entry ⟨groups ++ passed, current, next :: rest, true⟩
          (.ok ⟨groups ++ (passed ++ [current]), next, rest, true⟩)
      rw [← List.append_assoc]
      exact .handOver rejected accepted
  | refuse rejected refused => exact .refuse rejected refused
  | block cursor rejected stuck =>
      exact .block (cursor.after groups) rejected stuck

theorem outcome_walk_after
    (groups : List (PhaseGroup Entry)) (cursor : Cursor Entry)
    (index : Nat) (entries : List Entry) :
    ((cursor.after groups).walk index entries).outcome =
      (cursor.walk index entries).outcome.map (Cursor.after groups) := by
  induction entries generalizing cursor index with
  | nil => rfl
  | cons entry rest induction =>
      have stepped :=
        transition_iff.1 ((cursor.transition_advance index entry).after groups)
      rw [outcome_walk_cons, outcome_walk_cons, stepped]
      cases (cursor.advance index entry).outcome with
      | error failure => rfl
      | ok next => exact induction next (index + 1)

/--
An entry that the last phase of a program rejects is for the phases behind it
what a first entry is for a program that starts with them.
-/
theorem outcome_advance_handOver
    {passed later : List (PhaseGroup Entry)} {last first : PhaseGroup Entry}
    {entry : Entry} (rejected : ¬ last.Holds entry) (index : Nat) :
    (advance ⟨passed, last, first :: later, true⟩ index entry).outcome =
      ((start first later).advance index entry).outcome.map
        (Cursor.after (passed ++ [last])) := by
  by_cases accepted : first.Holds entry
  · have entered :
        ((start first later).advance index entry).outcome =
          .ok ⟨[], first, later, true⟩ :=
      transition_iff.1 (.stay _ accepted)
    rw [entered, transition_iff.1 (.handOver rejected accepted)]
    change _ = Except.ok (Cursor.mk (passed ++ [last] ++ []) first later true)
    rw [List.append_nil]
  · have blocked :
        ((start first later).advance index entry).outcome =
          .error (rejection first index entry) :=
      transition_iff.1 (.block _ accepted (.inl rfl))
    rw [blocked, transition_iff.1 (.refuse rejected accepted)]
    rfl

theorem outcome_walk_handOver
    {passed later : List (PhaseGroup Entry)} {last first : PhaseGroup Entry}
    {entry : Entry} (rejected : ¬ last.Holds entry)
    (index : Nat) (rest : List Entry) :
    (walk ⟨passed, last, first :: later, true⟩ index (entry :: rest)).outcome =
      ((start first later).walk index (entry :: rest)).outcome.map
        (Cursor.after (passed ++ [last])) := by
  rw [outcome_walk_cons, outcome_walk_cons, outcome_advance_handOver rejected]
  cases ((start first later).advance index entry).outcome with
  | error failure => rfl
  | ok next => exact outcome_walk_after _ next (index + 1) rest

end Cursor

/-! ## Failures of the joined program -/

/--
Whether `failure` is what the joined program reports where the second program
reports `other` on the entries behind the first `count`.
-/
structure Failure.Continues (count : Nat) (failure other : Failure) : Prop where
  kind : failure.kind = other.kind
  phase : failure.phase = other.phase
  /-- A rejection is the same but for its position. -/
  rejection : other.kind = .predicateFailure → failure = other.moved count

theorem Cursor.forall₂_unreached_after
    (groups : List (PhaseGroup Entry)) (cursor : Cursor Entry) (count : Nat)
    (start finish otherStart otherFinish : Int64) :
    List.Forall₂ (Failure.Continues count)
      ((cursor.after groups).unreached start finish)
      (cursor.unreached otherStart otherFinish) := by
  rw [unreached, unreached, List.forall₂_map_left_iff,
    List.forall₂_map_right_iff]
  apply List.forall₂_same.2
  intro group _
  exact ⟨rfl, rfl, by simp⟩

/-- The failures of the joined program, from the outcome of the second one. -/
theorem Progress.forall₂_failures_after
    {progress other : Progress Entry} {groups : List (PhaseGroup Entry)}
    {count : Nat}
    (outcome :
      progress.outcome =
        (other.outcome.mapError (Failure.moved count)).map (Cursor.after groups))
    (start finish otherStart otherFinish : Int64) :
    List.Forall₂ (Failure.Continues count)
      (progress.failures start finish)
      (other.failures otherStart otherFinish) := by
  rw [failures, failures, outcome]
  cases other.outcome with
  | error failure => exact .cons ⟨rfl, rfl, fun _ => rfl⟩ .nil
  | ok cursor => exact cursor.forall₂_unreached_after _ _ _ _ _ _

/-! ## The entry at which a program is left -/

/-- A phase that was left rejects the entry at which it was left. -/
theorem Traversed.exists_left
    {passed left right : List (PhaseGroup Entry)}
    {current last : PhaseGroup Entry} {entries : List Entry}
    (traversed : Traversed passed current entries)
    (split : passed = left ++ last :: right) :
    ∃ before entry after,
      entries = before ++ entry :: after ∧ Traversed left last before ∧
        ¬ last.Holds entry := by
  induction traversed generalizing right with
  | enter accepted => simp at split
  | @stay passed current seen entry traversed accepted induction =>
      rcases induction split with ⟨before, leaving, after, rfl, lead, rejects⟩
      exact ⟨before, leaving, after ++ [entry], by simp, lead, rejects⟩
  | @handOver passed current next seen entry traversed rejected accepted induction =>
      rcases List.eq_nil_or_concat' right with rfl | ⟨inner, group, rfl⟩
      · rcases List.append_inj' split rfl with ⟨rfl, equal⟩
        obtain rfl : current = last := List.singleton_inj.1 equal
        exact ⟨seen, entry, [], rfl, traversed, rejected⟩
      · rw [← List.cons_append, ← List.append_assoc]
          at split
        rcases induction (List.append_inj' split rfl).1 with
          ⟨before, leaving, after, rfl, lead, rejects⟩
        exact ⟨before, leaving, after ++ [entry], by simp, lead, rejects⟩

namespace Checker

/--
Whether the checker walks `groups` through all entries, none of which is
skipped or out of range.
-/
structure Plain
    (checker : Checker Entry) (groups : List (PhaseGroup Entry)) : Prop where
  all : checker.mode = .allEntries
  unskipped : checker.skipUntilFirst = false
  unranged : checker.range = none
  program : checker.groups = groups

variable [Snapshot Entry]

/--
Whether the phases pass on the entries before `position`, but no longer with the
entry at `position`.
-/
structure LeftAt
    (checker : Checker Entry) (entries : List Entry) (position : Nat) :
    Prop where
  passes : checker.test (entries.take position) = []
  fails : checker.test (entries.take (position + 1)) ≠ []

variable {checker : Checker Entry} {groups : List (PhaseGroup Entry)}
variable {entries : List Entry}

theorem Plain.test_eq_nil_iff
    (plain : checker.Plain groups) (declared : groups ≠ []) :
    checker.test entries = [] ↔ Traverses groups entries := by
  have program : checker.groups ≠ [] := by
    rw [plain.program]
    exact declared
  rw [Checker.test_eq_nil_iff plain.all plain.unskipped program, plain.program,
    selected_of_range_eq_none plain.unranged]

theorem Plain.test_ne_nil_of_rejected
    {passed : List (PhaseGroup Entry)} {last : PhaseGroup Entry}
    {before : List Entry} {entry : Entry}
    (plain : checker.Plain (passed ++ [last]))
    (traversed : Traversed passed last before)
    (rejected : ¬ last.Holds entry) (after : List Entry) :
    checker.test (before ++ entry :: after) ≠ [] := by
  rw [test_of_blamed plain.all plain.unskipped
    (selected_of_range_eq_none plain.unranged _)
    (.last plain.program traversed rejected)]
  simp

/-- A program is left at the entry that its last phase rejects after its run. -/
theorem Plain.leftAt_iff
    {passed : List (PhaseGroup Entry)} {last : PhaseGroup Entry} {position : Nat}
    (plain : checker.Plain (passed ++ [last])) :
    checker.LeftAt entries position ↔
      ∃ before entry after,
        entries = before ++ entry :: after ∧ before.length = position ∧
          Traversed passed last before ∧ ¬ last.Holds entry := by
  have declared : passed ++ [last] ≠ [] := by simp
  constructor
  · rintro ⟨passes, fails⟩
    rw [ne_eq, plain.test_eq_nil_iff declared] at fails
    rcases (plain.test_eq_nil_iff declared).1 passes with
      ⟨left, final, program, traversed⟩
    rcases List.append_inj' program rfl with ⟨rfl, equal⟩
    obtain rfl : last = final := List.singleton_inj.1 equal
    have inside : position < entries.length := by
      by_contra beyond
      rw [Nat.not_lt] at beyond
      rw [List.take_of_length_le (Nat.le_succ_of_le beyond)] at fails
      rw [List.take_of_length_le beyond] at traversed
      exact fails ⟨_, _, rfl, traversed⟩
    refine
      ⟨entries.take position, entries[position], entries.drop (position + 1),
        ?_, ?_, traversed, ?_⟩
    · rw [← List.drop_eq_getElem_cons inside, List.take_append_drop]
    · rw [List.length_take]
      exact Nat.min_eq_left (Nat.le_of_lt inside)
    · intro accepted
      rw [← List.take_append_getElem inside] at fails
      exact fails ⟨_, _, rfl, .stay traversed accepted⟩
  · rintro ⟨before, entry, after, rfl, rfl, traversed, rejected⟩
    constructor
    · rw [List.take_left, plain.test_eq_nil_iff declared]
      exact ⟨_, _, rfl, traversed⟩
    · rw [List.take_length_add_append]
      exact plain.test_ne_nil_of_rejected traversed rejected []

/-- A program that was left does not pass again. -/
theorem Plain.not_lt_of_leftAt
    {position other : Nat}
    (plain : checker.Plain groups) (declared : groups ≠ [])
    (left : checker.LeftAt entries position)
    (leftAgain : checker.LeftAt entries other) :
    ¬ position < other := by
  intro earlier
  rcases List.eq_nil_or_concat' groups with rfl | ⟨passed, last, rfl⟩
  · exact declared rfl
  · rcases plain.leftAt_iff.1 left with
      ⟨before, entry, after, rfl, rfl, traversed, rejected⟩
    obtain ⟨more, rfl⟩ := Nat.exists_eq_add_of_lt earlier
    have passes := leftAgain.passes
    rw [Nat.add_assoc, List.take_length_add_append, List.take_succ_cons]
      at passes
    exact plain.test_ne_nil_of_rejected traversed rejected _ passes

/-! ## The joined program -/

variable {former latter joined : Checker Entry}
variable {gs hs : List (PhaseGroup Entry)} {position : Nat}

/--
Once the first program is left, the joined program reports what the second one
reports on the entries that are left.
-/
theorem LeftAt.forall₂_continues
    (plainFormer : former.Plain gs) (plainLatter : latter.Plain hs)
    (plainJoined : joined.Plain (gs ++ hs))
    (declared : gs ≠ []) (continued : hs ≠ [])
    (left : former.LeftAt entries position) :
    List.Forall₂ (Failure.Continues position)
      (joined.test entries) (latter.test (entries.drop position)) := by
  rcases List.eq_nil_or_concat' gs with rfl | ⟨passed, last, rfl⟩
  · contradiction
  rcases List.exists_cons_of_ne_nil continued with ⟨first, later, rfl⟩
  rcases plainFormer.leftAt_iff.1 left with
    ⟨before, entry, after, rfl, rfl, traversed, rejected⟩
  obtain ⟨head, rest, evaluated⟩ :
      ∃ head rest, before ++ entry :: after = head :: rest :=
    List.exists_cons_of_ne_nil (by simp)
  obtain ⟨opening, others, program⟩ :
      ∃ opening others, passed ++ [last] ++ first :: later = opening :: others :=
    List.exists_cons_of_ne_nil (by simp)
  have split : opening :: others = passed ++ last :: first :: later := by
    rw [← program, List.append_assoc, List.singleton_append]
  have outcome :
      ((Cursor.start opening others).walk 0 (head :: rest)).outcome =
        (((Cursor.start first later).walk 0 (entry :: after)).outcome.mapError
          (Failure.moved before.length)).map (Cursor.after (passed ++ [last])) := by
    rw [← evaluated, Cursor.outcome_walk_append,
      walk_of_traversed traversed split]
    exact
      (Cursor.outcome_walk_handOver rejected _ after).trans
        (congrArg _ (Cursor.outcome_walk_add _ 0 before.length _))
  rw [List.drop_left, evaluated,
    test_eq_failures plainJoined.all plainJoined.unskipped
      (plainJoined.program.trans program)
      (selected_of_range_eq_none plainJoined.unranged _),
    test_eq_failures plainLatter.all plainLatter.unskipped plainLatter.program
      (selected_of_range_eq_none plainLatter.unranged _)]
  exact Progress.forall₂_failures_after outcome _ _ _ _

/-- A joined program that passes has left its first part. -/
theorem exists_leftAt_of_joined
    (plainFormer : former.Plain gs) (plainJoined : joined.Plain (gs ++ hs))
    (declared : gs ≠ []) (continued : hs ≠ [])
    (passes : joined.test entries = []) :
    ∃ position,
      0 < position ∧ position < entries.length ∧
        former.LeftAt entries position := by
  rcases List.eq_nil_or_concat' gs with rfl | ⟨left, last, rfl⟩
  · contradiction
  rcases List.eq_nil_or_concat' hs with rfl | ⟨right, final, rfl⟩
  · contradiction
  rw [plainJoined.test_eq_nil_iff (by simp)] at passes
  rcases passes with ⟨passed, current, program, traversed⟩
  rw [← List.append_assoc] at program
  have split : passed = left ++ last :: right := by
    rw [← (List.append_inj' program rfl).1, List.append_assoc,
      List.singleton_append]
  rcases traversed.exists_left split with
    ⟨before, entry, after, rfl, lead, rejected⟩
  refine ⟨before.length, ?_, ?_, ?_⟩
  · exact List.length_pos_iff.2 lead.ne_nil
  · simp
  · exact plainFormer.leftAt_iff.2 ⟨before, entry, after, rfl, rfl, lead, rejected⟩

/--
Two programs one after the other pass exactly when there is a position at which
the first one is left and from which on the second one passes.  A program is
left at one position only, and what the joined program reports is then what the
second one reports from there on.
-/
theorem test_append_programs
    (plainFormer : former.Plain gs) (plainLatter : latter.Plain hs)
    (plainJoined : joined.Plain (gs ++ hs))
    (declared : gs ≠ []) (continued : hs ≠ []) (entries : List Entry) :
    (joined.test entries = [] ↔
      ∃ position,
        0 < position ∧ position < entries.length ∧
          former.LeftAt entries position ∧
          latter.test (entries.drop position) = []) ∧
    (∀ position other,
      former.LeftAt entries position → former.LeftAt entries other →
        position = other) ∧
    ∀ position,
      former.LeftAt entries position →
        List.Forall₂ (Failure.Continues position)
          (joined.test entries) (latter.test (entries.drop position)) := by
  have continues :
      ∀ position,
        former.LeftAt entries position →
          List.Forall₂ (Failure.Continues position)
            (joined.test entries) (latter.test (entries.drop position)) := by
    intro position left
    exact
      left.forall₂_continues plainFormer plainLatter plainJoined declared continued
  refine ⟨?_, ?_, continues⟩
  · constructor
    · intro passes
      rcases exists_leftAt_of_joined plainFormer plainJoined declared continued
          passes with
        ⟨position, positive, inside, left⟩
      have reports := continues position left
      rw [passes, List.forall₂_nil_left_iff] at reports
      exact ⟨position, positive, inside, left, reports⟩
    · rintro ⟨position, _, _, left, passes⟩
      have reports := continues position left
      rwa [passes, List.forall₂_nil_right_iff] at reports
  · intro position other left leftAgain
    apply Nat.le_antisymm
    · exact Nat.not_lt.1 (plainFormer.not_lt_of_leftAt declared leftAgain left)
    · exact Nat.not_lt.1 (plainFormer.not_lt_of_leftAt declared left leftAgain)

/-- The first phase of `opening`: the window is hidden. -/
def hidden : Checker WindowManagerEntry :=
  empty.add (WindowAssertion.predicate ⟨.layer .app, false⟩ "W")

/-- The second phase of `opening`: the window is visible. -/
def visible : Checker WindowManagerEntry :=
  empty.add (WindowAssertion.predicate ⟨.layer .app, true⟩ "W")

theorem hidden_visible_joined :
    hidden.Plain hidden.groups ∧ visible.Plain visible.groups ∧
      opening.unbounded.Plain (hidden.groups ++ visible.groups) ∧
      hidden.groups ≠ [] ∧ visible.groups ≠ [] ∧
      hidden.LeftAt shownOnce 2 ∧
      List.Forall₂ (Failure.Continues 2)
        (opening.unbounded.test shownOnce) (visible.test (shownOnce.drop 2)) ∧
      opening.unbounded.test (shownOnce.take 4) = [] ∧
      ∃ position,
        0 < position ∧ position < (shownOnce.take 4).length ∧
          hidden.LeftAt (shownOnce.take 4) position ∧
          visible.test ((shownOnce.take 4).drop position) = [] := by
  have former : hidden.Plain hidden.groups := ⟨rfl, rfl, rfl, rfl⟩
  have latter : visible.Plain visible.groups := ⟨rfl, rfl, rfl, rfl⟩
  have joined :
      opening.unbounded.Plain (hidden.groups ++ visible.groups) :=
    ⟨rfl, rfl, rfl, rfl⟩
  have declared : hidden.groups ≠ [] := by simp [hidden]
  have continued : visible.groups ≠ [] := by simp [visible]
  have left : hidden.LeftAt shownOnce 2 := ⟨by decide, by decide⟩
  have passes : opening.unbounded.test (shownOnce.take 4) = [] := by decide
  exact
    ⟨former, latter, joined, declared, continued, left,
      (test_append_programs former latter joined declared continued
        shownOnce).2.2 2 left,
      passes,
      (test_append_programs former latter joined declared continued
        (shownOnce.take 4)).1.1 passes⟩

end Checker

end PhaseAssertions
