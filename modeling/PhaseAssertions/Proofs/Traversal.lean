import Mathlib.Data.List.Induction
import PhaseAssertions.Checker.Test
import PhaseAssertions.Proofs.Walk

/-!
# Traversed phases

A list of phases is traversed by entries when they take turns over the
entries: each phase accepts a non-empty run and is left at the first entry
that it rejects, which the next phase then accepts.  The relation does not
mention the phases still to come, so it can be read off a cursor and off a
shorter program alike.

The main statements are that a walk from the start of a program succeeds
exactly in the cursors whose phases have been traversed, that a program has at
most one traversed part, and that a walk fails exactly by the rejection of the
phase that is to blame.
-/

namespace PhaseAssertions

universe u

variable {Entry : Type u}

/-! ## The relation -/

/--
The phases of `passed` and then `current` take turns over the entries, and
`current` accepts the last one.
-/
inductive Traversed :
    List (PhaseGroup Entry) → PhaseGroup Entry → List Entry → Prop where
  /-- The first phase accepts the first entry. -/
  | enter {current : PhaseGroup Entry} {entry : Entry}
      (accepted : current.Holds entry) :
      Traversed [] current [entry]
  /-- The current phase accepts one more entry. -/
  | stay
      {passed : List (PhaseGroup Entry)} {current : PhaseGroup Entry}
      {seen : List Entry} {entry : Entry}
      (traversed : Traversed passed current seen)
      (accepted : current.Holds entry) :
      Traversed passed current (seen ++ [entry])
  /-- The current phase rejects an entry that the next one accepts. -/
  | handOver
      {passed : List (PhaseGroup Entry)} {current next : PhaseGroup Entry}
      {seen : List Entry} {entry : Entry}
      (traversed : Traversed passed current seen)
      (rejected : ¬ current.Holds entry)
      (accepted : next.Holds entry) :
      Traversed (passed ++ [current]) next (seen ++ [entry])

/-- The entries lead through all of `groups`. -/
def Traverses (groups : List (PhaseGroup Entry)) (entries : List Entry) : Prop :=
  ∃ passed current,
    groups = passed ++ [current] ∧ Traversed passed current entries

theorem Traversed.ne_nil
    {passed : List (PhaseGroup Entry)} {current : PhaseGroup Entry}
    {entries : List Entry}
    (traversed : Traversed passed current entries) :
    entries ≠ [] := by
  cases traversed <;> simp

theorem take_program
    {groups passed rest : List (PhaseGroup Entry)} {current : PhaseGroup Entry}
    (program : groups = passed ++ current :: rest) :
    groups.take (passed.length + 1) = passed ++ [current] := by
  rw [program, List.append_cons, List.take_left' (by simp)]

theorem drop_program
    {groups passed rest : List (PhaseGroup Entry)} {current : PhaseGroup Entry}
    (program : groups = passed ++ current :: rest) :
    groups.drop (passed.length + 1) = rest := by
  rw [program, List.append_cons, List.drop_left' (by simp)]

theorem Traversed.traverses_take
    {groups passed rest : List (PhaseGroup Entry)} {current : PhaseGroup Entry}
    {entries : List Entry}
    (traversed : Traversed passed current entries)
    (program : groups = passed ++ current :: rest) :
    Traverses (groups.take (passed.length + 1)) entries :=
  ⟨passed, current, take_program program, traversed⟩

theorem Traverses.exists_split
    {groups : List (PhaseGroup Entry)} {count : Nat} {entries : List Entry}
    (traverses : Traverses (groups.take count) entries)
    (bounded : count ≤ groups.length) :
    ∃ passed current,
      groups = passed ++ current :: groups.drop count ∧
        passed.length + 1 = count ∧ Traversed passed current entries := by
  rcases traverses with ⟨passed, current, taken, traversed⟩
  refine ⟨passed, current, ?_, ?_, traversed⟩
  · calc
      groups = groups.take count ++ groups.drop count :=
        (List.take_append_drop count groups).symm
      _ = passed ++ current :: groups.drop count := by simp [taken]
  · have length := congrArg List.length taken
    simpa [bounded] using length.symm

/-- The phase that is blamed for `entry` after `before`, with its position. -/
inductive Blamed
    (groups : List (PhaseGroup Entry)) (before : List Entry) (entry : Entry) :
    Nat → PhaseGroup Entry → Prop where
  /-- The first phase rejects the first entry. -/
  | first
      {rest : List (PhaseGroup Entry)} {current : PhaseGroup Entry}
      (program : groups = current :: rest)
      (nothing : before = [])
      (rejected : ¬ current.Holds entry) :
      Blamed groups before entry 0 current
  /-- The next phase would have to take over, but rejects the entry, too. -/
  | next
      {passed rest : List (PhaseGroup Entry)} {current next : PhaseGroup Entry}
      (program : groups = passed ++ current :: next :: rest)
      (traversed : Traversed passed current before)
      (left : ¬ current.Holds entry)
      (rejected : ¬ next.Holds entry) :
      Blamed groups before entry (passed.length + 1) next
  /-- There is no next phase. -/
  | last
      {passed : List (PhaseGroup Entry)} {current : PhaseGroup Entry}
      (program : groups = passed ++ [current])
      (traversed : Traversed passed current before)
      (rejected : ¬ current.Holds entry) :
      Blamed groups before entry passed.length current

theorem Blamed.not_holds
    {groups : List (PhaseGroup Entry)} {before : List Entry} {entry : Entry}
    {position : Nat} {group : PhaseGroup Entry}
    (blamed : Blamed groups before entry position group) :
    ¬ group.Holds entry := by
  cases blamed <;> assumption

theorem Blamed.getElem?_eq
    {groups : List (PhaseGroup Entry)} {before : List Entry} {entry : Entry}
    {position : Nat} {group : PhaseGroup Entry}
    (blamed : Blamed groups before entry position group) :
    groups[position]? = some group := by
  cases blamed with
  | first program nothing rejected => simp [program]
  | next program traversed left rejected => simp [program]
  | last program traversed rejected => simp [program]

/-! ## Cursors of a walk -/

/-- The cursors that a program can be in after the entries seen so far. -/
inductive Reached (first : PhaseGroup Entry) (later : List (PhaseGroup Entry)) :
    List Entry → Cursor Entry → Prop where
  /-- Nothing was seen yet. -/
  | start : Reached first later [] ⟨[], first, later, false⟩
  /-- The entries led to the current phase. -/
  | inside
      {passed rest : List (PhaseGroup Entry)} {current : PhaseGroup Entry}
      {seen : List Entry}
      (traversed : Traversed passed current seen)
      (program : first :: later = passed ++ current :: rest) :
      Reached first later seen ⟨passed, current, rest, true⟩

section Walks

variable [Snapshot Entry]
variable {first : PhaseGroup Entry} {later : List (PhaseGroup Entry)}

/-- One transition leads from a reached cursor to a reached cursor. -/
theorem Reached.step
    {seen : List Entry} {cursor next : Cursor Entry}
    {index : Nat} {entry : Entry}
    (reached : Reached first later seen cursor)
    (transition : Cursor.Transition index entry cursor (.ok next)) :
    Reached first later (seen ++ [entry]) next := by
  cases reached with
  | start =>
      cases transition with
      | stay cursor accepted => exact .inside (.enter accepted) rfl
  | inside traversed program =>
      cases transition with
      | stay cursor accepted => exact .inside (.stay traversed accepted) program
      | handOver rejected accepted =>
          exact
            .inside (.handOver traversed rejected accepted) (by simp [program])

/-- The cursors that a walk succeeds in are reached. -/
theorem reached_of_walk
    {index : Nat} {seen : List Entry} {cursor : Cursor Entry}
    (walked : ((Cursor.start first later).walk index seen).outcome = .ok cursor) :
    Reached first later seen cursor := by
  -- The last entry is taken off, since phases are handed over at the end.
  induction seen using List.reverseRecOn generalizing cursor with
  | nil =>
      obtain rfl : Cursor.start first later = cursor := by simpa using walked
      exact .start
  | append_singleton seen entry induction =>
      cases before : ((Cursor.start first later).walk index seen).outcome with
      | error failure =>
          rw [Cursor.outcome_walk_append, before] at walked
          simp [Except.bind] at walked
      | ok middle =>
          rw [Cursor.outcome_walk_concat before] at walked
          exact (induction before).step (Cursor.transition_iff.2 walked)

/-- A walk over traversed phases succeeds, whatever phases are still to come. -/
theorem walk_of_traversed
    {passed rest : List (PhaseGroup Entry)} {current : PhaseGroup Entry}
    {seen : List Entry}
    (traversed : Traversed passed current seen)
    (program : first :: later = passed ++ current :: rest) (index : Nat) :
    ((Cursor.start first later).walk index seen).outcome =
      .ok ⟨passed, current, rest, true⟩ := by
  induction traversed generalizing rest with
  | enter accepted =>
      simp only [List.nil_append, List.cons.injEq] at program
      rcases program with ⟨rfl, rfl⟩
      rw [← List.nil_append [_], Cursor.outcome_walk_concat rfl]
      exact Cursor.transition_iff.1 (.stay _ accepted)
  | stay traversed accepted induction =>
      rw [Cursor.outcome_walk_concat (induction program)]
      exact Cursor.transition_iff.1 (.stay _ accepted)
  | handOver traversed rejected accepted induction =>
      rw [List.append_assoc, List.singleton_append] at program
      rw [Cursor.outcome_walk_concat (induction program)]
      exact Cursor.transition_iff.1 (.handOver rejected accepted)

/-! ## Determinism -/

/-- Entries traverse only one part of a program. -/
theorem Traversed.unique
    {passed otherPassed rest otherRest : List (PhaseGroup Entry)}
    {current otherCurrent : PhaseGroup Entry} {seen : List Entry}
    (traversed : Traversed passed current seen)
    (other : Traversed otherPassed otherCurrent seen)
    (program :
      passed ++ current :: rest = otherPassed ++ otherCurrent :: otherRest) :
    passed = otherPassed ∧ current = otherCurrent ∧ rest = otherRest := by
  obtain ⟨first, later, split⟩ :
      ∃ first later, first :: later = passed ++ current :: rest := by
    cases passed <;> simp
  -- Both parts are read off the cursor of one walk.
  have walked := walk_of_traversed traversed split 0
  rw [walk_of_traversed other (split.trans program) 0] at walked
  simp only [Except.ok.injEq, Cursor.mk.injEq] at walked
  exact ⟨walked.1.symm, walked.2.1.symm, walked.2.2.1.symm⟩

/-- Entries traverse a program up to one phase only. -/
theorem Traverses.count_unique
    {groups : List (PhaseGroup Entry)} {count other : Nat} {entries : List Entry}
    (traverses : Traverses (groups.take count) entries)
    (otherTraverses : Traverses (groups.take other) entries)
    (bounded : count ≤ groups.length) (otherBounded : other ≤ groups.length) :
    count = other := by
  rcases traverses.exists_split bounded with
    ⟨passed, current, program, length, traversed⟩
  rcases otherTraverses.exists_split otherBounded with
    ⟨otherPassed, otherCurrent, otherProgram, otherLength, otherTraversed⟩
  rcases traversed.unique otherTraversed (program.symm.trans otherProgram) with
    ⟨rfl, _, _⟩
  rw [← length, ← otherLength]

/-- One phase only can be blamed for an entry. -/
theorem Blamed.unique
    {groups : List (PhaseGroup Entry)} {before : List Entry} {entry : Entry}
    {position otherPosition : Nat} {group otherGroup : PhaseGroup Entry}
    (blamed : Blamed groups before entry position group)
    (other : Blamed groups before entry otherPosition otherGroup) :
    position = otherPosition := by
  cases blamed with
  | first program nothing rejected =>
      cases other with
      | first => rfl
      | next _ traversed => exact absurd nothing traversed.ne_nil
      | last _ traversed => exact absurd nothing traversed.ne_nil
  | next program traversed left rejected =>
      cases other with
      | first _ nothing => exact absurd nothing traversed.ne_nil
      | next otherProgram otherTraversed =>
          have equal :=
            traversed.unique otherTraversed (program.symm.trans otherProgram)
          rw [equal.1]
      | last otherProgram otherTraversed =>
          have equal :=
            traversed.unique otherTraversed (program.symm.trans otherProgram)
          simp at equal
  | last program traversed rejected =>
      cases other with
      | first _ nothing => exact absurd nothing traversed.ne_nil
      | next otherProgram otherTraversed =>
          have equal :=
            traversed.unique otherTraversed (program.symm.trans otherProgram)
          simp at equal
      | last otherProgram otherTraversed =>
          have equal :=
            traversed.unique otherTraversed (program.symm.trans otherProgram)
          rw [equal.1]

/-! ## Failures of a walk -/

/-- A walk from the start fails exactly by rejections of blamed phases. -/
theorem walk_start_eq_error_iff
    {index : Nat} {entries : List Entry} {failure : Failure} :
    ((Cursor.start first later).walk index entries).outcome = .error failure ↔
      ∃ before entry after position group,
        entries = before ++ entry :: after ∧
          Blamed (first :: later) before entry position group ∧
          failure = Cursor.rejection group (index + before.length) entry := by
  rw [Cursor.outcome_walk_eq_error_iff]
  constructor
  · rintro ⟨before, entry, after, middle, split, walked, transition⟩
    refine ⟨before, entry, after, ?_⟩
    cases reached_of_walk walked with
    | start =>
        cases transition with
        | block cursor rejected stuck =>
            exact ⟨0, first, split, .first rfl rfl rejected, rfl⟩
    | inside traversed program =>
        cases transition with
        | @refuse passed rest current next rejected refused =>
            exact
              ⟨_, next, split, .next program traversed rejected refused, rfl⟩
        | block cursor rejected stuck =>
            obtain rfl := stuck.resolve_left (by simp)
            exact ⟨_, _, split, .last program traversed rejected, rfl⟩
  · rintro ⟨before, entry, after, position, group, split, blamed, rfl⟩
    refine ⟨before, entry, after, ?_⟩
    cases blamed with
    | first program nothing rejected =>
        rcases List.cons.inj program with ⟨rfl, rfl⟩
        subst nothing
        exact ⟨_, split, rfl, .block _ rejected (.inl rfl)⟩
    | next program traversed left rejected =>
        exact
          ⟨_, split, walk_of_traversed traversed program index,
            .refuse left rejected⟩
    | last program traversed rejected =>
        exact
          ⟨_, split, walk_of_traversed traversed program index,
            .block _ rejected (.inr rfl)⟩

end Walks

end PhaseAssertions
