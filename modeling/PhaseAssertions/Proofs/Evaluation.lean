import PhaseAssertions.Proofs.Traversal
import PhaseAssertions.Window.Assertion

/-!
# Tests of all entries

A checker that looks at all entries, from the first one on, selects the
entries within its range and walks its phases through them.  Non-empty entries
either traverse the phases up to some phase or end at an entry for which a
phase is blamed; this module says what the test reports in each case, and
that no failure is found exactly when all phases are traversed.
-/

namespace PhaseAssertions

universe u

namespace Checker

variable {Entry : Type u} [Snapshot Entry]

/-! ## Selected entries -/

/-- Selecting once more changes nothing. -/
theorem selected_of_subset
    {checker : Checker Entry} {entries chosen : List Entry}
    (subset : chosen ⊆ checker.selected entries) :
    checker.selected chosen = chosen := by
  unfold selected at subset ⊢
  cases bounds : checker.range with
  | none => rfl
  | some range =>
      rw [bounds] at subset
      rw [List.filter_eq_self]
      intro entry member
      exact (List.mem_filter.1 (subset member)).2

/-! ## What a test reports -/

/-- Non-empty entries lead to some phase, or one of them ends the walk. -/
theorem traversed_or_blamed
    {groups : List (PhaseGroup Entry)} {entries : List Entry}
    (declared : groups ≠ []) (evaluated : entries ≠ []) :
    (∃ passed current rest,
      groups = passed ++ current :: rest ∧ Traversed passed current entries) ∨
    ∃ before entry after position group,
      entries = before ++ entry :: after ∧
        Blamed groups before entry position group := by
  rcases List.exists_cons_of_ne_nil declared with ⟨first, later, rfl⟩
  cases walked : ((Cursor.start first later).walk 0 entries).outcome with
  | ok cursor =>
      cases reached_of_walk walked with
      | start => exact absurd rfl evaluated
      | inside traversed program => exact .inl ⟨_, _, _, program, traversed⟩
  | error failure =>
      rcases walk_start_eq_error_iff.1 walked with
        ⟨before, entry, after, position, group, split, blamed, _⟩
      exact .inr ⟨before, entry, after, position, group, split, blamed⟩

/-- A test of all entries reports what the walk over the selected ones does. -/
theorem test_eq_failures
    {checker : Checker Entry} {entries rest : List Entry} {entry : Entry}
    {first : PhaseGroup Entry} {later : List (PhaseGroup Entry)}
    (all : checker.mode = .allEntries)
    (unskipped : checker.skipUntilFirst = false)
    (declared : checker.groups = first :: later)
    (selection : checker.selected entries = entry :: rest) :
    checker.test entries =
      ((Cursor.start first later).walk 0 (entry :: rest)).failures
        (Snapshot.timestamp entry) (lastTimestamp entry rest) := by
  simp [test, run, evaluate, walkAll, all, unskipped, declared, selection]

theorem lastTimestamp_eq
    {entry final : Entry} {rest : List Entry}
    (last : (entry :: rest).getLast? = some final) :
    lastTimestamp entry rest = Snapshot.timestamp final := by
  rw [List.getLast?_cons, Option.some.injEq] at last
  rw [lastTimestamp, last]

/-- The failure that a blamed phase gives rise to is the only one reported. -/
theorem test_of_blamed
    {checker : Checker Entry} {entries before after : List Entry}
    {entry : Entry} {position : Nat} {group : PhaseGroup Entry}
    (all : checker.mode = .allEntries)
    (unskipped : checker.skipUntilFirst = false)
    (selection : checker.selected entries = before ++ entry :: after)
    (blamed : Blamed checker.groups before entry position group) :
    checker.test entries = [Cursor.rejection group before.length entry] := by
  have declares : checker.groups ≠ [] :=
    List.ne_nil_of_mem (List.mem_of_getElem? blamed.getElem?_eq)
  rcases List.exists_cons_of_ne_nil declares with ⟨first, later, declared⟩
  obtain ⟨head, rest, evaluated⟩ :
      ∃ head rest, before ++ entry :: after = head :: rest :=
    List.exists_cons_of_ne_nil (by simp)
  rw [test_eq_failures all unskipped declared (selection.trans evaluated)]
  rw [declared] at blamed
  have failed :
      ((Cursor.start first later).walk 0 (head :: rest)).outcome =
        .error (Cursor.rejection group (0 + before.length) entry) :=
    walk_start_eq_error_iff.2
      ⟨before, entry, after, position, group, evaluated.symm, blamed, rfl⟩
  rw [Progress.failures, failed, Nat.zero_add]

/-- Entries that lead to a phase leave the phases after it unreached. -/
theorem test_of_traversed
    {checker : Checker Entry} {entries : List Entry} {head final : Entry}
    {passed rest : List (PhaseGroup Entry)} {current : PhaseGroup Entry}
    (all : checker.mode = .allEntries)
    (unskipped : checker.skipUntilFirst = false)
    (program : checker.groups = passed ++ current :: rest)
    (traversed : Traversed passed current (checker.selected entries))
    (start : (checker.selected entries).head? = some head)
    (finish : (checker.selected entries).getLast? = some final) :
    checker.test entries =
      Cursor.unreached ⟨passed, current, rest, true⟩
        (Snapshot.timestamp head) (Snapshot.timestamp final) := by
  obtain ⟨first, later, declared⟩ :
      ∃ first later, checker.groups = first :: later :=
    List.exists_cons_of_ne_nil (by simp [program])
  rcases List.head?_eq_some_iff.1 start with ⟨others, selection⟩
  rw [selection] at traversed finish
  rw [test_eq_failures all unskipped declared selection,
    lastTimestamp_eq finish, Progress.failures,
    walk_of_traversed traversed (declared.symm.trans program)]

/-- A test of all entries succeeds exactly when all phases are traversed. -/
theorem test_eq_nil_iff
    {checker : Checker Entry} {entries : List Entry}
    (all : checker.mode = .allEntries)
    (unskipped : checker.skipUntilFirst = false)
    (declared : checker.groups ≠ []) :
    checker.test entries = [] ↔
      Traverses checker.groups (checker.selected entries) := by
  constructor
  · intro succeeds
    have evaluated : checker.selected entries ≠ [] := by
      intro nothing
      simp [test, run, nothing] at succeeds
    rcases traversed_or_blamed declared evaluated with
      ⟨passed, current, rest, program, traversed⟩ |
        ⟨before, entry, after, position, group, selection, blamed⟩
    · rw [test_of_traversed all unskipped program traversed
        (List.head?_eq_some_head evaluated)
        (List.getLast?_eq_some_getLast evaluated)] at succeeds
      obtain rfl : rest = [] := by simpa [Cursor.unreached] using succeeds
      exact ⟨passed, current, program, traversed⟩
    · rw [test_of_blamed all unskipped selection blamed] at succeeds
      simp at succeeds
  · rintro ⟨passed, current, program, traversed⟩
    have evaluated := traversed.ne_nil
    rw [test_of_traversed all unskipped program traversed
      (List.head?_eq_some_head evaluated)
      (List.getLast?_eq_some_getLast evaluated)]
    rfl

/-! ## A small program -/

/-- A stack with a single window. -/
def singleWindow (timestamp : Int64) (visible : Bool) : WindowManagerEntry :=
  { timestamp, windows := [{ title := "W", kind := .app, visible }] }

/-- Between times 1 and 4, the window is hidden at first and then visible. -/
def opening : Checker WindowManagerEntry :=
  ((empty.add (WindowAssertion.predicate ⟨.layer .app, false⟩ "W")).add
    (WindowAssertion.predicate ⟨.layer .app, true⟩ "W")).withinRange
      ⟨1, 4, by decide⟩

/-- A window that is visible from time 3 to time 4. -/
def shownOnce : List WindowManagerEntry :=
  [ singleWindow 1 false, singleWindow 2 false, singleWindow 3 true,
    singleWindow 4 true, singleWindow 5 false ]

/-- A window that is visible, shortly hidden, visible and hidden again. -/
def flickering : List WindowManagerEntry :=
  [ singleWindow 0 true, singleWindow 1 true, singleWindow 2 false,
    singleWindow 3 true, singleWindow 4 false, singleWindow 5 true ]

end Checker

end PhaseAssertions
