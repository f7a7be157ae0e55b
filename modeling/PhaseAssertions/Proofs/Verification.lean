import PhaseAssertions.Subject
import PhaseAssertions.Proofs.Selection

/-!
# What a verification answers

A verification looks for reasons not to start, in this order: a scope whose
bounds are out of order, and a misuse while assembling.  In both cases it
answers without asking a predicate.  Otherwise it runs a checker with the
phases of the subject in the scope, and its result tells what this found.

A test depends on the declared groups and on the settings, and not on how these
came about; so the checker may be any with these groups and settings.
-/

namespace PhaseAssertions

universe u

variable {Entry : Type u}

/-! ## Scopes -/

namespace Scope

/-- Whether the scope is a range that ends before it starts. -/
def Inverted : Scope → Prop
  | .between first last => last < first
  | .allEntries | .firstEntry | .lastEntry => False

def mode : Scope → CheckMode
  | .allEntries | .between _ _ => .allEntries
  | .firstEntry => .firstEntry
  | .lastEntry => .lastEntry

def range? : Scope → Option TimestampRange
  | .between first last => TimestampRange.ofBounds? first last
  | .allEntries | .firstEntry | .lastEntry => none

end Scope

/-! ## Tests of configured checkers -/

/-- Whether a checker has the given groups and settings, wherever they come from. -/
structure Checker.Configured
    (checker : Checker Entry) (groups : List (PhaseGroup Entry))
    (skips : Bool) (mode : CheckMode) (range : Option TimestampRange) : Prop where
  groups_eq : checker.groups = groups
  skipUntilFirst_eq : checker.skipUntilFirst = skips
  mode_eq : checker.mode = mode
  range_eq : checker.range = range

variable [Snapshot Entry]

theorem Checker.Configured.test_eq
    {checker other : Checker Entry} {groups : List (PhaseGroup Entry)}
    {skips : Bool} {mode : CheckMode} {range : Option TimestampRange}
    (configured : checker.Configured groups skips mode range)
    (alike : other.Configured groups skips mode range) (entries : List Entry) :
    checker.test entries = other.test entries := by
  have selection : checker.selected entries = other.selected entries := by
    rw [selected, selected, configured.range_eq, alike.range_eq]
  cases kept : other.selected entries with
  | nil =>
      rw [test_of_nothing_selected (selection.trans kept), test_of_nothing_selected kept]
  | cons entry rest =>
      cases declared : groups with
      | nil =>
          rw [test_of_undeclared (configured.groups_eq.trans declared) (selection.trans kept),
            test_of_undeclared (alike.groups_eq.trans declared) kept]
      | cons first later =>
          rw [test_eq_evaluate (configured.groups_eq.trans declared) (selection.trans kept),
            test_eq_evaluate (alike.groups_eq.trans declared) kept]
          simp only [evaluate, configured.mode_eq, alike.mode_eq, configured.skipUntilFirst_eq,
            alike.skipUntilFirst_eq]

/-! ## Results -/

/-- Whether a result passes without failures and otherwise reports exactly these. -/
def Tells (result : Except VerifyError Unit) (failures : List Failure) : Prop :=
  (result = .ok () ↔ failures = []) ∧
    (failures ≠ [] →
      ∃ report : FailureReport,
        result = .error (.failed report) ∧ report.failures = failures)

theorem Tells.ne_misuse
    {result : Except VerifyError Unit} {failures : List Failure}
    (tells : Tells result failures) (cause : Misuse) :
    result ≠ .error (.misuse cause) := by
  intro misused
  by_cases passes : failures = []
  · have passed := tells.1.2 passes
    rw [misused] at passed
    cases passed
  · rcases tells.2 passes with ⟨report, failed, _⟩
    rw [misused] at failed
    cases failed

/-- The answer about a trace in which some failures were found. -/
def Trace.answer (trace : Trace Entry) : List Failure → Except VerifyError Unit
  | [] => .ok ()
  | failures => .error (.failed (.ofTrace trace failures))

theorem Trace.tells_answer (trace : Trace Entry) (failures : List Failure) :
    Tells (trace.answer failures) failures := by
  cases failures with
  | nil => simp [answer, Tells]
  | cons failure failures =>
      refine ⟨by simp [answer], ?_⟩
      intro _
      exact ⟨_, rfl, rfl⟩

/-- The questions that a verification asks predicates. -/
def Verification.calls (verification : Verification) : List Call :=
  CheckEvent.calls <| verification.events.filterMap fun
    | .check event => some event
    | .passed _ _ | .failed _ _ => none

namespace Subject

variable {subject : Subject Entry} {scope : Scope}

theorem result_check (subject : Subject Entry) (checker : Checker Entry) :
    (subject.check checker).result =
      subject.trace.answer (checker.test subject.trace.entries) := by
  rw [check, Checker.test, Trace.answer.eq_def]
  cases (checker.run subject.trace.entries).failures <;> rfl

/-- A range out of order is reported whatever was recorded before. -/
theorem verify_inverted
    (subject : Subject Entry) {first last : Int64} (inverted : last < first) :
    subject.verify (.between first last) =
      { result := .error (.misuse (.invertedRange first last)), events := [] } := by
  have disordered : ¬ first ≤ last := Int64.not_le.2 inverted
  have refused :
      inScope subject.checker (.between first last) =
        .error (.invertedRange first last) := by
    simp [inScope, TimestampRange.ofBounds, TimestampRange.ofBounds?, disordered]
  rw [verify, refused]

omit [Snapshot Entry] in
theorem exists_inScope_eq_ok
    {checker : Checker Entry} (ordered : ¬ scope.Inverted)
    (all : checker.mode = .allEntries) (unranged : checker.range = none) :
    ∃ engine,
      inScope checker scope = .ok engine ∧
        engine.Configured checker.groups checker.skipUntilFirst scope.mode
          scope.range? := by
  cases scope with
  | allEntries => exact ⟨checker, rfl, rfl, rfl, all, unranged⟩
  | firstEntry => exact ⟨checker.atFirstEntry, rfl, rfl, rfl, rfl, unranged⟩
  | lastEntry => exact ⟨checker.atLastEntry, rfl, rfl, rfl, rfl, unranged⟩
  | between first last =>
      have inOrder : first ≤ last := Int64.not_lt.1 ordered
      have bounds :
          TimestampRange.ofBounds? first last = some ⟨first, last, inOrder⟩ :=
        dif_pos inOrder
      refine ⟨checker.withinRange ⟨first, last, inOrder⟩, ?_, rfl, rfl, all, ?_⟩
      · simp [inScope, TimestampRange.ofBounds, bounds]
      · exact bounds.symm

/-- A misuse while assembling is reported without evaluating anything. -/
theorem verify_misused
    {cause : Misuse} (ordered : ¬ scope.Inverted)
    (all : subject.checker.mode = .allEntries) (unranged : subject.checker.range = none)
    (misused : subject.misuse = some cause) :
    subject.verify scope = { result := .error (.misuse cause), events := [] } := by
  rcases exists_inScope_eq_ok ordered all unranged with ⟨engine, started, _⟩
  rw [verify, started, misused]

/-- A proper subject answers with what a checker of its phases finds in the scope. -/
theorem result_verify
    {engine : Checker Entry} (ordered : ¬ scope.Inverted)
    (all : subject.checker.mode = .allEntries) (unranged : subject.checker.range = none)
    (proper : subject.misuse = none)
    (configured :
      engine.Configured subject.checker.groups subject.checker.skipUntilFirst
        scope.mode scope.range?) :
    (subject.verify scope).result =
      subject.trace.answer (engine.test subject.trace.entries) := by
  rcases exists_inScope_eq_ok ordered all unranged with ⟨started, starts, alike⟩
  rw [configured.test_eq alike, verify, starts, proper]
  exact subject.result_check started

theorem tells_verify
    {engine : Checker Entry} (ordered : ¬ scope.Inverted)
    (all : subject.checker.mode = .allEntries) (unranged : subject.checker.range = none)
    (proper : subject.misuse = none)
    (configured :
      engine.Configured subject.checker.groups subject.checker.skipUntilFirst
        scope.mode scope.range?) :
    Tells (subject.verify scope).result (engine.test subject.trace.entries) := by
  rw [result_verify ordered all unranged proper configured]
  exact subject.trace.tells_answer _

end Subject

end PhaseAssertions
