import Mathlib.Data.List.Basic
import Mathlib.Data.List.ModifyLast
import PhaseAssertions.Checker.Test
import PhaseAssertions.Window.Assertion

/-!
# Checkers as append-only lists

A checker keeps the group under construction apart from the others and seals it
when the next one starts.  Seen from outside there is only one list: a predicate
that is added stands alone in a new group at its end, and a predicate that is
appended joins the last group.  This outline of a checker, with its settings, is
all that a sequence of calls can tell of it.

That the two agree rests on an invariant that no caller sees: a checker without
an open group has no sealed groups either.  So an append finds the open group
exactly if there is any group, and is refused only before the first one.
-/

namespace PhaseAssertions

universe u

variable {Entry : Type u}

/-! ## Calls -/

namespace Checker

/-- A call to a checker. -/
inductive Operation (Entry : Type u) where
  | add (predicate : Predicate Entry)
  | append (predicate : Predicate Entry)
  | withinRange (range : TimestampRange)
  | skippingUntilFirst
  | atFirstEntry
  | atLastEntry
  | test (entries : List Entry)

/-- What a checker answers to a call. -/
inductive Answer where
  | done
  | refused (cause : Misuse)
  | tested (failures : List Failure)
deriving DecidableEq

/-- An answer with the checker behind it. -/
structure Reply (Entry : Type u) where
  answer : Answer
  checker : Checker Entry

/-- Whether a call starts a group. -/
def Operation.starts : Operation Entry → Bool
  | .add _ => true
  | .append _ | .withinRange _ | .skippingUntilFirst | .atFirstEntry | .atLastEntry
  | .test _ => false

/-- The predicate that a call hands over, if it hands over one. -/
def Operation.predicate? : Operation Entry → Option (Predicate Entry)
  | .add predicate | .append predicate => some predicate
  | .withinRange _ | .skippingUntilFirst | .atFirstEntry | .atLastEntry | .test _ => none

variable [Snapshot Entry]

/-- Performs a call; one that is refused leaves the checker as it is. -/
def perform (checker : Checker Entry) : Operation Entry → Reply Entry
  | .add predicate => ⟨.done, checker.add predicate⟩
  | .append predicate =>
    match checker.append predicate with
    | .ok extended => ⟨.done, extended⟩
    | .error cause => ⟨.refused cause, checker⟩
  | .withinRange range => ⟨.done, checker.withinRange range⟩
  | .skippingUntilFirst => ⟨.done, checker.skippingUntilFirst⟩
  | .atFirstEntry => ⟨.done, checker.atFirstEntry⟩
  | .atLastEntry => ⟨.done, checker.atLastEntry⟩
  | .test entries => ⟨.tested (checker.test entries), checker⟩

/-- The checker behind a sequence of calls. -/
def after (checker : Checker Entry) : List (Operation Entry) → Checker Entry
  | [] => checker
  | operation :: rest => (checker.perform operation).checker.after rest

/-- The predicates handed over by those calls of a sequence that were not refused. -/
def accepted (checker : Checker Entry) : List (Operation Entry) → List (Predicate Entry)
  | [] => []
  | operation :: rest =>
    let reply := checker.perform operation
    (if reply.answer = .done then operation.predicate?.toList else []) ++
      reply.checker.accepted rest

end Checker

/-! ## Outlines -/

/-- A checker seen from outside: the members of its groups in order, and its settings. -/
structure Outline (Entry : Type u) where
  program : List (List (Predicate Entry)) := []
  mode : CheckMode := .allEntries
  range : Option TimestampRange := none
  skipUntilFirst : Bool := false

def Checker.outline (checker : Checker Entry) : Outline Entry :=
  { program := checker.groups.map PhaseGroup.members
    mode := checker.mode
    range := checker.range
    skipUntilFirst := checker.skipUntilFirst }

namespace Outline

/-- What a call makes of an outline.  Without a last group there is none to join. -/
def perform (outline : Outline Entry) : Checker.Operation Entry → Outline Entry
  | .add predicate => { outline with program := outline.program ++ [[predicate]] }
  | .append predicate =>
    { outline with program := outline.program.modifyLast (· ++ [predicate]) }
  | .withinRange range => { outline with range := some range }
  | .skippingUntilFirst => { outline with skipUntilFirst := true }
  | .atFirstEntry => { outline with mode := .firstEntry }
  | .atLastEntry => { outline with mode := .lastEntry }
  | .test _ => outline

def after (outline : Outline Entry) (operations : List (Checker.Operation Entry)) :
    Outline Entry :=
  operations.foldl perform outline

theorem after_append
    (outline : Outline Entry) (operations more : List (Checker.Operation Entry)) :
    outline.after (operations ++ more) = (outline.after operations).after more :=
  List.foldl_append

end Outline

/--
Whether a program goes on from an older one: predicates may have joined its last
group and other groups may stand behind it, but nothing else has changed.
-/
def GoesOn (old new : List (List (Predicate Entry))) : Prop :=
  ∃ joined later, new = old.modifyLast (· ++ joined) ++ later

namespace GoesOn

variable {old new : List (List (Predicate Entry))}

theorem refl (program : List (List (Predicate Entry))) : GoesOn program program := by
  refine ⟨[], [], ?_⟩
  rcases program.eq_nil_or_concat' with rfl | ⟨earlier, last, rfl⟩
  · rfl
  · rw [List.modifyLast_concat, List.append_nil, List.append_nil]

theorem start (goesOn : GoesOn old new) (predicate : Predicate Entry) :
    GoesOn old (new ++ [[predicate]]) := by
  rcases goesOn with ⟨joined, later, rfl⟩
  exact ⟨joined, later ++ [[predicate]], List.append_assoc _ _ _⟩

theorem join (goesOn : GoesOn old new) (predicate : Predicate Entry) :
    GoesOn old (new.modifyLast (· ++ [predicate])) := by
  rcases goesOn with ⟨joined, later, rfl⟩
  rcases later.eq_nil_or_concat' with rfl | ⟨between, last, rfl⟩
  · -- The last group is still that of the older program.
    refine ⟨joined ++ [predicate], [], ?_⟩
    rcases old.eq_nil_or_concat' with rfl | ⟨earlier, group, rfl⟩
    · rfl
    · simp only [List.modifyLast_concat, List.append_nil, List.append_assoc]
  · refine ⟨joined, between ++ [last ++ [predicate]], ?_⟩
    rw [← List.append_assoc, List.modifyLast_concat, List.append_assoc]

theorem perform
    {outline : Outline Entry} (goesOn : GoesOn old outline.program)
    (operation : Checker.Operation Entry) :
    GoesOn old (outline.perform operation).program := by
  cases operation with
  | add predicate => exact goesOn.start predicate
  | append predicate => exact goesOn.join predicate
  | _ => exact goesOn

theorem after
    {outline : Outline Entry} (goesOn : GoesOn old outline.program)
    (operations : List (Checker.Operation Entry)) :
    GoesOn old (outline.after operations).program := by
  induction operations generalizing outline with
  | nil => exact goesOn
  | cons operation rest induction => exact induction (goesOn.perform operation)

end GoesOn

/-! ## Checkers and their outlines -/

namespace Checker

/-- Whether the open group, if there are groups at all, is the last of them. -/
def EndsOpen (checker : Checker Entry) : Prop :=
  checker.opened = none → checker.complete = []

theorem groups_of_unopened
    {checker : Checker Entry} (ends : checker.EndsOpen) (unopened : checker.opened = none) :
    checker.groups = [] := by
  rw [groups, ends unopened, unopened]
  rfl

theorem append_of_opened
    {checker : Checker Entry} {group : PhaseGroup Entry}
    (opened : checker.opened = some group) (predicate : Predicate Entry) :
    checker.append predicate =
      .ok { checker with opened := some (group.push predicate) } := by
  rw [append, opened]

theorem append_of_unopened
    {checker : Checker Entry} (unopened : checker.opened = none)
    (predicate : Predicate Entry) :
    checker.append predicate = .error (.extendWithoutPhase predicate.name) := by
  rw [append, unopened]

variable [Snapshot Entry]

theorem perform_append_of_opened
    {checker : Checker Entry} {group : PhaseGroup Entry}
    (opened : checker.opened = some group) (predicate : Predicate Entry) :
    checker.perform (.append predicate) =
      ⟨.done, { checker with opened := some (group.push predicate) }⟩ := by
  rw [perform, append_of_opened opened]

theorem perform_append_of_unopened
    {checker : Checker Entry} (unopened : checker.opened = none)
    (predicate : Predicate Entry) :
    checker.perform (.append predicate) =
      ⟨.refused (.extendWithoutPhase predicate.name), checker⟩ := by
  rw [perform, append_of_unopened unopened]

theorem endsOpen_perform
    {checker : Checker Entry} (ends : checker.EndsOpen) (operation : Operation Entry) :
    (checker.perform operation).checker.EndsOpen := by
  cases operation with
  | add predicate =>
      intro unopened
      cases unopened
  | append predicate =>
      cases opened : checker.opened with
      | none =>
          rw [perform_append_of_unopened opened]
          exact ends
      | some group =>
          rw [perform_append_of_opened opened]
          intro unopened
          cases unopened
  | _ => exact ends

/-- A call does to the outline of a checker what it does to the checker. -/
theorem outline_perform
    {checker : Checker Entry} (ends : checker.EndsOpen) (operation : Operation Entry) :
    (checker.perform operation).checker.outline = checker.outline.perform operation := by
  cases operation with
  | add predicate => simp [perform, outline, Outline.perform, PhaseGroup.members, add, groups]
  | append predicate =>
      cases opened : checker.opened with
      | none =>
          rw [perform_append_of_unopened opened]
          simp [outline, Outline.perform, groups_of_unopened ends opened,
            List.modifyLast, List.modifyLast.go]
      | some group =>
          rw [perform_append_of_opened opened]
          simp [outline, Outline.perform, groups, opened, List.modifyLast_concat]
  | _ => rfl

theorem outline_after
    {checker : Checker Entry} (ends : checker.EndsOpen)
    (operations : List (Operation Entry)) :
    (checker.after operations).outline = checker.outline.after operations := by
  induction operations generalizing checker with
  | nil => rfl
  | cons operation rest induction =>
      rw [after, induction (endsOpen_perform ends operation), outline_perform ends]
      rfl

/-- A group is open behind some calls exactly if it was before or one of them starts one. -/
theorem isSome_opened_after
    (checker : Checker Entry) (operations : List (Operation Entry)) :
    (checker.after operations).opened.isSome =
      (checker.opened.isSome || operations.any Operation.starts) := by
  induction operations generalizing checker with
  | nil => simp [after]
  | cons operation rest induction =>
      have step :
          (checker.perform operation).checker.opened.isSome =
            (checker.opened.isSome || operation.starts) := by
        cases operation with
        | append predicate =>
            cases opened : checker.opened with
            | none => simp [perform_append_of_unopened opened, opened, Operation.starts]
            | some group => simp [perform_append_of_opened opened]
        | add predicate => simp [perform, add, Operation.starts]
        | _ => exact (Bool.or_false _).symm
      rw [after, induction, step, List.any_cons, Bool.or_assoc]

/-- The members over all groups are those before and what the calls handed over. -/
theorem flatten_program_after
    (checker : Checker Entry) (operations : List (Operation Entry)) :
    (checker.after operations).outline.program.flatten =
      checker.outline.program.flatten ++ checker.accepted operations := by
  induction operations generalizing checker with
  | nil => simp [after, accepted]
  | cons operation rest induction =>
      rw [after, induction, accepted, ← List.append_assoc]
      congr 1
      cases operation with
      | append predicate =>
          cases opened : checker.opened with
          | none => simp [perform_append_of_unopened opened]
          | some group =>
              simp [perform_append_of_opened opened, outline, groups, opened,
                Operation.predicate?]
      | add predicate =>
          simp [perform, outline, Operation.predicate?, PhaseGroup.members]
      | _ => exact (List.append_nil _).symm

/-- Only an append is ever refused, and only if there is no group that it could join. -/
theorem refused_iff
    (checker : Checker Entry) (operation : Operation Entry) (cause : Misuse) :
    (checker.perform operation).answer = .refused cause ↔
      ∃ predicate,
        operation = .append predicate ∧ checker.opened = none ∧
          cause = .extendWithoutPhase predicate.name := by
  cases operation with
  | append predicate =>
      cases opened : checker.opened with
      | none => simp [perform_append_of_unopened opened, eq_comm]
      | some group => simp [perform_append_of_opened opened]
  | _ => simp [perform]

theorem checker_eq_of_refused
    {checker : Checker Entry} {operation : Operation Entry} {cause : Misuse}
    (refused : (checker.perform operation).answer = .refused cause) :
    (checker.perform operation).checker = checker := by
  rcases (refused_iff checker operation cause).1 refused with ⟨predicate, rfl, unopened, _⟩
  rw [perform_append_of_unopened unopened]

omit [Snapshot Entry] in
theorem any_starts_eq_false_iff (operations : List (Operation Entry)) :
    operations.any Operation.starts = false ↔ ∀ predicate, .add predicate ∉ operations := by
  rw [List.any_eq_false]
  constructor
  · intro silent predicate added
    exact silent _ added rfl
  · intro unadded operation member
    cases operation with
    | add predicate => exact absurd member (unadded predicate)
    | _ => exact Bool.false_ne_true

/-- A fresh checker has an open group as soon as something was added. -/
theorem opened_after_empty_eq_none_iff (operations : List (Operation Entry)) :
    (empty.after operations).opened = none ↔ ∀ predicate, .add predicate ∉ operations := by
  rw [← any_starts_eq_false_iff, ← Option.isNone_iff_eq_none, ← Option.isSome_eq_false_iff,
    isSome_opened_after]
  rfl

/--
Whatever calls a fresh checker receives, its outline is that of a list to which
they append.  None of its groups is empty, later calls leave all groups but the
last as they are, and its members are the accepted predicates in the order of
the calls.  A call is refused exactly if it appends a predicate before anything
was added, and then changes nothing; neither does a test.
-/
theorem outline_after_empty (operations : List (Operation Entry)) :
    (empty.after operations).outline = ({} : Outline Entry).after operations ∧
    (∀ members ∈ (empty.after operations).outline.program, members ≠ []) ∧
    (∀ more,
      GoesOn (empty.after operations).outline.program
        (empty.after (operations ++ more)).outline.program) ∧
    (empty.after operations).outline.program.flatten = empty.accepted operations ∧
    (∀ operation cause,
      ((empty.after operations).perform operation).answer = .refused cause ↔
        ∃ predicate,
          operation = .append predicate ∧ (∀ other, .add other ∉ operations) ∧
            cause = .extendWithoutPhase predicate.name) ∧
    (∀ operation cause,
      ((empty.after operations).perform operation).answer = .refused cause →
        ((empty.after operations).perform operation).checker = empty.after operations) ∧
    ∀ entries,
      ((empty.after operations).perform (.test entries)).checker =
        empty.after operations := by
  have fresh : (empty : Checker Entry).EndsOpen := fun _ => rfl
  have refines := outline_after fresh operations
  refine ⟨refines, ?_, ?_, flatten_program_after empty operations, ?_, ?_, ?_⟩
  · intro members member
    rcases List.mem_map.1 member with ⟨group, _, rfl⟩
    exact List.cons_ne_nil _ _
  · intro more
    have continued :
        (empty.after (operations ++ more)).outline =
          (empty.after operations).outline.after more := by
      rw [outline_after fresh, Outline.after_append, refines]
    rw [continued]
    exact (GoesOn.refl _).after more
  · intro operation cause
    rw [refused_iff, opened_after_empty_eq_none_iff]
  · intro operation cause refused
    exact checker_eq_of_refused refused
  · intro entries
    rfl

/-- The predicate that a window of the app layer with this title is shown. -/
def showsApp (title : String) : Predicate WindowManagerEntry :=
  WindowAssertion.predicate ⟨.layer .app, true⟩ title

/-- Calls that append too early, and go on after a test. -/
def hastyCalls : List (Operation WindowManagerEntry) :=
  [ .append (showsApp "A"), .skippingUntilFirst, .add (showsApp "B"), .test [],
    .append (showsApp "C"), .atLastEntry, .add (showsApp "D") ]

theorem hastyCalls_outline :
    (empty.after hastyCalls).outline.program =
        [[showsApp "B", showsApp "C"], [showsApp "D"]] ∧
      empty.accepted hastyCalls = [showsApp "B", showsApp "C", showsApp "D"] ∧
      (((empty.after (hastyCalls.take 2)).perform (.append (showsApp "A"))).answer =
          .refused (.extendWithoutPhase "shows_app_window(A)") ∧
        ((empty.after (hastyCalls.take 2)).perform (.append (showsApp "A"))).checker =
          empty.after (hastyCalls.take 2)) ∧
      GoesOn (empty.after (hastyCalls.take 3)).outline.program
        (empty.after hastyCalls).outline.program := by
  rcases outline_after_empty hastyCalls with ⟨refines, _, _, taken, _⟩
  rcases outline_after_empty (hastyCalls.take 2) with ⟨_, _, _, _, refusal, kept, _⟩
  rcases outline_after_empty (hastyCalls.take 3) with ⟨_, _, goesOn, _⟩
  have program :
      (empty.after hastyCalls).outline.program = [[showsApp "B", showsApp "C"], [showsApp "D"]] := by
    rw [refines]
    rfl
  have refused :
      ((empty.after (hastyCalls.take 2)).perform (.append (showsApp "A"))).answer =
        .refused (.extendWithoutPhase "shows_app_window(A)") :=
    (refusal _ _).2 ⟨showsApp "A", rfl, by simp [hastyCalls], rfl⟩
  refine ⟨program, ?_, ⟨refused, kept _ _ refused⟩, goesOn (hastyCalls.drop 3)⟩
  rw [← taken, program]
  rfl

end Checker

end PhaseAssertions
