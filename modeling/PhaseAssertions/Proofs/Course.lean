import Mathlib.Data.List.Nodup
import PhaseAssertions.Proofs.SkippedLead

/-!
# The course of a test

A test of all entries is a path through the pairs of an entry and a phase.  It
begins at the first entry and the first phase; after each evaluation either the
entry or the phase is the next one, and the phase only after a rejection and
only if it has matched before.  So position and phase together tell how many
evaluations were made, none is made twice, and the number of all of them is
linear.

The scan for the first match and the walk behind it are two loops that share
one such path.  What is asked within an evaluation is settled by the group
alone: its members in order, up to the first one that rejects the entry.
-/

namespace PhaseAssertions

universe u

/-! ## What an evaluation asks -/

/-- The question that asks `predicate` about `entry`, with its answer. -/
def Predicate.call {Entry : Type u} [Snapshot Entry]
    (predicate : Predicate Entry) (entry : Entry) : Call :=
  { predicate := predicate.name
    timestamp := Snapshot.timestamp entry
    passed := (predicate.evaluate entry).passed }

namespace PhaseGroup

variable {Entry : Type u}

theorem asked_of_accepted
    {members : List (Predicate Entry)} {entry : Entry}
    (accepted : ∀ predicate ∈ members, (predicate.evaluate entry).passed = true)
    (rest : List (Predicate Entry)) :
    asked entry (members ++ rest) = members ++ asked entry rest := by
  induction members with
  | nil => rfl
  | cons predicate members induction =>
      rw [List.forall_mem_cons] at accepted
      rw [List.cons_append, asked_cons, if_pos accepted.1, induction accepted.2]
      rfl

theorem asked_throughout
    {members : List (Predicate Entry)} {entry : Entry}
    (accepted : ∀ predicate ∈ members, (predicate.evaluate entry).passed = true) :
    asked entry members = members := by
  simpa [asked, inquire] using asked_of_accepted accepted []

theorem asked_upTo
    {before : List (Predicate Entry)} {rejecting : Predicate Entry} {entry : Entry}
    (accepted : ∀ predicate ∈ before, (predicate.evaluate entry).passed = true)
    (rejected : (rejecting.evaluate entry).passed = false)
    (after : List (Predicate Entry)) :
    asked entry (before ++ rejecting :: after) = before ++ [rejecting] := by
  rw [asked_of_accepted accepted, asked_cons, if_neg (by simp [rejected])]

variable [Snapshot Entry]

/-- The questions of an evaluation: all members up to the first one that rejects. -/
inductive Consults (group : PhaseGroup Entry) (entry : Entry) : List Call → Prop where
  /-- All members accept the entry. -/
  | throughout (accepted : group.Holds entry) :
      Consults group entry (group.members.map fun member => member.call entry)
  /-- A member rejects the entry, and those after it are not asked. -/
  | upTo
      {before after : List (Predicate Entry)} {rejecting : Predicate Entry}
      (split : group.members = before ++ rejecting :: after)
      (accepted : ∀ member ∈ before, (member.evaluate entry).passed = true)
      (rejected : (rejecting.evaluate entry).passed = false) :
      Consults group entry
        ((before ++ [rejecting]).map fun member => member.call entry)

theorem calls_eq_map_asked (group : PhaseGroup Entry) (entry : Entry) :
    group.calls entry =
      (asked entry group.members).map fun predicate => predicate.call entry := by
  rw [PhaseGroup.calls, inquire_eq_map_asked, List.map_map]
  rfl

theorem calls_of_holds {group : PhaseGroup Entry} {entry : Entry} (holds : group.Holds entry) :
    group.calls entry = group.members.map fun member => member.call entry := by
  rw [calls_eq_map_asked, asked_throughout holds]

theorem calls_of_split
    {group : PhaseGroup Entry} {entry : Entry}
    {before after : List (Predicate Entry)} {rejecting : Predicate Entry}
    (split : group.members = before ++ rejecting :: after)
    (accepted : ∀ member ∈ before, (member.evaluate entry).passed = true)
    (rejected : (rejecting.evaluate entry).passed = false) :
    group.calls entry = (before ++ [rejecting]).map fun member => member.call entry := by
  rw [calls_eq_map_asked, split, asked_upTo accepted rejected]

theorem consults_calls (group : PhaseGroup Entry) (entry : Entry) :
    group.Consults entry (group.calls entry) := by
  by_cases holds : group.Holds entry
  · rw [calls_of_holds holds]
    exact .throughout holds
  · rcases exists_firstToReject holds with
      ⟨rejecting, before, after, split, accepted, rejected⟩
    rw [calls_of_split split accepted rejected]
    exact .upTo split accepted rejected

end PhaseGroup

/-- Whether no question of an evaluation was answered by a rejection. -/
def Evaluation.passed (evaluation : Evaluation) : Bool :=
  evaluation.calls.all Call.passed

theorem PhaseGroup.Consults.all_passed_iff
    {Entry : Type u} [Snapshot Entry] {group : PhaseGroup Entry} {entry : Entry}
    {calls : List Call} (consults : group.Consults entry calls) :
    calls.all Call.passed = true ↔ group.Holds entry := by
  cases consults with
  | throughout accepted =>
      simpa [Predicate.call, accepted] using fun member => accepted member
  | @upTo before after rejecting split accepted rejected =>
      have refused : ¬ group.Holds entry := by
        intro holds
        simpa [rejected] using holds rejecting (by simp [split])
      simp [Predicate.call, rejected, refused]

/-! ## Courses -/

/-- How an evaluation can follow `last`, when `seen` was evaluated before. -/
inductive Follows (seen : List Evaluation) (last next : Evaluation) : Prop where
  /-- The same phase is asked about the next entry. -/
  | nextEntry
      (entry : next.entry = last.entry + 1)
      (group : next.group = last.group)
  /-- The phase has matched before but failed now: the next one is asked. -/
  | nextGroup
      (entry : next.entry = last.entry)
      (group : next.group = last.group + 1)
      (failed : last.passed = false)
      (matched : ∃ earlier ∈ seen, earlier.group = last.group ∧ earlier.passed = true)

/--
The courses that evaluations can take, from the first entry and phase on; the
latest evaluation stands apart from those seen before it.
-/
inductive Course : List Evaluation → Evaluation → Prop where
  | start {first : Evaluation} (entry : first.entry = 0) (group : first.group = 0) :
      Course [] first
  | step {seen : List Evaluation} {last next : Evaluation}
      (course : Course seen last) (follows : Follows seen last next) :
      Course (seen ++ [last]) next

/-- Whether the evaluations form a course. -/
def IsCourse (evaluations : List Evaluation) : Prop :=
  ∃ seen last, evaluations = seen ++ [last] ∧ Course seen last

/-- The groups that an entry was evaluated against, in order. -/
def groupsAt (evaluations : List Evaluation) (entry : Nat) : List Nat :=
  (evaluations.filter fun evaluation => evaluation.entry = entry).map Evaluation.group

theorem groupsAt_concat_self (evaluations : List Evaluation) (next : Evaluation) :
    groupsAt (evaluations ++ [next]) next.entry =
      groupsAt evaluations next.entry ++ [next.group] := by
  simp [groupsAt]

theorem groupsAt_concat_of_ne
    (evaluations : List Evaluation) {next : Evaluation} {entry : Nat}
    (other : next.entry ≠ entry) :
    groupsAt (evaluations ++ [next]) entry = groupsAt evaluations entry := by
  simp [groupsAt, other]

theorem groupsAt_eq_nil
    {evaluations : List Evaluation} {entry : Nat}
    (before : ∀ evaluation ∈ evaluations, evaluation.entry < entry) :
    groupsAt evaluations entry = [] := by
  rw [groupsAt, List.map_eq_nil_iff, List.filter_eq_nil_iff]
  intro evaluation member
  simpa using Nat.ne_of_lt (before evaluation member)

namespace Course

variable {seen : List Evaluation} {last : Evaluation}

/-- Every step moves on by one, so the sums of the positions count the evaluations. -/
theorem map_add (course : Course seen last) :
    (seen ++ [last]).map (fun evaluation => evaluation.entry + evaluation.group) =
      List.range (seen ++ [last]).length := by
  induction course with
  | start entry group => simp [entry, group]
  | @step seen last next course follows induction =>
      have count : last.entry + last.group = seen.length := by
        simpa [List.range_succ] using congrArg List.getLast? induction
      have moved : next.entry + next.group = seen.length + 1 := by
        cases follows <;> omega
      rw [List.map_append, induction]
      simp [List.range_succ, moved]

theorem length_eq (course : Course seen last) :
    seen.length = last.entry + last.group := by
  simpa [List.range_succ] using (congrArg List.getLast? course.map_add).symm

/-- No group is evaluated twice on the same entry. -/
theorem nodup (course : Course seen last) :
    ((seen ++ [last]).map
      fun evaluation => (evaluation.entry, evaluation.group)).Nodup := by
  have sums :
      (((seen ++ [last]).map
        fun evaluation => (evaluation.entry, evaluation.group)).map
          fun pair => pair.1 + pair.2).Nodup := by
    rw [List.map_map]
    exact course.map_add ▸ List.nodup_range
  exact List.Nodup.of_map _ sums

/-- The latest evaluation is about the latest entry and the latest phase. -/
theorem le_last (course : Course seen last) :
    ∀ evaluation ∈ seen ++ [last],
      evaluation.entry ≤ last.entry ∧ evaluation.group ≤ last.group := by
  induction course with
  | start => simp
  | @step seen last next course follows induction =>
      have moved : last.entry ≤ next.entry ∧ last.group ≤ next.group := by
        cases follows <;> omega
      intro evaluation member
      rcases List.mem_append.1 member with member | member
      · have bounds := induction evaluation member
        exact ⟨Nat.le_trans bounds.1 moved.1, Nat.le_trans bounds.2 moved.2⟩
      · obtain rfl : evaluation = next := by simpa using member
        exact ⟨Nat.le_refl _, Nat.le_refl _⟩

/--
The latest entry was evaluated against the latest phase only, or against that
phase, asked for the first time, and the one before it.
-/
theorem groupsAt_last (course : Course seen last) :
    groupsAt (seen ++ [last]) last.entry = [last.group] ∨
      ∃ group,
        last.group = group + 1 ∧
          groupsAt (seen ++ [last]) last.entry = [group, group + 1] ∧
          ∀ earlier ∈ seen, earlier.group ≠ last.group := by
  induction course with
  | start => simp [groupsAt]
  | @step seen last next course follows induction =>
      rw [groupsAt_concat_self]
      cases follows with
      | nextEntry entry group =>
          left
          rw [groupsAt_eq_nil, List.nil_append]
          intro evaluation member
          have bounds := course.le_last evaluation member
          omega
      | nextGroup entry group failed matched =>
          right
          have fresh : ∀ earlier ∈ seen ++ [last], earlier.group ≠ next.group := by
            intro earlier member
            have bounds := course.le_last earlier member
            omega
          -- A phase that was asked for the first time cannot have matched before.
          rcases induction with only | ⟨group, _, _, unasked⟩
          · exact ⟨last.group, group, by rw [entry, only, group]; rfl, fresh⟩
          · rcases matched with ⟨earlier, member, same, _⟩
            exact absurd same (unasked earlier member)

/-- An entry is evaluated against at most two phases, and these are neighbours. -/
theorem exists_groupsAt_prefix (course : Course seen last) (entry : Nat) :
    ∃ group, groupsAt (seen ++ [last]) entry <+: [group, group + 1] := by
  induction course with
  | @start first atEntry atGroup =>
      by_cases current : first.entry = entry
      · exact ⟨first.group, [first.group + 1], by simp [groupsAt, current]⟩
      · exact ⟨0, by simp [groupsAt, current]⟩
  | @step seen last next course follows induction =>
      by_cases current : next.entry = entry
      · subst current
        rcases (course.step follows).groupsAt_last with only | ⟨group, _, both, _⟩
        · exact ⟨next.group, [next.group + 1], by rw [only]; rfl⟩
        · exact ⟨group, [], by rw [both]; rfl⟩
      · rw [groupsAt_concat_of_ne _ current]
        exact induction

end Course

/-! ## The log of a walk -/

variable {Entry : Type u}

/-- The evaluations among some events. -/
def CheckEvent.evaluations (events : List CheckEvent) : List Evaluation :=
  events.filterMap evaluation?

@[simp]
theorem CheckEvent.evaluations_append (before after : List CheckEvent) :
    evaluations (before ++ after) = evaluations before ++ evaluations after :=
  List.filterMap_append

/-- All the phases of the program that a cursor is in. -/
def Cursor.program (cursor : Cursor Entry) : List (PhaseGroup Entry) :=
  cursor.passed ++ cursor.current :: cursor.later

section Logs

variable [Snapshot Entry]

/-- The evaluation of `group`, the one at `position`, on the entry at `index`. -/
def PhaseGroup.evaluation
    (group : PhaseGroup Entry) (position index : Nat) (entry : Entry) : Evaluation :=
  { entry := index, group := position, calls := group.calls entry }

theorem PhaseGroup.passed_evaluation_iff
    (group : PhaseGroup Entry) (position index : Nat) (entry : Entry) :
    (group.evaluation position index entry).passed = true ↔ group.Holds entry :=
  (group.consults_calls entry).all_passed_iff

/-- Whether an evaluation asks the group at its position about the entry at its position. -/
def Evaluation.IsOf
    (evaluation : Evaluation) (groups : List (PhaseGroup Entry))
    (entries : List Entry) : Prop :=
  ∃ group entry,
    groups[evaluation.group]? = some group ∧
      entries[evaluation.entry]? = some entry ∧
      evaluation.calls = group.calls entry

namespace Cursor

/-- The phase that is asked about `entry` after the current one has rejected it. -/
def successor? (cursor : Cursor Entry) (entry : Entry) : Option (PhaseGroup Entry) :=
  if cursor.matched = true ∧ ¬ cursor.current.Holds entry then
    cursor.later.head?
  else
    none

theorem evaluations_advance (cursor : Cursor Entry) (index : Nat) (entry : Entry) :
    CheckEvent.evaluations (cursor.advance index entry).events =
      cursor.current.evaluation cursor.position index entry ::
        (cursor.successor? entry).toList.map fun next =>
          next.evaluation (cursor.position + 1) index entry := by
  rcases cursor with ⟨passed, current, later, matched⟩
  by_cases accepted : current.Holds entry
  · simp only [advance, successor?, accepted, PhaseGroup.passed_evaluate_iff, if_true,
      not_true, and_false, if_false]
    rfl
  · simp only [advance, successor?, accepted, PhaseGroup.passed_evaluate_iff, if_false,
      not_false_eq_true, and_true]
    cases matched with
    | false => rfl
    | true =>
        cases later with
        | nil => rfl
        | cons next rest =>
            by_cases taken : next.Holds entry
            · simp only [taken]
              rfl
            · simp only [taken]
              rfl

/-- The evaluations seen so far fit a cursor whose next entry stands at `index`. -/
inductive Logged : List Evaluation → Nat → Cursor Entry → Prop where
  /-- Nothing was evaluated yet. -/
  | start {cursor : Cursor Entry}
      (position : cursor.position = 0) (unmatched : cursor.matched = false) :
      Logged [] 0 cursor
  /-- The entry before `index` came last, and the current phase accepted it. -/
  | inside {seen : List Evaluation} {last : Evaluation} {index : Nat} {cursor : Cursor Entry}
      (course : Course seen last) (passed : last.passed = true)
      (entry : index = last.entry + 1) (group : cursor.position = last.group) :
      Logged (seen ++ [last]) index cursor

namespace Logged

variable {seen : List Evaluation} {index : Nat} {cursor next : Cursor Entry} {entry : Entry}

theorem course (logged : Logged seen index cursor) (entry : Entry) :
    Course seen (cursor.current.evaluation cursor.position index entry) := by
  cases logged with
  | start position unmatched => exact .start rfl position
  | inside course passed atEntry atGroup =>
      exact .step course (.nextEntry atEntry atGroup)

theorem course_next
    (logged : Logged seen index cursor) (matched : cursor.matched = true)
    (rejected : ¬ cursor.current.Holds entry) (next : PhaseGroup Entry) :
    Course (seen ++ [cursor.current.evaluation cursor.position index entry])
      (next.evaluation (cursor.position + 1) index entry) := by
  refine .step (logged.course entry) (.nextGroup rfl rfl ?_ ?_)
  · rwa [← Bool.not_eq_true, PhaseGroup.passed_evaluation_iff]
  · cases logged with
    | start position unmatched => simp [matched] at unmatched
    | inside course passed atEntry atGroup => exact ⟨_, by simp, atGroup.symm, passed⟩

/-- The evaluations that one more entry adds continue the course. -/
theorem isCourse_advance (logged : Logged seen index cursor) (entry : Entry) :
    IsCourse (seen ++ CheckEvent.evaluations (cursor.advance index entry).events) := by
  rw [evaluations_advance]
  cases succeeds : cursor.successor? entry with
  | none => exact ⟨_, _, rfl, logged.course entry⟩
  | some next =>
      have guard : cursor.matched = true ∧ ¬ cursor.current.Holds entry := by
        by_contra unguarded
        simp [successor?, unguarded] at succeeds
      refine ⟨_, _, ?_, logged.course_next guard.1 guard.2 next⟩
      simp

/-- After an entry that was placed, the evaluations fit the next cursor. -/
theorem step
    (logged : Logged seen index cursor)
    (transition : Transition index entry cursor (.ok next)) :
    Logged (seen ++ CheckEvent.evaluations (cursor.advance index entry).events)
      (index + 1) next := by
  rw [evaluations_advance]
  cases transition with
  | stay cursor accepted =>
      have kept : cursor.successor? entry = none := by simp [successor?, accepted]
      rw [kept]
      have passed :=
        (cursor.current.passed_evaluation_iff cursor.position index entry).2 accepted
      exact .inside (logged.course entry) passed rfl rfl
  | @handOver passed rest current following rejected accepted =>
      have left :
          successor? ⟨passed, current, following :: rest, true⟩ entry = some following := by
        simp [successor?, rejected]
      rw [left, Option.toList_some, List.map_singleton, List.append_cons]
      have taken :=
        (following.passed_evaluation_iff (passed.length + 1) index entry).2 accepted
      exact .inside (logged.course_next rfl rejected following) taken rfl List.length_append

/-- A walk that a log fits continues the course that the log is. -/
theorem isCourse_walk
    (logged : Logged seen index cursor) {entries : List Entry}
    (evaluated : seen ≠ [] ∨ entries ≠ []) :
    IsCourse (seen ++ CheckEvent.evaluations (cursor.walk index entries).events) := by
  induction entries generalizing seen index cursor with
  | nil =>
      cases logged with
      | start => simp at evaluated
      | inside course => exact ⟨_, _, List.append_nil _, course⟩
  | cons entry rest induction =>
      rw [walk]
      cases stepped : (cursor.advance index entry).outcome with
      | error failure => exact logged.isCourse_advance entry
      | ok next =>
          have continued := logged.step (transition_iff.2 stepped)
          rw [CheckEvent.evaluations_append, ← List.append_assoc]
          exact induction continued (.inl (by simp [evaluations_advance]))

end Logged

/-- An evaluation asks a phase of the program about the entry that comes next. -/
theorem isOf_of_mem_advance
    {cursor : Cursor Entry} {before after : List Entry} {entry : Entry}
    {evaluation : Evaluation}
    (member :
      evaluation ∈ CheckEvent.evaluations (cursor.advance before.length entry).events) :
    evaluation.IsOf cursor.program (before ++ entry :: after) := by
  have atEntry : (before ++ entry :: after)[before.length]? = some entry := by simp
  rw [evaluations_advance, List.mem_cons] at member
  rcases member with rfl | member
  · refine ⟨cursor.current, entry, ?_, atEntry, rfl⟩
    simp [program, PhaseGroup.evaluation, position]
  · simp only [List.mem_map, Option.mem_toList, successor?, Option.ite_none_right_eq_some]
      at member
    rcases member with ⟨next, ⟨_, following⟩, rfl⟩
    obtain ⟨rest, later⟩ := List.head?_eq_some_iff.1 following
    refine ⟨next, entry, ?_, atEntry, rfl⟩
    simp [program, PhaseGroup.evaluation, position, later]

theorem Transition.program_eq
    {index : Nat} {entry : Entry} {cursor next : Cursor Entry}
    (transition : Transition index entry cursor (.ok next)) :
    next.program = cursor.program := by
  cases transition with
  | stay cursor accepted => rfl
  | handOver rejected accepted => simp [program]

theorem isOf_of_mem_walk
    {cursor : Cursor Entry} {entries : List Entry} {evaluation : Evaluation}
    (before : List Entry)
    (member :
      evaluation ∈ CheckEvent.evaluations (cursor.walk before.length entries).events) :
    evaluation.IsOf cursor.program (before ++ entries) := by
  induction entries generalizing cursor before with
  | nil => simp [walk, CheckEvent.evaluations] at member
  | cons entry rest induction =>
      rw [walk] at member
      cases stepped : (cursor.advance before.length entry).outcome with
      | error failure =>
          rw [stepped] at member
          exact isOf_of_mem_advance member
      | ok next =>
          simp only [stepped, CheckEvent.evaluations_append, List.mem_append] at member
          rcases member with member | member
          · exact isOf_of_mem_advance member
          · rw [← (transition_iff.2 stepped).program_eq, List.append_cons]
            exact induction (before ++ [entry]) (by simpa using member)

end Cursor

/-! ## The log of a test -/

namespace Checker

theorem evaluations_scanEvents
    (group : PhaseGroup Entry) (index : Nat) (entries : List Entry) :
    CheckEvent.evaluations (scanEvents group index entries) =
      (entries.zipIdx index).map fun (entry, position) =>
        group.evaluation 0 position entry := by
  rw [CheckEvent.evaluations, scanEvents, List.filterMap_map]
  exact congrFun List.filterMap_eq_map (entries.zipIdx index)

theorem evaluations_scanEvents_concat
    (group : PhaseGroup Entry) (entries : List Entry) (entry : Entry) :
    CheckEvent.evaluations (scanEvents group 0 (entries ++ [entry])) =
      CheckEvent.evaluations (scanEvents group 0 entries) ++
        [group.evaluation 0 entries.length entry] := by
  simp [evaluations_scanEvents, List.zipIdx_append]

/-- A scan is a course that stays with the first phase. -/
theorem course_scan (group : PhaseGroup Entry) (entries : List Entry) (entry : Entry) :
    Course (CheckEvent.evaluations (scanEvents group 0 entries))
      (group.evaluation 0 entries.length entry) := by
  induction entries using List.reverseRecOn generalizing entry with
  | nil => exact .start rfl rfl
  | append_singleton before last induction =>
      rw [evaluations_scanEvents_concat]
      exact .step (induction last) (.nextEntry List.length_append rfl)

theorem isOf_of_mem_scan
    {group : PhaseGroup Entry} {later : List (PhaseGroup Entry)}
    {scanned : List Entry} {evaluation : Evaluation} (rest : List Entry)
    (member : evaluation ∈ CheckEvent.evaluations (scanEvents group 0 scanned)) :
    evaluation.IsOf (group :: later) (scanned ++ rest) := by
  rw [evaluations_scanEvents, List.mem_map] at member
  rcases member with ⟨⟨entry, position⟩, found, rfl⟩
  have atEntry : scanned[position]? = some entry := List.mk_mem_zipIdx_iff_getElem?.1 found
  have bounded : position < scanned.length := (List.getElem?_eq_some_iff.1 atEntry).1
  exact ⟨group, entry, rfl, (List.getElem?_append_left bounded).trans atEntry, rfl⟩

/-- The evaluations that a run makes, in order. -/
def evaluations (checker : Checker Entry) (entries : List Entry) : List Evaluation :=
  CheckEvent.evaluations (checker.run entries).events

variable {checker : Checker Entry} {entries : List Entry}
variable {first : PhaseGroup Entry} {later : List (PhaseGroup Entry)}

omit [Snapshot Entry] in
theorem evaluations_openEvents (checker : Checker Entry) :
    CheckEvent.evaluations checker.openEvents = [] := by
  unfold openEvents
  split
  · split <;> rfl
  · rfl

theorem evaluations_eq_evaluate
    {entry : Entry} {rest : List Entry}
    (declared : checker.groups = first :: later)
    (selection : checker.selected entries = entry :: rest) :
    checker.evaluations entries =
      CheckEvent.evaluations (checker.evaluate first later entry rest).events := by
  have finished (count : Nat) : CheckEvent.evaluations [.finished count] = [] := rfl
  rw [evaluations, run, selection, declared]
  simp only [CheckEvent.evaluations_append, evaluations_openEvents, finished,
    List.append_nil, List.nil_append]
  rfl

/-- The evaluations of a test of all entries: of a walk, of a scan, or of both. -/
theorem evaluations_eq
    (all : checker.mode = .allEntries)
    (declared : checker.groups = first :: later)
    (evaluated : checker.selected entries ≠ []) :
    checker.evaluations entries =
        CheckEvent.evaluations
          ((Cursor.start first later).walk 0 (checker.selected entries)).events ∨
      checker.evaluations entries =
        CheckEvent.evaluations (scanEvents first 0 (checker.selected entries)) ∨
      ∃ lead entry rest,
        checker.selected entries = lead ++ entry :: rest ∧ first.Holds entry ∧
          checker.evaluations entries =
            CheckEvent.evaluations (scanEvents first 0 (lead ++ [entry])) ++
              CheckEvent.evaluations
                ({ Cursor.start first later with matched := true }.walk
                  (lead.length + 1) rest).events := by
  rcases List.exists_cons_of_ne_nil evaluated with ⟨head, others, selection⟩
  rw [evaluations_eq_evaluate declared selection, selection]
  cases skips : checker.skipUntilFirst with
  | false => exact .inl (by simp [evaluate, all, skips, walkAll])
  | true =>
      right
      simp only [evaluate, all, skips, if_true]
      rcases unmatched_or_exists_lead first (head :: others) with
        unmatched | ⟨lead, entry, rest, split, begins, skipped⟩
      · left
        rw [walkFromFirst, scan_of_unmatched unmatched]
      · right
        refine ⟨lead, entry, rest, split, begins, ?_⟩
        rw [walkFromFirst, split, scan_of_match begins skipped, Nat.add_comm]
        exact CheckEvent.evaluations_append _ _

theorem isCourse_evaluations
    (all : checker.mode = .allEntries) (declared : checker.groups ≠ [])
    (evaluated : checker.selected entries ≠ []) :
    IsCourse (checker.evaluations entries) := by
  rcases List.exists_cons_of_ne_nil declared with ⟨first, later, program⟩
  rcases evaluations_eq all program evaluated with
    walked | scanned | ⟨lead, entry, rest, split, begins, both⟩
  · rw [walked]
    exact Cursor.Logged.isCourse_walk (.start rfl rfl) (.inr evaluated)
  · rw [scanned]
    obtain ⟨before, final, split⟩ :=
      (List.eq_nil_or_concat' (checker.selected entries)).resolve_left evaluated
    rw [split, evaluations_scanEvents_concat]
    exact ⟨_, _, rfl, course_scan first before final⟩
  · rw [both, evaluations_scanEvents_concat]
    apply Cursor.Logged.isCourse_walk
    · have passed := (first.passed_evaluation_iff 0 lead.length entry).2 begins
      exact .inside (course_scan first lead entry) passed rfl rfl
    · simp

theorem isOf_of_mem_evaluations
    {evaluation : Evaluation}
    (all : checker.mode = .allEntries) (declared : checker.groups ≠ [])
    (evaluated : checker.selected entries ≠ [])
    (member : evaluation ∈ checker.evaluations entries) :
    evaluation.IsOf checker.groups (checker.selected entries) := by
  rcases List.exists_cons_of_ne_nil declared with ⟨first, later, program⟩
  rw [program]
  rcases evaluations_eq all program evaluated with
    walked | scanned | ⟨lead, entry, rest, split, begins, both⟩
  · rw [walked] at member
    exact Cursor.isOf_of_mem_walk [] member
  · rw [scanned] at member
    simpa using isOf_of_mem_scan [] member
  · rw [both, List.mem_append] at member
    rw [split, List.append_cons]
    rcases member with member | member
    · exact isOf_of_mem_scan rest member
    · exact Cursor.isOf_of_mem_walk (lead ++ [entry]) (by simpa using member)

/-- Nothing is asked if there is no entry to evaluate or no phase to compare it with. -/
theorem calls_eq_nil
    (nothing : checker.selected entries = [] ∨ checker.groups = []) :
    CheckEvent.calls (checker.run entries).events = [] := by
  rw [run]
  cases selection : checker.selected entries with
  | nil => rfl
  | cons entry rest =>
      obtain undeclared : checker.groups = [] := nothing.resolve_left (by simp [selection])
      rw [undeclared]
      rfl

/--
A test of all entries evaluates along a course: from the first entry and the
first phase on it moves to the next entry or, after a rejection by a phase that
has matched before, to the next phase.  So no pair of an entry and a phase is
evaluated twice, an entry is evaluated against at most two phases, which are
neighbours, and the number of evaluations is linear.  Each evaluation asks
the members of its phase about its entry, up to and including the first that
rejects it.  Without entries or without phases no predicate is asked at all.
-/
theorem run_isCourse (checker : Checker Entry) (entries : List Entry) :
    (checker.mode = .allEntries →
      checker.groups ≠ [] →
      checker.selected entries ≠ [] →
      IsCourse (checker.evaluations entries) ∧
        ((checker.evaluations entries).map
          fun evaluation => (evaluation.entry, evaluation.group)).Nodup ∧
        (∀ entry, ∃ group,
          groupsAt (checker.evaluations entries) entry <+: [group, group + 1]) ∧
        (checker.evaluations entries).length ≤
          (checker.selected entries).length + checker.groups.length - 1 ∧
        ∀ evaluation ∈ checker.evaluations entries,
          ∃ group entry,
            checker.groups[evaluation.group]? = some group ∧
              (checker.selected entries)[evaluation.entry]? = some entry ∧
              group.Consults entry evaluation.calls ∧
              (evaluation.passed = true ↔ group.Holds entry)) ∧
    (checker.selected entries = [] ∨ checker.groups = [] →
      CheckEvent.calls (checker.run entries).events = []) := by
  refine ⟨?_, calls_eq_nil⟩
  intro all declared evaluated
  have asks :
      ∀ evaluation ∈ checker.evaluations entries,
        evaluation.IsOf checker.groups (checker.selected entries) :=
    fun evaluation => isOf_of_mem_evaluations all declared evaluated
  obtain ⟨seen, last, whole, course⟩ := isCourse_evaluations all declared evaluated
  refine ⟨⟨seen, last, whole, course⟩, ?_, ?_, ?_, ?_⟩
  · rw [whole]
    exact course.nodup
  · rw [whole]
    exact course.exists_groupsAt_prefix
  · rcases asks last (by simp [whole]) with ⟨group, entry, atGroup, atEntry, _⟩
    have groupBound := (List.getElem?_eq_some_iff.1 atGroup).1
    have entryBound := (List.getElem?_eq_some_iff.1 atEntry).1
    have length := course.length_eq
    rw [whole, List.length_append, List.length_singleton]
    omega
  · intro evaluation member
    rcases asks evaluation member with ⟨group, entry, atGroup, atEntry, calls⟩
    have consults : group.Consults entry evaluation.calls :=
      calls ▸ group.consults_calls entry
    exact ⟨group, entry, atGroup, atEntry, consults, consults.all_passed_iff⟩

end Checker

end Logs

namespace Checker

theorem opening_skipping_course :
    opening.skippingUntilFirst.mode = .allEntries ∧
      opening.skippingUntilFirst.groups ≠ [] ∧
      opening.skippingUntilFirst.selected flickering ≠ [] ∧
      (opening.skippingUntilFirst.evaluations flickering).map
          (fun evaluation => (evaluation.entry, evaluation.group)) =
        [(0, 0), (1, 0), (2, 0), (2, 1), (3, 1)] ∧
      IsCourse (opening.skippingUntilFirst.evaluations flickering) ∧
      (opening.skippingUntilFirst.evaluations flickering).length ≤ 4 + 2 - 1 ∧
      (empty : Checker WindowManagerEntry).groups = [] ∧
      CheckEvent.calls ((empty : Checker WindowManagerEntry).run flickering).events = [] :=
  have course :=
    (run_isCourse opening.skippingUntilFirst flickering).1 rfl (by decide) (by decide)
  ⟨rfl, by decide, by decide, by decide, course.1, course.2.2.2.1, rfl,
    (run_isCourse empty flickering).2 (.inr rfl)⟩

end Checker

end PhaseAssertions
