import Mathlib.Data.List.Forall2
import PhaseAssertions.Proofs.Location

/-!
# Tests in lockstep

A test uses nothing of a group but whether it passes on an entry.  So two tests
run in lockstep when their groups, taken in order, pass on their entries, taken
in order, alike: the walks are always at the same phase, and where one of them
ends in a failure the other one does.  The failures are of the same kind, were
seen at the same place, and blame groups at the same position.

What the groups are made of shows in the texts of failures only.  Members can be
put into another order, stand there twice or go by other names and reasons.
-/

namespace PhaseAssertions

universe u v

variable {Entry : Type u} {Other : Type v}

/-! ## Lists related item by item -/

theorem forall_mem_of_forall₂
    {Item : Type u} {Image : Type v} {Related : Item → Image → Prop}
    {Holds : Item → Prop} {HoldsToo : Image → Prop}
    {items : List Item} {images : List Image}
    (related : List.Forall₂ Related items images)
    (carried :
      ∀ item image, Related item image → Holds item → HoldsToo image)
    (holds : ∀ item ∈ items, Holds item) :
    ∀ image ∈ images, HoldsToo image := by
  induction related with
  | nil => exact fun _ member => absurd member List.not_mem_nil
  | @cons item image items images head _ induction =>
      rw [List.forall_mem_cons] at holds ⊢
      exact ⟨carried item image head holds.1, induction holds.2⟩

theorem exists_split_of_forall₂
    {Item : Type u} {Image : Type v} {Related : Item → Image → Prop}
    {lead rest : List Item} {item : Item} {images : List Image}
    (related : List.Forall₂ Related (lead ++ item :: rest) images) :
    ∃ leadImages image restImages,
      images = leadImages ++ image :: restImages ∧
        leadImages.length = lead.length ∧
        List.Forall₂ Related lead leadImages ∧
        List.Forall₂ Related (item :: rest) (image :: restImages) := by
  induction lead generalizing images with
  | nil =>
      cases related with
      | cons head remaining =>
          exact ⟨[], _, _, rfl, rfl, .nil, .cons head remaining⟩
  | cons first lead induction =>
      cases related with
      | cons head remaining =>
          rcases induction remaining with
            ⟨leadImages, image, restImages, rfl, length, before, behind⟩
          exact
            ⟨_ :: leadImages, image, restImages, rfl, by simp [length],
              .cons head before, behind⟩

/-! ## Programs and entries that are alike -/

/-- Whether the groups stand at the same position of their programs. -/
def Twins (groups : List (PhaseGroup Entry)) (others : List (PhaseGroup Other))
    (group : PhaseGroup Entry) (twin : PhaseGroup Other) : Prop :=
  ∃ position : Nat,
    groups[position]? = some group ∧ others[position]? = some twin

theorem forall₂_twins
    {groups : List (PhaseGroup Entry)} {others : List (PhaseGroup Other)}
    (sameLength : groups.length = others.length) :
    List.Forall₂ (Twins groups others) groups others := by
  rw [List.forall₂_iff_get]
  refine ⟨sameLength, fun position within otherWithin => ⟨position, ?_, ?_⟩⟩
  · exact List.getElem?_eq_getElem within
  · exact List.getElem?_eq_getElem otherWithin

/-- Which of the groups pass on an entry. -/
def verdictsOn (groups : List (PhaseGroup Entry)) (entry : Entry) : List Bool :=
  groups.map fun group => (group.evaluate entry).passed

variable [Snapshot Entry] [Snapshot Other]

/-- Entries of the same time on which the groups of two programs pass alike. -/
structure Alike
    (groups : List (PhaseGroup Entry)) (others : List (PhaseGroup Other))
    (entry : Entry) (other : Other) : Prop where
  timestamp : Snapshot.timestamp entry = Snapshot.timestamp other
  verdicts : verdictsOn groups entry = verdictsOn others other

/-- The failures are of the same kind and were seen at the same place. -/
structure Failure.Matches (failure other : Failure) : Prop where
  kind : failure.kind = other.kind
  location : failure.location = other.location

/-- Failures that match and blame groups at the same position. -/
structure Failure.BlamesTwin
    (groups : List (PhaseGroup Entry)) (others : List (PhaseGroup Other))
    (failure other : Failure) : Prop extends failure.Matches other where
  named :
    ∃ group twin,
      Twins groups others group twin ∧
        failure.phase = group.name ∧ other.phase = twin.name

section Programs

variable {groups : List (PhaseGroup Entry)} {others : List (PhaseGroup Other)}
variable {group : PhaseGroup Entry} {twin : PhaseGroup Other}
variable {entry : Entry} {other : Other}

theorem Alike.holds_iff
    (alike : Alike groups others entry other)
    (twins : Twins groups others group twin) :
    group.Holds entry ↔ twin.Holds other := by
  rcases twins with ⟨position, found, otherFound⟩
  have atPosition :
      (verdictsOn groups entry)[position]? =
        (verdictsOn others other)[position]? := by
    rw [alike.verdicts]
  rw [verdictsOn, verdictsOn, List.getElem?_map, List.getElem?_map, found,
    otherFound] at atPosition
  have passes : (group.evaluate entry).passed = (twin.evaluate other).passed :=
    Option.some.inj atPosition
  rw [← PhaseGroup.passed_evaluate_iff, ← PhaseGroup.passed_evaluate_iff,
    passes]

omit [Snapshot Entry] [Snapshot Other] in
theorem Failure.BlamesTwin.moved
    {failure other : Failure}
    (blames : failure.BlamesTwin groups others other) (count : Nat) :
    (failure.moved count).BlamesTwin groups others (other.moved count) where
  kind := blames.kind
  location := congrArg (FailureLocation.moved count) blames.location
  named := blames.named

theorem Cursor.rejection_blamesTwin
    (twins : Twins groups others group twin)
    (alike : Alike groups others entry other) (index : Nat) :
    (rejection group index entry).BlamesTwin groups others
      (rejection twin index other) where
  kind := rfl
  location := congrArg (FailureLocation.entry index) alike.timestamp
  named := ⟨group, twin, twins, rfl, rfl⟩

/-! ## Walks -/

/-- Cursors at the same position of two programs. -/
structure Cursor.Lockstep
    (groups : List (PhaseGroup Entry)) (others : List (PhaseGroup Other))
    (cursor : Cursor Entry) (twin : Cursor Other) : Prop where
  current : Twins groups others cursor.current twin.current
  later : List.Forall₂ (Twins groups others) cursor.later twin.later
  matched : cursor.matched = twin.matched

/-- What two walks come to when they run in lockstep. -/
inductive InStep
    (groups : List (PhaseGroup Entry)) (others : List (PhaseGroup Other)) :
    Except Failure (Cursor Entry) → Except Failure (Cursor Other) → Prop where
  | ok {cursor : Cursor Entry} {twin : Cursor Other}
      (lockstep : cursor.Lockstep groups others twin) :
      InStep groups others (.ok cursor) (.ok twin)
  | error {failure other : Failure}
      (blames : failure.BlamesTwin groups others other) :
      InStep groups others (.error failure) (.error other)

namespace Cursor

variable {cursor : Cursor Entry} {twin : Cursor Other}

/-- Cursors in lockstep make the same transition on entries that are alike. -/
theorem Lockstep.advance
    (lockstep : cursor.Lockstep groups others twin)
    (alike : Alike groups others entry other) (index : Nat) :
    InStep groups others (cursor.advance index entry).outcome
      (twin.advance index other).outcome := by
  have transition := cursor.transition_advance index entry
  rcases twin with ⟨otherPassed, otherCurrent, otherLater, otherMatched⟩
  generalize (cursor.advance index entry).outcome = outcome at transition ⊢
  rcases lockstep with ⟨current, later, matched⟩
  -- The verdicts on the current and the next group decide, and twins give the same.
  have currentIff := alike.holds_iff current
  cases transition with
  | stay cursor accepted =>
      rw [transition_iff.1 (.stay _ (currentIff.1 accepted))]
      exact .ok ⟨current, later, rfl⟩
  | handOver rejected accepted =>
      cases later with
      | cons next remaining =>
          obtain rfl : true = otherMatched := matched
          rw [transition_iff.1
            (.handOver (mt currentIff.2 rejected)
              ((alike.holds_iff next).1 accepted))]
          exact .ok ⟨next, remaining, rfl⟩
  | refuse rejected refused =>
      cases later with
      | cons next remaining =>
          obtain rfl : true = otherMatched := matched
          rw [transition_iff.1
            (.refuse (mt currentIff.2 rejected)
              (mt (alike.holds_iff next).2 refused))]
          exact .error (rejection_blamesTwin next alike index)
  | block cursor rejected stuck =>
      have otherStuck : otherMatched = false ∨ otherLater = [] := by
        refine stuck.imp matched.symm.trans fun final => ?_
        rw [final] at later
        exact List.forall₂_nil_left_iff.1 later
      rw [transition_iff.1
        (.block ⟨otherPassed, otherCurrent, otherLater, otherMatched⟩
          (mt currentIff.2 rejected) otherStuck)]
      exact .error (rejection_blamesTwin current alike index)

/-- Cursors in lockstep stay in lockstep along entries that are alike. -/
theorem Lockstep.walk
    {entries : List Entry} {otherEntries : List Other}
    (lockstep : cursor.Lockstep groups others twin)
    (alike : List.Forall₂ (Alike groups others) entries otherEntries)
    (index : Nat) :
    InStep groups others (cursor.walk index entries).outcome
      (twin.walk index otherEntries).outcome := by
  induction alike generalizing cursor twin index with
  | nil => exact .ok lockstep
  | cons head _ induction =>
      have step := lockstep.advance head index
      rw [outcome_walk_cons, outcome_walk_cons]
      generalize (cursor.advance index _).outcome = outcome at step ⊢
      generalize (twin.advance index _).outcome = otherOutcome at step ⊢
      cases step with
      | error blames => exact .error blames
      | ok next => exact induction next (index + 1)

omit [Snapshot Entry] [Snapshot Other] in
theorem Lockstep.unreached
    (lockstep : cursor.Lockstep groups others twin) (start finish : Int64) :
    List.Forall₂ (Failure.BlamesTwin groups others)
      (cursor.unreached start finish) (twin.unreached start finish) := by
  rw [Cursor.unreached, Cursor.unreached, List.forall₂_map_left_iff,
    List.forall₂_map_right_iff]
  refine lockstep.later.imp fun group twin twins => ?_
  exact ⟨⟨rfl, rfl⟩, group, twin, twins, rfl, rfl⟩

end Cursor

omit [Snapshot Entry] [Snapshot Other] in
theorem InStep.failures
    {progress : Progress Entry} {twin : Progress Other}
    (inStep : InStep groups others progress.outcome twin.outcome)
    (start finish : Int64) :
    List.Forall₂ (Failure.BlamesTwin groups others)
      (progress.failures start finish) (twin.failures start finish) := by
  rw [Progress.failures, Progress.failures]
  generalize progress.outcome = outcome at inStep ⊢
  generalize twin.outcome = otherOutcome at inStep ⊢
  cases inStep with
  | error blames => exact .cons blames .nil
  | ok lockstep => exact lockstep.unreached start finish

namespace Checker

variable {first : PhaseGroup Entry} {later : List (PhaseGroup Entry)}
variable {otherFirst : PhaseGroup Other} {otherLater : List (PhaseGroup Other)}
variable {rest : List Entry} {otherRest : List Other}

theorem lastTimestamp_of_alike
    (alike :
      List.Forall₂ (Alike groups others) (entry :: rest) (other :: otherRest)) :
    lastTimestamp entry rest = lastTimestamp other otherRest := by
  rcases List.forall₂_cons.1 alike with ⟨head, remaining⟩
  clear alike
  rw [lastTimestamp, lastTimestamp]
  induction remaining generalizing entry other with
  | nil => exact head.timestamp
  | cons next _ induction =>
      rw [List.getLast?_cons, List.getLast?_cons]
      exact induction next

theorem walkAll_of_alike
    (twins :
      List.Forall₂ (Twins groups others) (first :: later)
        (otherFirst :: otherLater))
    (alike :
      List.Forall₂ (Alike groups others) (entry :: rest) (other :: otherRest)) :
    List.Forall₂ (Failure.BlamesTwin groups others)
      (walkAll first later entry rest).failures
      (walkAll otherFirst otherLater other otherRest).failures := by
  rcases List.forall₂_cons.1 twins with ⟨current, remaining⟩
  have lockstep :
      (Cursor.start first later).Lockstep groups others
        (Cursor.start otherFirst otherLater) :=
    ⟨current, remaining, rfl⟩
  have sameStart := (List.forall₂_cons.1 alike).1.timestamp
  rw [failures_walkAll, failures_walkAll, sameStart,
    lastTimestamp_of_alike alike]
  exact (lockstep.walk alike 0).failures _ _

theorem walkFromFirst_of_alike
    (twins :
      List.Forall₂ (Twins groups others) (first :: later)
        (otherFirst :: otherLater))
    (alike :
      List.Forall₂ (Alike groups others) (entry :: rest) (other :: otherRest)) :
    List.Forall₂ (Failure.BlamesTwin groups others)
      (walkFromFirst first later entry rest).failures
      (walkFromFirst otherFirst otherLater other otherRest).failures := by
  have firstTwins := (List.forall₂_cons.1 twins).1
  have stillRejected :
      ∀ entry other, Alike groups others entry other →
        ¬ first.Holds entry → ¬ otherFirst.Holds other :=
    fun _ _ alike => mt (alike.holds_iff firstTwins).2
  rcases unmatched_or_exists_lead first (entry :: rest) with
    unmatched | ⟨lead, begin, behind, split, begins, skipped⟩
  · have sameStart := (List.forall₂_cons.1 alike).1.timestamp
    rw [walkFromFirst_of_unmatched unmatched,
      walkFromFirst_of_unmatched
        (forall_mem_of_forall₂ alike stillRejected unmatched),
      sameStart, lastTimestamp_of_alike alike]
    exact .cons ⟨⟨rfl, rfl⟩, first, otherFirst, firstTwins, rfl, rfl⟩ .nil
  · rw [split] at alike
    rcases exists_split_of_forall₂ alike with
      ⟨otherLead, otherBegin, otherBehind, otherSplit, length, before,
        remaining⟩
    have otherBegins : otherFirst.Holds otherBegin :=
      ((List.forall₂_cons.1 remaining).1.holds_iff firstTwins).1 begins
    rw [walkFromFirst_of_match split begins skipped,
      walkFromFirst_of_match otherSplit otherBegins
        (forall_mem_of_forall₂ before stillRejected skipped),
      length, List.forall₂_map_left_iff, List.forall₂_map_right_iff]
    exact
      (walkAll_of_alike twins remaining).imp
        fun _ _ blames => blames.moved lead.length

/-! ## Boundaries -/

omit [Snapshot Entry] in
theorem firstRejection?_eq_none_iff :
    firstRejection? groups entry = none ↔
      ∀ group ∈ groups, group.Holds entry := by
  simp only [firstRejection?, List.findSome?_eq_none_iff,
    PhaseGroup.firstFailure?_eq_none_iff]

/--
At a boundary some group rejects in both tests or in none.  Which of its members
is blamed is not the same in both.
-/
theorem checkBoundary_of_alike
    (sameLength : groups.length = others.length)
    (alike : Alike groups others entry other) (position index : Nat) :
    List.Forall₂ Failure.Matches
      (checkBoundary position index entry groups).failures
      (checkBoundary position index other others).failures := by
  -- The members that reject have nothing in common; only whether there is one has.
  have rejects :
      firstRejection? groups entry = none ↔
        firstRejection? others other = none := by
    have twins := forall₂_twins sameLength
    rw [firstRejection?_eq_none_iff, firstRejection?_eq_none_iff]
    constructor
    · exact forall_mem_of_forall₂ twins fun _ _ twins => (alike.holds_iff twins).1
    · exact forall_mem_of_forall₂ twins.flip fun _ _ twins => (alike.holds_iff twins).2
  rw [failures_checkBoundary, failures_checkBoundary]
  cases rejected : firstRejection? groups entry with
  | none =>
      rw [rejects.1 rejected]
      exact .nil
  | some rejection =>
      have otherRejects : firstRejection? others other ≠ none := by
        rw [Ne, ← rejects, rejected]
        exact Option.some_ne_none rejection
      rcases Option.ne_none_iff_exists'.1 otherRejects with
        ⟨otherRejection, otherRejected⟩
      rw [otherRejected]
      refine .cons ⟨rfl, ?_⟩ .nil
      exact congrArg (FailureLocation.entry index) alike.timestamp

end Checker

end Programs

/-! ## Tests -/

namespace Checker

/--
The entries that the groups are asked about: the first or the last one at a
boundary, and otherwise all that were selected.
-/
def evaluated (checker : Checker Entry) (entries : List Entry) : List Entry :=
  match checker.mode with
  | .allEntries => checker.selected entries
  | .firstEntry => (checker.selected entries).take 1
  | .lastEntry =>
    (checker.selected entries).drop ((checker.selected entries).length - 1)

/--
Two tests with the same settings on entries of the same times, in which the
groups pass alike on the entries that they are asked about.
-/
structure SameVerdicts
    (checker : Checker Entry) (entries : List Entry)
    (other : Checker Other) (otherEntries : List Other) : Prop where
  length_groups : checker.groups.length = other.groups.length
  mode : checker.mode = other.mode
  range : checker.range = other.range
  skipUntilFirst : checker.skipUntilFirst = other.skipUntilFirst
  timestamps :
    List.Forall₂
      (fun entry twin => Snapshot.timestamp entry = Snapshot.timestamp twin)
      entries otherEntries
  /-- On each of the entries, the groups at each position pass both or reject both. -/
  verdicts :
    List.Forall₂
      (fun entry twin =>
        verdictsOn checker.groups entry = verdictsOn other.groups twin)
      (checker.evaluated entries) (other.evaluated otherEntries)

/--
Failures of two tests that match.  If all entries were looked at, they also
blame groups at the same position, unless both say that there is no entry.
-/
structure Counterparts
    (checker : Checker Entry) (other : Checker Other)
    (failure otherFailure : Failure) : Prop
    extends failure.Matches otherFailure where
  named :
    checker.mode = .allEntries →
      (failure.kind = .noEntries ∧ otherFailure.kind = .noEntries) ∨
        ∃ group twin,
          Twins checker.groups other.groups group twin ∧
            failure.phase = group.name ∧ otherFailure.phase = twin.name

omit [Snapshot Entry] in
theorem drop_last (entry : Entry) (rest : List Entry) :
    (entry :: rest).drop ((entry :: rest).length - 1) =
      [rest.getLast?.getD entry] := by
  rw [List.drop_eq_getElem?_toList_append, List.length_cons,
    Nat.add_sub_cancel, FailureLocation.PointsInto.getElem?_last,
    List.drop_succ_cons, List.drop_length]
  rfl

variable {checker : Checker Entry} {other : Checker Other}
variable {entries : List Entry} {otherEntries : List Other}

namespace SameVerdicts

theorem timestamps_selected
    (same : checker.SameVerdicts entries other otherEntries) :
    List.Forall₂
      (fun entry twin => Snapshot.timestamp entry = Snapshot.timestamp twin)
      (checker.selected entries) (other.selected otherEntries) := by
  rw [selected, selected, ← same.range]
  cases checker.range with
  | none => exact same.timestamps
  | some range =>
      apply List.rel_filter _ same.timestamps
      intro entry twin sameTime
      change
        range.contains (Snapshot.timestamp entry) = true ↔
          range.contains (Snapshot.timestamp twin) = true
      rw [sameTime]

theorem timestamps_evaluated
    (same : checker.SameVerdicts entries other otherEntries) :
    List.Forall₂
      (fun entry twin => Snapshot.timestamp entry = Snapshot.timestamp twin)
      (checker.evaluated entries) (other.evaluated otherEntries) := by
  have selection := same.timestamps_selected
  rw [evaluated, evaluated, ← same.mode]
  cases checker.mode with
  | allEntries => exact selection
  | firstEntry => exact List.forall₂_take 1 selection
  | lastEntry =>
      rw [← selection.length_eq]
      exact List.forall₂_drop _ selection

theorem alike
    (same : checker.SameVerdicts entries other otherEntries) :
    List.Forall₂ (Alike checker.groups other.groups)
      (checker.evaluated entries) (other.evaluated otherEntries) :=
  List.Forall₂.mp (fun _ _ sameTime verdicts => ⟨sameTime, verdicts⟩)
    same.timestamps_evaluated same.verdicts

variable {first : PhaseGroup Entry} {later : List (PhaseGroup Entry)}
variable {otherFirst : PhaseGroup Other} {otherLater : List (PhaseGroup Other)}
variable {entry : Entry} {rest : List Entry}
variable {twin : Other} {otherRest : List Other}

theorem evaluate_all
    (same : checker.SameVerdicts entries other otherEntries)
    (all : checker.mode = .allEntries)
    (declared : checker.groups = first :: later)
    (otherDeclared : other.groups = otherFirst :: otherLater)
    (selection : checker.selected entries = entry :: rest)
    (otherSelection : other.selected otherEntries = twin :: otherRest) :
    List.Forall₂ (Failure.BlamesTwin checker.groups other.groups)
      (checker.evaluate first later entry rest).failures
      (other.evaluate otherFirst otherLater twin otherRest).failures := by
  have otherAll : other.mode = .allEntries := same.mode.symm.trans all
  have twins :
      List.Forall₂ (Twins checker.groups other.groups) (first :: later)
        (otherFirst :: otherLater) := by
    rw [← declared, ← otherDeclared]
    exact forall₂_twins same.length_groups
  have alike := same.alike
  simp only [evaluated, all, otherAll, selection, otherSelection] at alike
  simp only [evaluate, all, otherAll, ← same.skipUntilFirst]
  cases checker.skipUntilFirst with
  | false => exact walkAll_of_alike twins alike
  | true => exact walkFromFirst_of_alike twins alike

theorem evaluate_boundary
    (same : checker.SameVerdicts entries other otherEntries)
    (boundary : checker.mode ≠ .allEntries)
    (declared : checker.groups = first :: later)
    (otherDeclared : other.groups = otherFirst :: otherLater)
    (selection : checker.selected entries = entry :: rest)
    (otherSelection : other.selected otherEntries = twin :: otherRest) :
    List.Forall₂ Failure.Matches
      (checker.evaluate first later entry rest).failures
      (other.evaluate otherFirst otherLater twin otherRest).failures := by
  have alike := same.alike
  have length := same.timestamps_selected.length_eq
  rw [evaluated, evaluated, ← same.mode, selection, otherSelection] at alike
  rw [selection, otherSelection, List.length_cons, List.length_cons,
    Nat.add_right_cancel_iff] at length
  rw [evaluate, evaluate, ← same.mode, ← declared, ← otherDeclared]
  cases mode : checker.mode with
  | allEntries => exact absurd mode boundary
  | firstEntry =>
      rw [mode] at alike
      cases alike with
      | cons head _ => exact checkBoundary_of_alike same.length_groups head 0 0
  | lastEntry =>
      rw [mode] at alike
      simp only [drop_last] at alike
      cases alike with
      | cons final _ =>
          rw [← length]
          exact checkBoundary_of_alike same.length_groups final 0 rest.length

theorem forall₂_counterparts
    (same : checker.SameVerdicts entries other otherEntries) :
    List.Forall₂ (checker.Counterparts other) (checker.test entries)
      (other.test otherEntries) := by
  have length := same.timestamps_selected.length_eq
  cases selection : checker.selected entries with
  | nil =>
      rw [selection, List.length_nil, eq_comm, List.length_eq_zero_iff] at length
      rw [test_of_nothing_selected selection, test_of_nothing_selected length]
      exact .cons ⟨⟨rfl, rfl⟩, fun _ => .inl ⟨rfl, rfl⟩⟩ .nil
  | cons entry rest =>
      rw [selection, List.length_cons] at length
      obtain ⟨twin, otherRest, otherSelection⟩ :=
        List.exists_cons_of_length_eq_add_one length.symm
      have lengthGroups := same.length_groups
      cases declared : checker.groups with
      | nil =>
          rw [declared, List.length_nil, eq_comm, List.length_eq_zero_iff]
            at lengthGroups
          rw [test_of_undeclared declared selection,
            test_of_undeclared lengthGroups otherSelection]
          exact .nil
      | cons first later =>
          rw [declared, List.length_cons] at lengthGroups
          obtain ⟨otherFirst, otherLater, otherDeclared⟩ :=
            List.exists_cons_of_length_eq_add_one lengthGroups.symm
          rw [test_eq_evaluate declared selection,
            test_eq_evaluate otherDeclared otherSelection]
          by_cases all : checker.mode = .allEntries
          · refine
              (same.evaluate_all all declared otherDeclared selection
                otherSelection).imp ?_
            intro failure otherFailure blames
            exact ⟨blames.toMatches, fun _ => .inr blames.named⟩
          · refine
              (same.evaluate_boundary all declared otherDeclared selection
                otherSelection).imp ?_
            intro failure otherFailure agree
            exact ⟨agree, fun looksAtAll => absurd looksAtAll all⟩

end SameVerdicts

end Checker

/-! ## Rearranged members -/

namespace PhaseGroup

/-- What can be done to the members of a group without changing its verdicts. -/
inductive Rearranged :
    List (Predicate Entry) → List (Predicate Entry) → Prop where
  | permute {members others : List (Predicate Entry)}
      (permuted : members.Perm others) :
      Rearranged members others
  | duplicate {members : List (Predicate Entry)} {member : Predicate Entry}
      (present : member ∈ members) :
      Rearranged members (member :: members)
  /-- Members get other names, and give other reasons for their verdicts. -/
  | reword {members others : List (Predicate Entry)}
      (reworded :
        List.Forall₂
          (fun member other => ∀ entry,
            (member.evaluate entry).passed = (other.evaluate entry).passed)
          members others) :
      Rearranged members others
  | trans {members others final : List (Predicate Entry)}
      (before : Rearranged members others) (behind : Rearranged others final) :
      Rearranged members final

omit [Snapshot Entry] in
theorem Rearranged.forall_iff
    {members others : List (Predicate Entry)}
    (rearranged : Rearranged members others) (entry : Entry) :
    (∀ member ∈ members, (member.evaluate entry).passed = true) ↔
      ∀ other ∈ others, (other.evaluate entry).passed = true := by
  induction rearranged with
  | permute permuted => simp only [permuted.mem_iff]
  | duplicate present =>
      rw [List.forall_mem_cons]
      exact ⟨fun accepted => ⟨accepted _ present, accepted⟩, And.right⟩
  | reword reworded =>
      constructor
      · exact forall_mem_of_forall₂ reworded
          fun _ _ same accepted => (same entry).symm.trans accepted
      · exact forall_mem_of_forall₂ reworded.flip
          fun _ _ same accepted => (same entry).trans accepted
  | trans _ _ before behind => exact before.trans behind

end PhaseGroup

namespace Checker

/-- A checker with the same settings, the members of whose groups were rearranged. -/
structure Rearranges (checker rearranged : Checker Entry) : Prop where
  mode : checker.mode = rearranged.mode
  range : checker.range = rearranged.range
  skipUntilFirst : checker.skipUntilFirst = rearranged.skipUntilFirst
  groups :
    List.Forall₂
      (fun group other => PhaseGroup.Rearranged group.members other.members)
      checker.groups rearranged.groups

namespace Rearranges

variable {checker rearranged : Checker Entry}

omit [Snapshot Entry] in
theorem verdictsOn_eq
    (rearranges : checker.Rearranges rearranged) (entry : Entry) :
    verdictsOn checker.groups entry = verdictsOn rearranged.groups entry := by
  rw [verdictsOn, verdictsOn, ← List.forall₂_eq_eq_eq,
    List.forall₂_map_left_iff, List.forall₂_map_right_iff]
  refine rearranges.groups.imp fun group other members => ?_
  rw [Bool.eq_iff_iff, PhaseGroup.passed_evaluate_iff,
    PhaseGroup.passed_evaluate_iff]
  exact members.forall_iff entry

theorem sameVerdicts
    (rearranges : checker.Rearranges rearranged) (entries : List Entry) :
    checker.SameVerdicts entries rearranged entries where
  length_groups := rearranges.groups.length_eq
  mode := rearranges.mode
  range := rearranges.range
  skipUntilFirst := rearranges.skipUntilFirst
  timestamps := List.forall₂_same.2 fun _ _ => rfl
  verdicts := by
    have asked : checker.evaluated entries = rearranged.evaluated entries := by
      rw [evaluated, evaluated, selected, selected, rearranges.mode,
        rearranges.range]
    rw [asked]
    exact List.forall₂_same.2 fun entry _ => rearranges.verdictsOn_eq entry

end Rearranges

/--
What a test reports depends on the settings, the times of the entries and the
verdicts of the groups alone, but for the texts of failures.  In particular,
rearranging the members of groups changes no kind and no location.
-/
theorem test_counterparts (checker : Checker Entry) :
    (∀ (other : Checker Other) entries otherEntries,
      checker.SameVerdicts entries other otherEntries →
        List.Forall₂ (checker.Counterparts other) (checker.test entries)
          (other.test otherEntries)) ∧
    (∀ (rearranged : Checker Entry) entries,
      checker.Rearranges rearranged →
        List.Forall₂ (checker.Counterparts rearranged) (checker.test entries)
          (rearranged.test entries)) := by
  constructor
  · intro other entries otherEntries same
    exact same.forall₂_counterparts
  · intro rearranged entries rearranges
    exact (rearranges.sameVerdicts entries).forall₂_counterparts

theorem range_opening_inOrder : (1 : Int64) ≤ 4 := by
  decide

/-- The phases of `opening`, each about the opposite of what it was about. -/
def closing : Checker WindowManagerEntry :=
  ((empty.add (WindowAssertion.predicate ⟨.layer .app, true⟩ "W")).add
    (WindowAssertion.predicate ⟨.layer .app, false⟩ "W")).withinRange
      ⟨1, 4, range_opening_inOrder⟩

/-- The window is visible where it is not in `flickering`. -/
def flickeringInverted : List WindowManagerEntry :=
  [ singleWindow 0 false, singleWindow 1 false, singleWindow 2 true,
    singleWindow 3 false, singleWindow 4 true, singleWindow 5 false ]

/-- A group that asks the same question twice, under a name that tells nothing. -/
def askedTwice (assertion : WindowAssertion) : PhaseGroup WindowManagerEntry :=
  let member := { assertion.predicate "W" with name := "step" }
  { first := member, others := [member] }

/-- The phases of `opening` under names that repeat. -/
def openingRepeated : Checker WindowManagerEntry :=
  { complete := [askedTwice ⟨.layer .app, false⟩]
    opened := some (askedTwice ⟨.layer .app, true⟩)
    range := opening.range
    skipUntilFirst := true }

theorem rearranged_askedTwice (assertion : WindowAssertion) :
    PhaseGroup.Rearranged [assertion.predicate "W"]
      (askedTwice assertion).members := by
  apply PhaseGroup.Rearranged.trans (.duplicate (List.mem_singleton_self _))
  apply PhaseGroup.Rearranged.reword
  exact .cons (fun _ => rfl) (.cons (fun _ => rfl) .nil)

theorem opening_counterparts :
    opening.skippingUntilFirst.SameVerdicts flickering
        closing.skippingUntilFirst flickeringInverted ∧
      List.Forall₂
        (opening.skippingUntilFirst.Counterparts closing.skippingUntilFirst)
        (opening.skippingUntilFirst.test flickering)
        (closing.skippingUntilFirst.test flickeringInverted) ∧
      opening.skippingUntilFirst.Rearranges openingRepeated ∧
      opening.skippingUntilFirst.advisories = [] ∧
      openingRepeated.advisories = ["step and step"] ∧
      List.Forall₂
        (opening.skippingUntilFirst.Counterparts openingRepeated)
        (opening.skippingUntilFirst.test flickering)
        (openingRepeated.test flickering) := by
  have same :
      opening.skippingUntilFirst.SameVerdicts flickering
        closing.skippingUntilFirst flickeringInverted :=
    ⟨rfl, rfl, rfl, rfl, by decide, by decide⟩
  have rearranges : opening.skippingUntilFirst.Rearranges openingRepeated :=
    ⟨rfl, rfl, rfl,
      .cons (rearranged_askedTwice _) (.cons (rearranged_askedTwice _) .nil)⟩
  exact
    ⟨same, (test_counterparts _).1 _ _ _ same, rearranges, by decide, by decide,
      (@test_counterparts _ WindowManagerEntry _ _ _).2 _ _ rearranges⟩

end Checker

end PhaseAssertions
