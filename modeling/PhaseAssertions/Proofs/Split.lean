import Mathlib.Logic.Function.Basic
import PhaseAssertions.Proofs.Evaluation

/-!
# Splits of a trace

A program of phases asks for the entries to be cut into runs, one for each
phase.  `ValidSplit` is this reading with no preference among the ways to cut:
the cut points increase, they leave no gap, and every entry of a run satisfies
its phase.  `GreedySplit` adds what a single pass from left to right does: a
phase is only left at an entry that it rejects.

Entries traverse a program exactly when they have a greedy split, and a greedy
split is unique.  So the test of all entries finds no failure exactly when
there is a greedy split; and a valid split that is not greedy shows an entry
that satisfies two neighbouring phases.
-/

namespace PhaseAssertions

universe u

variable {Entry : Type u}

/--
Cut points of `entries`: the phase at position `index` has the entries from
`cut index` up to, but without, `cut (index + 1)`, and holds of all of them.
-/
structure ValidSplit
    (groups : List (PhaseGroup Entry)) (entries : List Entry)
    (cut : Nat → Nat) : Prop where
  start : cut 0 = 0
  finish : cut groups.length = entries.length
  increasing : ∀ index < groups.length, cut index < cut (index + 1)
  satisfied :
    ∀ (index position : Nat) (group : PhaseGroup Entry) (entry : Entry),
      groups[index]? = some group → entries[position]? = some entry →
        cut index ≤ position → position < cut (index + 1) → group.Holds entry

/-- Cut points at which the phase that ends rejects the next entry. -/
structure GreedySplit
    (groups : List (PhaseGroup Entry)) (entries : List Entry)
    (cut : Nat → Nat) : Prop extends ValidSplit groups entries cut where
  handedOver :
    ∀ (index : Nat) (group : PhaseGroup Entry) (entry : Entry),
      index + 1 < groups.length → groups[index]? = some group →
        entries[cut (index + 1)]? = some entry → ¬ group.Holds entry

variable {groups : List (PhaseGroup Entry)} {entries : List Entry}
variable {cut other : Nat → Nat}

/-! ## Cut points -/

theorem ValidSplit.le_of_le
    (split : ValidSplit groups entries cut) {low high : Nat}
    (ordered : low ≤ high) (bounded : high ≤ groups.length) :
    cut low ≤ cut high := by
  induction ordered with
  | refl => exact Nat.le_refl _
  | @step high ordered induction =>
      have below := induction (Nat.le_of_succ_le bounded)
      have step := split.increasing high bounded
      rw [Nat.succ_eq_add_one]
      omega

theorem ValidSplit.le_length
    (split : ValidSplit groups entries cut) {index : Nat}
    (bounded : index ≤ groups.length) :
    cut index ≤ entries.length := by
  rw [← split.finish]
  exact split.le_of_le bounded (Nat.le_refl _)

theorem ValidSplit.lt_length
    (split : ValidSplit groups entries cut) {index : Nat}
    (bounded : index < groups.length) :
    cut index < entries.length := by
  calc
    cut index < cut (index + 1) := split.increasing index bounded
    _ ≤ entries.length := split.le_length bounded

theorem ValidSplit.finish_concat
    {passed : List (PhaseGroup Entry)} {current : PhaseGroup Entry}
    (split : ValidSplit (passed ++ [current]) entries cut) :
    cut (passed.length + 1) = entries.length := by
  simpa using split.finish

/--
A greedy split leaves no phase earlier than a valid split that enters the phase
at the same entry.
-/
theorem GreedySplit.next_le
    (split : GreedySplit groups entries cut)
    (valid : ValidSplit groups entries other) {index : Nat}
    (bounded : index < groups.length)
    (agree : cut index = other index) :
    other (index + 1) ≤ cut (index + 1) := by
  by_contra earlier
  rw [Nat.not_le] at earlier
  have inside : cut (index + 1) < entries.length :=
    Nat.lt_of_lt_of_le earlier (valid.le_length bounded)
  have unfinished : index + 1 < groups.length := by
    rcases Nat.lt_or_ge (index + 1) groups.length with more | final
    · exact more
    · have total := split.finish
      rw [Nat.le_antisymm final bounded] at total
      omega
  -- The entry at the earlier cut still belongs to the run of the other split.
  have rejected :=
    split.handedOver index groups[index] entries[cut (index + 1)] unfinished
      (List.getElem?_eq_getElem bounded) (List.getElem?_eq_getElem inside)
  have step := split.increasing index bounded
  exact
    rejected
      (valid.satisfied index (cut (index + 1)) _ _
        (List.getElem?_eq_getElem bounded) (List.getElem?_eq_getElem inside)
        (by omega) earlier)

/-- The cut points of a greedy split are determined by the entries. -/
theorem GreedySplit.cut_eq
    (split : GreedySplit groups entries cut)
    (greedy : GreedySplit groups entries other) :
    ∀ index ≤ groups.length, cut index = other index := by
  intro index bounded
  induction index with
  | zero => rw [split.start, greedy.start]
  | succ index induction =>
      have agree := induction (Nat.le_of_succ_le bounded)
      exact
        Nat.le_antisymm
          (greedy.next_le split.toValidSplit bounded agree.symm)
          (split.next_le greedy.toValidSplit bounded agree)

/-! ## Splits of traversed entries -/

theorem getElem?_concat_eq_some
    {Value : Type u} {values : List Value} {last value : Value} {index : Nat}
    (found : (values ++ [last])[index]? = some value) :
    values[index]? = some value ∨ index = values.length ∧ last = value := by
  rcases Nat.lt_trichotomy index values.length with inner | rfl | beyond
  · rw [List.getElem?_append_left inner] at found
    exact .inl found
  · exact .inr ⟨rfl, by simpa using found⟩
  · have length := (List.getElem?_eq_some_iff.1 found).1
    rw [List.length_append, List.length_singleton] at length
    omega

section Extension

variable {passed : List (PhaseGroup Entry)} {current next : PhaseGroup Entry}
variable {seen : List Entry} {entry : Entry}

/-- One more entry in the run of the last phase. -/
theorem ValidSplit.stay
    (split : ValidSplit (passed ++ [current]) seen cut)
    (accepted : current.Holds entry) :
    ValidSplit (passed ++ [current]) (seen ++ [entry])
      (Function.update cut (passed.length + 1) (seen.length + 1)) := by
  have earlier :
      ∀ index ≤ passed.length,
        Function.update cut (passed.length + 1) (seen.length + 1) index =
          cut index := by
    intro index bounded
    exact Function.update_of_ne (by omega) _ _
  have program : ∀ index ≤ passed.length, index < (passed ++ [current]).length := by
    intro index bounded
    simpa using Nat.lt_succ_of_le bounded
  refine ⟨?_, ?_, ?_, ?_⟩
  · rw [earlier 0 (Nat.zero_le _), split.start]
  · simp
  · intro index bounded
    rw [List.length_append, List.length_singleton] at bounded
    have inner : index ≤ passed.length := Nat.le_of_lt_succ bounded
    rw [earlier index inner]
    rcases Nat.lt_or_eq_of_le inner with more | rfl
    · rw [earlier (index + 1) more]
      exact split.increasing index (program index inner)
    · rw [Function.update_self]
      exact Nat.lt_succ_of_lt (split.lt_length (program _ inner))
  · intro index position group member atIndex atPosition low high
    have bounded : index ≤ passed.length := by
      simpa [Nat.lt_succ_iff] using (List.getElem?_eq_some_iff.1 atIndex).1
    rw [earlier index bounded] at low
    rcases Nat.lt_or_eq_of_le bounded with more | rfl
    · -- The run of an earlier phase is not touched.
      rw [earlier (index + 1) more] at high
      have inside :=
        Nat.lt_of_lt_of_le high (split.le_length (Nat.le_of_lt (program _ more)))
      rw [List.getElem?_append_left inside] at atPosition
      exact split.satisfied index position group member atIndex atPosition low high
    · rcases getElem?_concat_eq_some atPosition with before | ⟨_, rfl⟩
      · refine split.satisfied _ position group member atIndex before low ?_
        rw [split.finish_concat]
        exact (List.getElem?_eq_some_iff.1 before).1
      · rw [List.getElem?_concat_length, Option.some.injEq] at atIndex
        exact atIndex ▸ accepted

/-- One more phase, which starts with one more entry. -/
theorem ValidSplit.enter
    (split : ValidSplit (passed ++ [current]) seen cut)
    (accepted : next.Holds entry) :
    ValidSplit (passed ++ [current] ++ [next]) (seen ++ [entry])
      (Function.update cut (passed.length + 2) (seen.length + 1)) := by
  have earlier :
      ∀ index ≤ passed.length + 1,
        Function.update cut (passed.length + 2) (seen.length + 1) index =
          cut index := by
    intro index bounded
    exact Function.update_of_ne (by omega) _ _
  refine ⟨?_, ?_, ?_, ?_⟩
  · rw [earlier 0 (Nat.zero_le _), split.start]
  · simp
  · intro index bounded
    rw [List.length_append, List.length_append, List.length_singleton,
      List.length_singleton] at bounded
    have inner : index ≤ passed.length + 1 := Nat.le_of_lt_succ bounded
    rw [earlier index inner]
    rcases Nat.lt_or_eq_of_le inner with more | rfl
    · rw [earlier (index + 1) more]
      exact split.increasing index (by simpa using more)
    · rw [Function.update_self, split.finish_concat]
      exact Nat.lt_succ_self _
  · intro index position group member atIndex atPosition low high
    rcases getElem?_concat_eq_some atIndex with before | ⟨rfl, rfl⟩
    · have bounded := (List.getElem?_eq_some_iff.1 before).1
      have more : index < passed.length + 1 := by simpa using bounded
      rw [earlier index (Nat.le_of_lt more)] at low
      rw [earlier (index + 1) more] at high
      have inside := Nat.lt_of_lt_of_le high (split.le_length bounded)
      rw [List.getElem?_append_left inside] at atPosition
      exact split.satisfied index position group member before atPosition low high
    · rw [List.length_append, List.length_singleton,
        earlier _ (Nat.le_refl _), split.finish_concat] at low
      rcases getElem?_concat_eq_some atPosition with before | ⟨_, rfl⟩
      · exact absurd (List.getElem?_eq_some_iff.1 before).1 (Nat.not_lt.2 low)
      · exact accepted

theorem GreedySplit.stay
    (split : GreedySplit (passed ++ [current]) seen cut)
    (accepted : current.Holds entry) :
    GreedySplit (passed ++ [current]) (seen ++ [entry])
      (Function.update cut (passed.length + 1) (seen.length + 1)) := by
  refine ⟨split.toValidSplit.stay accepted, ?_⟩
  intro index group member more atIndex atCut
  have border : index + 1 ≠ passed.length + 1 := by
    rw [List.length_append, List.length_singleton] at more
    omega
  rw [Function.update_of_ne border,
    List.getElem?_append_left (split.lt_length more)] at atCut
  exact split.handedOver index group member more atIndex atCut

theorem GreedySplit.handOver
    (split : GreedySplit (passed ++ [current]) seen cut)
    (rejected : ¬ current.Holds entry) (accepted : next.Holds entry) :
    GreedySplit (passed ++ [current] ++ [next]) (seen ++ [entry])
      (Function.update cut (passed.length + 2) (seen.length + 1)) := by
  refine ⟨split.toValidSplit.enter accepted, ?_⟩
  intro index group member more atIndex atCut
  rw [List.length_append, List.length_singleton] at more
  have bounded := Nat.lt_of_succ_lt_succ more
  have border : index + 1 ≠ passed.length + 2 := by
    rw [List.length_append, List.length_singleton] at bounded
    omega
  rw [List.getElem?_append_left bounded] at atIndex
  rw [Function.update_of_ne border] at atCut
  rcases getElem?_concat_eq_some atIndex with before | ⟨rfl, rfl⟩
  · have last : index + 1 < (passed ++ [current]).length := by
      simpa using (List.getElem?_eq_some_iff.1 before).1
    rw [List.getElem?_append_left (split.lt_length last)] at atCut
    exact split.handedOver index group member last atIndex atCut
  · -- The last phase so far is left at the new entry.
    rw [split.finish_concat, List.getElem?_concat_length,
      Option.some.injEq] at atCut
    exact atCut ▸ rejected

end Extension

theorem Traversed.exists_greedySplit
    {passed : List (PhaseGroup Entry)} {current : PhaseGroup Entry}
    (traversed : Traversed passed current entries) :
    ∃ cut, GreedySplit (passed ++ [current]) entries cut := by
  induction traversed with
  | @enter current entry accepted =>
      refine ⟨fun index => index, ⟨⟨rfl, rfl, ?_, ?_⟩, ?_⟩⟩
      · intro index bounded
        exact Nat.lt_succ_self index
      · intro index position group member atIndex atPosition low high
        obtain ⟨rfl, rfl⟩ : index = 0 ∧ current = group := by
          simpa [List.getElem?_singleton] using atIndex
        obtain ⟨_, rfl⟩ : position = 0 ∧ entry = member := by
          simpa [List.getElem?_singleton] using atPosition
        exact accepted
      · intro index group member more atIndex atCut
        simp at more
  | stay traversed accepted induction =>
      rcases induction with ⟨cut, split⟩
      exact ⟨_, split.stay accepted⟩
  | handOver traversed rejected accepted induction =>
      rcases induction with ⟨cut, split⟩
      exact ⟨_, split.handOver rejected accepted⟩

/--
Within the run of a phase, the entries so far have traversed the phases up to
this one.
-/
theorem GreedySplit.traversed_take
    (split : GreedySplit groups entries cut) (count : Nat) :
    ∀ (index : Nat) (group : PhaseGroup Entry),
      groups[index]? = some group → cut index < count → count ≤ cut (index + 1) →
        Traversed (groups.take index) group (entries.take count) := by
  induction count with
  | zero =>
      intro index group atIndex entered
      exact absurd entered (Nat.not_lt_zero _)
  | succ count induction =>
      intro index group atIndex entered within
      rcases List.getElem?_eq_some_iff.1 atIndex with ⟨bounded, rfl⟩
      have inside : count < entries.length := by
        calc
          count < cut (index + 1) := within
          _ ≤ entries.length := split.le_length bounded
      have atCount := List.getElem?_eq_getElem inside
      have accepted :=
        split.satisfied index count _ _ atIndex atCount
          (Nat.le_of_lt_succ entered) within
      rw [← List.take_append_getElem inside]
      rcases Nat.lt_or_eq_of_le (Nat.le_of_lt_succ entered) with inner | border
      · exact .stay (induction index _ atIndex inner (by omega)) accepted
      · cases index with
        | zero =>
            obtain rfl : count = 0 := by rw [← border, split.start]
            simpa using Traversed.enter accepted
        | succ index =>
            -- The run starts here, so the phase before it was left here.
            have earlier := Nat.lt_of_succ_lt bounded
            have atPrevious := List.getElem?_eq_getElem earlier
            subst border
            have rejected :=
              split.handedOver index _ _ bounded atPrevious atCount
            have previous :=
              induction index _ atPrevious
                (split.increasing index earlier) (Nat.le_refl _)
            rw [← List.take_append_getElem earlier]
            exact .handOver previous rejected accepted

/-- Entries traverse all phases exactly when they have a greedy split. -/
theorem traverses_iff_exists_greedySplit
    (declared : groups ≠ []) :
    Traverses groups entries ↔ ∃ cut, GreedySplit groups entries cut := by
  constructor
  · rintro ⟨passed, current, rfl, traversed⟩
    exact traversed.exists_greedySplit
  · rintro ⟨cut, split⟩
    obtain ⟨passed, current, rfl⟩ :
        ∃ passed current, groups = passed ++ [current] :=
      ⟨groups.dropLast, groups.getLast declared,
        (List.dropLast_concat_getLast declared).symm⟩
    have entered : cut passed.length < entries.length :=
      split.lt_length (by simp)
    have traversed :=
      split.traversed_take entries.length passed.length current
        List.getElem?_concat_length entered (Nat.le_of_eq split.finish_concat.symm)
    rw [List.take_left, List.take_length] at traversed
    exact ⟨passed, current, rfl, traversed⟩

/-! ## Splits that are not greedy -/

/-- Whether `entry` satisfies two phases that were declared one after the other. -/
def Ambiguous (groups : List (PhaseGroup Entry)) (entry : Entry) : Prop :=
  ∃ (index : Nat) (earlier later : PhaseGroup Entry),
    groups[index]? = some earlier ∧ groups[index + 1]? = some later ∧
      earlier.Holds entry ∧ later.Holds entry

theorem ValidSplit.greedySplit
    (split : ValidSplit groups entries cut)
    (unambiguous : ∀ entry ∈ entries, ¬ Ambiguous groups entry) :
    GreedySplit groups entries cut := by
  refine ⟨split, ?_⟩
  intro index group entry more atIndex atCut accepted
  have atNext := List.getElem?_eq_getElem more
  -- The entry at the cut satisfies the phase that begins there.
  have begun :=
    split.satisfied (index + 1) (cut (index + 1)) _ entry atNext atCut
      (Nat.le_refl _) (split.increasing (index + 1) more)
  exact
    unambiguous entry (List.mem_of_getElem? atCut)
      ⟨index, group, _, atIndex, atNext, accepted, begun⟩

/-! ## Tests of all entries -/

namespace Checker

variable [Snapshot Entry] {checker : Checker Entry}

theorem test_eq_nil_iff_exists_greedySplit
    (all : checker.mode = .allEntries)
    (unskipped : checker.skipUntilFirst = false)
    (declared : checker.groups ≠ []) :
    checker.test entries = [] ↔
      ∃ cut, GreedySplit checker.groups (checker.selected entries) cut := by
  rw [test_eq_nil_iff all unskipped declared,
    traverses_iff_exists_greedySplit declared]

/--
A test of all entries finds no failure exactly when the selected entries have a
greedy split, and its cut points are unique.
-/
theorem test_eq_nil_iff_unique_greedySplit
    (all : checker.mode = .allEntries)
    (unskipped : checker.skipUntilFirst = false)
    (declared : checker.groups ≠ []) :
    (checker.test entries = [] ↔
      ∃ cut, GreedySplit checker.groups (checker.selected entries) cut) ∧
    ∀ cut other,
      GreedySplit checker.groups (checker.selected entries) cut →
        GreedySplit checker.groups (checker.selected entries) other →
          ∀ index ≤ checker.groups.length, cut index = other index := by
  refine ⟨test_eq_nil_iff_exists_greedySplit all unskipped declared, ?_⟩
  intro cut other split greedy
  exact split.cut_eq greedy

theorem opening_exists_greedySplit :
    opening.mode = .allEntries ∧ opening.skipUntilFirst = false ∧
      opening.groups ≠ [] ∧
      ∃ cut, GreedySplit opening.groups (opening.selected shownOnce) cut :=
  ⟨rfl, rfl, by simp [opening, groups, withinRange, add],
    (test_eq_nil_iff_unique_greedySplit rfl rfl
      (by simp [opening, groups, withinRange, add])).1.1 (by decide)⟩

/--
A test without failures has found a valid split.  If there is a valid split and
the test fails all the same, then some entry satisfies two neighbouring phases.
-/
theorem test_iff_exists_validSplit
    (all : checker.mode = .allEntries)
    (unskipped : checker.skipUntilFirst = false)
    (declared : checker.groups ≠ []) :
    (checker.test entries = [] →
      ∃ cut, ValidSplit checker.groups (checker.selected entries) cut) ∧
    ((∃ cut, ValidSplit checker.groups (checker.selected entries) cut) →
      checker.test entries ≠ [] →
        ∃ entry ∈ checker.selected entries, Ambiguous checker.groups entry) ∧
    ((∀ entry ∈ checker.selected entries, ¬ Ambiguous checker.groups entry) →
      (checker.test entries = [] ↔
        ∃ cut, ValidSplit checker.groups (checker.selected entries) cut)) := by
  have succeeds :
      checker.test entries = [] ↔
        ∃ cut, GreedySplit checker.groups (checker.selected entries) cut :=
    test_eq_nil_iff_exists_greedySplit all unskipped declared
  have sound :
      checker.test entries = [] →
        ∃ cut, ValidSplit checker.groups (checker.selected entries) cut := by
    intro passes
    rcases succeeds.1 passes with ⟨cut, split⟩
    exact ⟨cut, split.toValidSplit⟩
  refine ⟨sound, ?_, ?_⟩
  · rintro ⟨cut, split⟩ fails
    by_contra unambiguous
    refine fails (succeeds.2 ⟨cut, split.greedySplit ?_⟩)
    intro entry member ambiguous
    exact unambiguous ⟨entry, member, ambiguous⟩
  · intro unambiguous
    refine ⟨sound, ?_⟩
    rintro ⟨cut, split⟩
    exact succeeds.2 ⟨cut, split.greedySplit unambiguous⟩

/-- Two phases that ask for the same. -/
def repeating : Checker WindowManagerEntry :=
  (empty.add (WindowAssertion.predicate ⟨.layer .app, true⟩ "W")).add
    (WindowAssertion.predicate ⟨.layer .app, true⟩ "W")

theorem repeating_ambiguous :
    repeating.mode = .allEntries ∧ repeating.skipUntilFirst = false ∧
      repeating.groups ≠ [] ∧
      repeating.test [singleWindow 0 true, singleWindow 1 true] ≠ [] ∧
      ∃ entry ∈ repeating.selected [singleWindow 0 true, singleWindow 1 true],
        Ambiguous repeating.groups entry := by
  have declared : repeating.groups ≠ [] := by simp [repeating, groups, add]
  have fails : repeating.test [singleWindow 0 true, singleWindow 1 true] ≠ [] := by
    decide
  have accepted :
      ∀ group ∈ repeating.groups,
        ∀ entry ∈ [singleWindow 0 true, singleWindow 1 true],
          group.Holds entry := by
    decide
  have split :
      ValidSplit repeating.groups
        (repeating.selected [singleWindow 0 true, singleWindow 1 true])
        (fun index => index) := by
    refine ⟨rfl, rfl, ?_, ?_⟩
    · intro index bounded
      exact Nat.lt_succ_self index
    · intro index position group entry atIndex atPosition _ _
      exact
        accepted group (List.mem_of_getElem? atIndex) entry
          (List.mem_of_getElem? atPosition)
  exact
    ⟨rfl, rfl, declared, fails,
      (test_iff_exists_validSplit rfl rfl declared).2.1 ⟨_, split⟩ fails⟩

end Checker

end PhaseAssertions
