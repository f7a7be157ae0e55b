import PhaseAssertions.Proofs.Location
import PhaseAssertions.Trace

/-!
# Ranges as windows of a trace

A checker drops the entries outside of its range one by one.  In a trace the
timestamps never decrease, so what is left are neighbours: the entries between
two positions of the trace.  A test with a range is therefore a test without one
of a window of the trace, and the positions in its failures count from where the
window begins.

That the timestamps never decrease is checked between neighbours only; the first
section passes from there to any two entries.
-/

namespace PhaseAssertions

universe u

variable {Entry : Type u} [Snapshot Entry]

/-! ## Entries in order -/

/-- No entry is earlier than any entry before it. -/
theorem InOrder.pairwise {entries : List Entry} (inOrder : InOrder entries) :
    entries.Pairwise fun earlier later =>
      Snapshot.timestamp earlier ≤ Snapshot.timestamp later := by
  induction entries with
  | nil => exact .nil
  | cons first rest induction =>
      cases rest with
      | nil => exact List.pairwise_singleton _ _
      | cons second rest =>
          rcases inOrder with ⟨step, remaining⟩
          have sorted := induction remaining
          refine List.pairwise_cons.2 ⟨?_, sorted⟩
          intro later member
          rcases List.mem_cons.1 member with rfl | inside
          · exact step
          · exact Int64.le_trans step ((List.pairwise_cons.1 sorted).1 later inside)

theorem InOrder.timestamp_le
    {entries : List Entry} (inOrder : InOrder entries)
    {start finish : Nat} {first last : Entry}
    (ordered : start ≤ finish)
    (atStart : entries[start]? = some first)
    (atFinish : entries[finish]? = some last) :
    Snapshot.timestamp first ≤ Snapshot.timestamp last := by
  rcases List.getElem?_eq_some_iff.1 atStart with ⟨startBounded, rfl⟩
  rcases List.getElem?_eq_some_iff.1 atFinish with ⟨finishBounded, rfl⟩
  rcases Nat.lt_or_eq_of_le ordered with earlier | rfl
  · exact
      List.pairwise_iff_getElem.1 inOrder.pairwise start finish startBounded
        finishBounded earlier
  · exact Int64.le_refl _

/--
The entries whose timestamps have a property that earlier timestamps share are
those before some position.
-/
theorem InOrder.exists_border
    {entries : List Entry} (inOrder : InOrder entries) (Early : Int64 → Prop)
    (closed :
      ∀ {earlier later : Int64}, earlier ≤ later → Early later → Early earlier) :
    ∃ border ≤ entries.length,
      ∀ position entry,
        entries[position]? = some entry →
          (Early (Snapshot.timestamp entry) ↔ position < border) := by
  have sorted := inOrder.pairwise
  clear inOrder
  induction entries with
  | nil => exact ⟨0, Nat.le_refl _, by simp⟩
  | cons first rest induction =>
      rcases List.pairwise_cons.1 sorted with ⟨least, sortedRest⟩
      by_cases early : Early (Snapshot.timestamp first)
      · rcases induction sortedRest with ⟨border, bounded, splits⟩
        refine ⟨border + 1, Nat.succ_le_succ bounded, ?_⟩
        intro position entry found
        cases position with
        | zero =>
            obtain rfl : first = entry := by simpa using found
            exact ⟨fun _ => Nat.succ_pos border, fun _ => early⟩
        | succ position =>
            rw [splits position entry (by simpa using found)]
            exact Nat.succ_lt_succ_iff.symm
      · refine ⟨0, Nat.zero_le _, ?_⟩
        intro position entry found
        constructor
        · intro earlyEntry
          -- Already the first entry would share the property.
          rcases List.mem_cons.1 (List.mem_of_getElem? found) with rfl | inside
          · exact absurd earlyEntry early
          · exact absurd (closed (least entry inside) earlyEntry) early
        · intro before
          exact absurd before (Nat.not_lt_zero position)

/-! ## Windows -/

namespace TimestampRange

theorem contains_iff (range : TimestampRange) (timestamp : Int64) :
    range.contains timestamp = true ↔
      range.first ≤ timestamp ∧ timestamp ≤ range.last := by
  rw [contains, Bool.and_eq_true, decide_eq_true_eq, decide_eq_true_eq]

/--
Whether the entries within the range are those from position `low` up to, but
without, position `high`.
-/
structure Window
    (range : TimestampRange) (entries : List Entry) (low high : Nat) :
    Prop where
  ordered : low ≤ high
  bounded : high ≤ entries.length
  within :
    ∀ position entry,
      entries[position]? = some entry →
        (range.contains (Snapshot.timestamp entry) = true ↔
          low ≤ position ∧ position < high)

theorem exists_window
    (range : TimestampRange) {entries : List Entry} (inOrder : InOrder entries) :
    ∃ low high, range.Window entries low high := by
  rcases inOrder.exists_border (fun timestamp => timestamp < range.first)
      Int64.lt_of_le_of_lt with
    ⟨low, lowBounded, beforeLow⟩
  rcases inOrder.exists_border (fun timestamp => timestamp ≤ range.last)
      Int64.le_trans with
    ⟨high, highBounded, beforeHigh⟩
  refine ⟨low, high, ?_, highBounded, ?_⟩
  · by_contra crossed
    rw [Nat.not_le] at crossed
    -- The entry at `high` would be too early for the range, and too late.
    have found :=
      List.getElem?_eq_getElem (Nat.lt_of_lt_of_le crossed lowBounded)
    have early := (beforeLow high _ found).2 crossed
    have intime :=
      Int64.le_of_lt (Int64.lt_of_lt_of_le early range.first_le_last)
    exact Nat.lt_irrefl high ((beforeHigh high _ found).1 intime)
  · intro position entry found
    rw [contains_iff, ← Int64.not_lt, beforeLow position entry found,
      beforeHigh position entry found, Nat.not_lt]

variable {range : TimestampRange} {entries : List Entry} {low high : Nat}

theorem Window.contains_of_mem_extract
    (window : range.Window entries low high) {entry : Entry}
    (member : entry ∈ entries.extract low high) :
    range.contains (Snapshot.timestamp entry) = true := by
  rw [List.extract_eq_take_drop] at member
  rcases List.mem_iff_getElem?.1 member with ⟨index, found⟩
  rw [List.getElem?_take, List.getElem?_drop] at found
  split at found
  · rename_i inside
    exact (window.within _ _ found).2 ⟨Nat.le_add_right _ _, by omega⟩
  · contradiction

/-- The entries within the range are the window, in one piece. -/
theorem Window.filter_eq_extract (window : range.Window entries low high) :
    (entries.filter fun entry => range.contains (Snapshot.timestamp entry)) =
      entries.extract low high := by
  have split :
      entries =
        entries.take low ++ (entries.extract low high ++ entries.drop high) := by
    have behind : entries.drop high = (entries.drop low).drop (high - low) := by
      rw [List.drop_drop, Nat.add_sub_of_le window.ordered]
    rw [List.extract_eq_take_drop, behind, List.take_append_drop,
      List.take_append_drop]
  have before :
      (entries.take low).filter
        (fun entry => range.contains (Snapshot.timestamp entry)) = [] := by
    rw [List.filter_eq_nil_iff]
    intro entry member contained
    rcases List.mem_iff_getElem?.1 member with ⟨position, found⟩
    rw [List.getElem?_take] at found
    split at found
    · rename_i early
      have inside := (window.within position entry found).1 contained
      omega
    · contradiction
  have after :
      (entries.drop high).filter
        (fun entry => range.contains (Snapshot.timestamp entry)) = [] := by
    rw [List.filter_eq_nil_iff]
    intro entry member contained
    rcases List.mem_iff_getElem?.1 member with ⟨position, found⟩
    rw [List.getElem?_drop] at found
    have inside := (window.within _ entry found).1 contained
    omega
  have inside :
      (entries.extract low high).filter
        (fun entry => range.contains (Snapshot.timestamp entry)) =
          entries.extract low high := by
    rw [List.filter_eq_self]
    intro entry member
    exact window.contains_of_mem_extract member
  calc
    entries.filter (fun entry => range.contains (Snapshot.timestamp entry)) =
        (entries.take low ++
            (entries.extract low high ++ entries.drop high)).filter
          (fun entry => range.contains (Snapshot.timestamp entry)) :=
      congrArg _ split
    _ = entries.extract low high := by
      rw [List.filter_append, List.filter_append, before, inside, after,
        List.nil_append, List.append_nil]

theorem Window.extract_eq_nil_iff (window : range.Window entries low high) :
    entries.extract low high = [] ↔ low = high := by
  have ordered := window.ordered
  have bounded := window.bounded
  rw [← List.length_eq_zero_iff, List.extract_eq_take_drop, List.length_take,
    List.length_drop]
  omega

omit [Snapshot Entry] in
/-- An entry of a window stands in the trace behind those before the window. -/
theorem getElem?_of_getElem?_extract
    {index : Nat} {entry : Entry}
    (found : (entries.extract low high)[index]? = some entry) :
    low + index < high ∧ entries[low + index]? = some entry := by
  rw [List.extract_eq_take_drop, List.getElem?_take, List.getElem?_drop] at found
  split at found
  · rename_i inside
    exact ⟨by omega, found⟩
  · contradiction

end TimestampRange

/-! ## Tests with a range -/

namespace Checker

variable {checker : Checker Entry} {range : TimestampRange}
variable {entries : List Entry} {low high : Nat} {failure : Failure}

theorem selected_eq_extract
    (checker : Checker Entry) (window : range.Window entries low high) :
    (checker.withinRange range).selected entries = entries.extract low high := by
  rw [selected_withinRange, window.filter_eq_extract]

theorem pointsInto_extract
    (window : range.Window entries low high) (wide : low ≠ high)
    (reported : failure ∈ (checker.withinRange range).test entries) :
    failure.location.PointsInto (entries.extract low high) := by
  rw [← selected_eq_extract checker window]
  apply test_pointsInto _ reported
  rw [selected_eq_extract checker window, ne_eq, window.extract_eq_nil_iff]
  exact wide

theorem test_eq_noEntries_iff
    (checker : Checker Entry) (window : range.Window entries low high) :
    (checker.withinRange range).test entries = [Failure.noEntries] ↔
      low = high := by
  constructor
  · intro reported
    by_contra wide
    have points :=
      pointsInto_extract window wide (reported ▸ List.mem_singleton_self _)
    cases points
  · intro empty
    apply test_of_nothing_selected
    rw [selected_eq_extract checker window]
    exact window.extract_eq_nil_iff.2 empty

/-- Only the failure of an empty window names no place in it. -/
theorem pointsInto_of_located
    (window : range.Window entries low high)
    (reported : failure ∈ (checker.withinRange range).test entries)
    (located : failure.location ≠ .trace) :
    failure.location.PointsInto (entries.extract low high) := by
  apply pointsInto_extract window _ reported
  intro empty
  rw [(test_eq_noEntries_iff checker window).2 empty, List.mem_singleton]
    at reported
  rw [reported] at located
  exact located rfl

/-- A rejected entry lies in the window, and its position counts from there. -/
theorem getElem?_of_entry_reported
    (window : range.Window entries low high)
    (reported : failure ∈ (checker.withinRange range).test entries)
    {index : Nat} {timestamp : Int64}
    (located : failure.location = .entry index timestamp) :
    low + index < high ∧ range.contains timestamp = true ∧
      ∃ entry,
        entries[low + index]? = some entry ∧
          Snapshot.timestamp entry = timestamp := by
  have points := pointsInto_of_located window reported (by simp [located])
  rw [located] at points
  cases points with
  | @entry _ entry found =>
      rcases TimestampRange.getElem?_of_getElem?_extract found with
        ⟨inside, atIndex⟩
      have contained :=
        (window.within _ entry atIndex).2 ⟨Nat.le_add_right _ _, inside⟩
      exact ⟨inside, contained, entry, atIndex, rfl⟩

/-- The times of a reported run lie within the range, and in order. -/
theorem ordered_of_span_reported
    (inOrder : InOrder entries) (window : range.Window entries low high)
    (reported : failure ∈ (checker.withinRange range).test entries)
    {start finish : Int64}
    (located : failure.location = .span start finish) :
    range.contains start = true ∧ start ≤ finish ∧
      range.contains finish = true := by
  have points := pointsInto_of_located window reported (by simp [located])
  rw [located] at points
  cases points with
  | @span startIndex finishIndex first last ordered atStart atFinish =>
      rcases TimestampRange.getElem?_of_getElem?_extract atStart with
        ⟨startInside, foundFirst⟩
      rcases TimestampRange.getElem?_of_getElem?_extract atFinish with
        ⟨finishInside, foundLast⟩
      refine ⟨?_, ?_, ?_⟩
      · exact
          (window.within _ first foundFirst).2
            ⟨Nat.le_add_right _ _, startInside⟩
      · exact
          inOrder.timestamp_le (Nat.add_le_add_left ordered low) foundFirst
            foundLast
      · exact
          (window.within _ last foundLast).2
            ⟨Nat.le_add_right _ _, finishInside⟩

/--
The entries of a trace within a range form a window, and a test with the range
is a test without one of this window.  So the positions of rejected entries
count from the beginning of the window, all times reported lie within the
range, no entries are found exactly when the window is empty, and a range over
the whole trace can be left out.
-/
theorem test_withinRange
    (checker : Checker Entry) (trace : Trace Entry) (range : TimestampRange) :
    ∃ low high,
      range.Window trace.entries low high ∧
        (checker.withinRange range).test trace.entries =
          checker.unbounded.test (trace.entries.extract low high) ∧
        (∀ failure ∈ (checker.withinRange range).test trace.entries,
          (∀ index timestamp,
            failure.location = .entry index timestamp →
              low + index < high ∧ range.contains timestamp = true ∧
                ∃ entry,
                  trace.entries[low + index]? = some entry ∧
                    Snapshot.timestamp entry = timestamp) ∧
          ∀ start finish,
            failure.location = .span start finish →
              range.contains start = true ∧ start ≤ finish ∧
                range.contains finish = true) ∧
        ((checker.withinRange range).test trace.entries =
            [Failure.noEntries] ↔
          low = high) ∧
        ((∀ entry ∈ trace.entries,
            range.contains (Snapshot.timestamp entry) = true) →
          (checker.withinRange range).test trace.entries =
            checker.unbounded.test trace.entries) := by
  rcases range.exists_window trace.inOrder with ⟨low, high, window⟩
  refine
    ⟨low, high, window, ?_, ?_, test_eq_noEntries_iff checker window, ?_⟩
  · rw [test_eq_unbounded_selected, selected_eq_extract checker window]
    rfl
  · intro failure reported
    constructor
    · intro index timestamp located
      exact getElem?_of_entry_reported window reported located
    · intro start finish located
      exact ordered_of_span_reported trace.inOrder window reported located
  · intro covers
    rw [test_eq_unbounded_selected, selected_withinRange,
      List.filter_eq_self.2 covers]
    rfl

/-- The trace of a flickering window. -/
def flickeringTrace : Trace WindowManagerEntry :=
  { entries := flickering
    inOrder := inOrder_of_disorder?_eq_none flickering 0 (by decide) }

theorem flickeringTrace_window :
    (∃ failure ∈
        (opening.withinRange ⟨2, 5, by decide⟩).test flickeringTrace.entries,
      failure.location = .entry 2 4 ∧
        ∃ low high,
          TimestampRange.Window ⟨2, 5, by decide⟩ flickeringTrace.entries low
              high ∧
            low + 2 < high ∧
            ∃ entry,
              flickeringTrace.entries[low + 2]? = some entry ∧
                Snapshot.timestamp entry = 4) ∧
      (∀ entry ∈ flickeringTrace.entries,
        TimestampRange.contains ⟨0, 9, by decide⟩
          (Snapshot.timestamp entry) = true) ∧
      (opening.withinRange ⟨0, 9, by decide⟩).test flickeringTrace.entries =
        opening.unbounded.test flickeringTrace.entries := by
  refine ⟨?_, by decide, ?_⟩
  · obtain ⟨failure, reported, located⟩ :
        ∃ failure ∈
            (opening.withinRange ⟨2, 5, by decide⟩).test flickeringTrace.entries,
          failure.location = .entry 2 4 := by
      decide
    rcases test_withinRange opening flickeringTrace ⟨2, 5, by decide⟩ with
      ⟨low, high, window, _, places, _, _⟩
    rcases (places failure reported).1 2 4 located with ⟨inside, _, entry⟩
    exact ⟨failure, reported, located, low, high, window, inside, entry⟩
  · rcases test_withinRange opening flickeringTrace ⟨0, 9, by decide⟩ with
      ⟨_, _, _, _, _, _, unlimited⟩
    exact unlimited (by decide)

end Checker

end PhaseAssertions
