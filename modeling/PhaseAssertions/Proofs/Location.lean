import PhaseAssertions.Proofs.Selection
import PhaseAssertions.Proofs.SkippedLead

/-!
# Where failures point

Every failure that a test reports on non-empty entries names a place among the
entries that it evaluated: one entry, by its position and its time, or a run of
entries, by the times of the first and the last.  This holds in every mode; a
test that skips a lead counts the positions from before the lead.
-/

namespace PhaseAssertions

universe u

variable {Entry : Type u} [Snapshot Entry]

/-! ## Places among entries -/

/-- Whether a location names a place among the entries. -/
inductive FailureLocation.PointsInto (entries : List Entry) :
    FailureLocation → Prop where
  | entry {index : Nat} {entry : Entry}
      (found : entries[index]? = some entry) :
      PointsInto entries (.entry index (Snapshot.timestamp entry))
  /-- The last entry of a run does not stand before its first. -/
  | span {start finish : Nat} {first last : Entry}
      (ordered : start ≤ finish)
      (atStart : entries[start]? = some first)
      (atFinish : entries[finish]? = some last) :
      PointsInto entries
        (.span (Snapshot.timestamp first) (Snapshot.timestamp last))

namespace FailureLocation.PointsInto

/-- More entries in front move the place by their number. -/
theorem moved
    {location : FailureLocation} {rest : List Entry}
    (points : location.PointsInto rest) (lead : List Entry) :
    (location.moved lead.length).PointsInto (lead ++ rest) := by
  have later :
      ∀ {index : Nat} {entry : Entry},
        rest[index]? = some entry →
          (lead ++ rest)[index + lead.length]? = some entry := by
    intro index entry found
    rw [List.getElem?_append_right (Nat.le_add_left _ _), Nat.add_sub_cancel]
    exact found
  cases points with
  | entry found => exact .entry (later found)
  | span ordered atStart atFinish =>
      exact
        .span (Nat.add_le_add_right ordered lead.length) (later atStart)
          (later atFinish)

omit [Snapshot Entry] in
theorem getElem?_last (entry : Entry) (rest : List Entry) :
    (entry :: rest)[rest.length]? = some (rest.getLast?.getD entry) := by
  rw [← List.getLast?_cons, List.getLast?_eq_getElem?, List.length_cons,
    Nat.add_sub_cancel]

theorem whole (entry : Entry) (rest : List Entry) :
    (FailureLocation.span (Snapshot.timestamp entry)
      (Checker.lastTimestamp entry rest)).PointsInto (entry :: rest) :=
  .span (Nat.zero_le rest.length) rfl (getElem?_last entry rest)

end FailureLocation.PointsInto

/-! ## Failures of tests -/

namespace Checker

variable {first : PhaseGroup Entry} {later : List (PhaseGroup Entry)}
variable {entry : Entry} {rest : List Entry} {failure : Failure}

theorem walkAll_pointsInto
    (reported : failure ∈ (walkAll first later entry rest).failures) :
    failure.location.PointsInto (entry :: rest) := by
  rw [failures_walkAll, Progress.failures] at reported
  cases walked : ((Cursor.start first later).walk 0 (entry :: rest)).outcome with
  | error cause =>
      rw [walked, List.mem_singleton] at reported
      rcases walk_start_eq_error_iff.1 walked with
        ⟨before, rejected, after, _, group, split, _, rfl⟩
      rw [reported, split, Nat.zero_add]
      exact .entry (by simp)
  | ok cursor =>
      rw [walked] at reported
      rcases List.mem_map.1 reported with ⟨group, _, rfl⟩
      exact .whole entry rest

theorem walkFromFirst_pointsInto
    (reported : failure ∈ (walkFromFirst first later entry rest).failures) :
    failure.location.PointsInto (entry :: rest) := by
  rcases unmatched_or_exists_lead first (entry :: rest) with
    unmatched | ⟨lead, begin, behind, split, begins, skipped⟩
  · rw [walkFromFirst_of_unmatched unmatched] at reported
    rw [List.mem_singleton.1 reported]
    exact .whole entry rest
  · rw [walkFromFirst_of_match split begins skipped] at reported
    rcases List.mem_map.1 reported with ⟨cause, reportedBehind, rfl⟩
    rw [split]
    exact (walkAll_pointsInto reportedBehind).moved lead

theorem checkBoundary_pointsInto
    {position index : Nat} {groups : List (PhaseGroup Entry)}
    {entries : List Entry} (found : entries[index]? = some entry)
    (reported : failure ∈ (checkBoundary position index entry groups).failures) :
    failure.location.PointsInto entries := by
  rw [failures_checkBoundary] at reported
  rcases List.mem_map.1 reported with ⟨⟨predicate, verdict⟩, _, rfl⟩
  exact .entry found

/-- Every failure of a test of some entries points to a place among them. -/
theorem test_pointsInto
    {checker : Checker Entry} {entries : List Entry}
    (evaluated : checker.selected entries ≠ [])
    (reported : failure ∈ checker.test entries) :
    failure.location.PointsInto (checker.selected entries) := by
  rcases List.exists_cons_of_ne_nil evaluated with ⟨entry, rest, selection⟩
  cases declared : checker.groups with
  | nil =>
      rw [test_of_undeclared declared selection] at reported
      cases reported
  | cons first later =>
      rw [test_eq_evaluate declared selection] at reported
      rw [selection]
      unfold evaluate at reported
      -- The mode decides, and for all entries whether a lead is skipped.
      split at reported
      · exact checkBoundary_pointsInto rfl reported
      · exact
          checkBoundary_pointsInto
            (FailureLocation.PointsInto.getElem?_last entry rest) reported
      · split at reported
        · exact walkFromFirst_pointsInto reported
        · exact walkAll_pointsInto reported

end Checker

end PhaseAssertions
