import PhaseAssertions.Checker.Walk
import PhaseAssertions.Proofs.Conjunction

/-!
# Steps of a walk

A walk is a chain of transitions, one for each entry.  This module lists once
what a transition can be: the cursor stays, it hands over to the next phase,
the next phase refuses the entry, or the cursor is blocked.  Walks over
concatenated entries compose, a walk that ends in a failure ends at one entry
after a successful walk, and the position at which a walk is started only
moves the positions in its failures.
-/

namespace PhaseAssertions

universe u

/-! ## Failures at moved positions -/

/-- The location when `count` more entries stand before the evaluated ones. -/
def FailureLocation.moved (count : Nat) : FailureLocation → FailureLocation
  | .entry index timestamp => .entry (index + count) timestamp
  | .span start finish => .span start finish
  | .trace => .trace

/-- The failure when `count` more entries stand before the evaluated ones. -/
def Failure.moved (count : Nat) (failure : Failure) : Failure :=
  { failure with location := failure.location.moved count }

namespace Cursor

variable {Entry : Type u} [Snapshot Entry]

/-! ## Transitions -/

/-- What an entry at position `index` makes of a cursor. -/
inductive Transition (index : Nat) (entry : Entry) :
    Cursor Entry → Except Failure (Cursor Entry) → Prop where
  /-- The current phase accepts the entry. -/
  | stay (cursor : Cursor Entry)
      (accepted : cursor.current.Holds entry) :
      Transition index entry cursor (.ok { cursor with matched := true })
  /-- The current phase has matched before, and the next one takes over. -/
  | handOver
      {passed rest : List (PhaseGroup Entry)} {current next : PhaseGroup Entry}
      (rejected : ¬ current.Holds entry)
      (accepted : next.Holds entry) :
      Transition index entry ⟨passed, current, next :: rest, true⟩
        (.ok ⟨passed ++ [current], next, rest, true⟩)
  /-- The current phase has matched before, but the next one rejects as well. -/
  | refuse
      {passed rest : List (PhaseGroup Entry)} {current next : PhaseGroup Entry}
      (rejected : ¬ current.Holds entry)
      (refused : ¬ next.Holds entry) :
      Transition index entry ⟨passed, current, next :: rest, true⟩
        (.error (rejection next index entry))
  /-- The current phase rejects and cannot hand over. -/
  | block (cursor : Cursor Entry)
      (rejected : ¬ cursor.current.Holds entry)
      (stuck : cursor.matched = false ∨ cursor.later = []) :
      Transition index entry cursor
        (.error (rejection cursor.current index entry))

theorem transition_advance
    (cursor : Cursor Entry) (index : Nat) (entry : Entry) :
    Transition index entry cursor (cursor.advance index entry).outcome := by
  rcases cursor with ⟨passed, current, later, matched⟩
  by_cases accepted : current.Holds entry
  · simpa [advance, accepted] using
      Transition.stay ⟨passed, current, later, matched⟩ accepted
  · cases matched with
    | false =>
        simpa [advance, accepted] using
          Transition.block ⟨passed, current, later, false⟩
            accepted (.inl rfl)
    | true =>
        cases later with
        | nil =>
            simpa [advance, accepted] using
              Transition.block ⟨passed, current, [], true⟩
                accepted (.inr rfl)
        | cons next rest =>
            by_cases taken : next.Holds entry
            · simpa [advance, accepted, taken] using
                Transition.handOver accepted taken
            · simpa [advance, accepted, taken] using
                Transition.refuse accepted taken

/-- The transitions are exactly the steps that a walk takes. -/
theorem transition_iff
    {cursor : Cursor Entry} {index : Nat} {entry : Entry}
    {outcome : Except Failure (Cursor Entry)} :
    Transition index entry cursor outcome ↔
      (cursor.advance index entry).outcome = outcome := by
  constructor
  · intro transition
    cases transition with
    | stay cursor accepted => simp [advance, accepted]
    | handOver rejected accepted => simp [advance, rejected, accepted]
    | refuse rejected refused => simp [advance, rejected, refused]
    | block cursor rejected stuck =>
        rcases cursor with ⟨passed, current, later, matched⟩
        rcases stuck with unmatched | final
        · simp_all [advance]
        · simp_all [advance]
  · rintro rfl
    exact cursor.transition_advance index entry

/-! ## Walks over several entries -/

@[simp]
theorem outcome_walk_nil (cursor : Cursor Entry) (index : Nat) :
    (cursor.walk index []).outcome = .ok cursor :=
  rfl

theorem outcome_walk_cons
    (cursor : Cursor Entry) (index : Nat) (entry : Entry) (rest : List Entry) :
    (cursor.walk index (entry :: rest)).outcome =
      (cursor.advance index entry).outcome.bind fun next =>
        (next.walk (index + 1) rest).outcome := by
  rw [walk]
  cases stepped : (cursor.advance index entry).outcome with
  | error failure => simp [Except.bind]
  | ok next => simp [Except.bind]

/-- A walk over `seen ++ rest` is a walk over `seen` that goes on over `rest`. -/
theorem outcome_walk_append
    (cursor : Cursor Entry) (index : Nat) (seen rest : List Entry) :
    (cursor.walk index (seen ++ rest)).outcome =
      (cursor.walk index seen).outcome.bind fun next =>
        (next.walk (index + seen.length) rest).outcome := by
  induction seen generalizing cursor index with
  | nil => simp [Except.bind]
  | cons entry seen induction =>
      rw [List.cons_append, outcome_walk_cons, outcome_walk_cons]
      cases (cursor.advance index entry).outcome with
      | error failure => rfl
      | ok next =>
          simp only [Except.bind, induction, List.length_cons]
          rw [Nat.add_assoc, Nat.add_comm 1]

theorem outcome_walk_concat
    {cursor middle : Cursor Entry} {index : Nat} {seen : List Entry}
    (walked : (cursor.walk index seen).outcome = .ok middle) (entry : Entry) :
    (cursor.walk index (seen ++ [entry])).outcome =
      (middle.advance (index + seen.length) entry).outcome := by
  rw [outcome_walk_append, walked]
  simp only [Except.bind, outcome_walk_cons]
  cases (middle.advance (index + seen.length) entry).outcome <;> rfl

/-- A walk that fails does so at one entry, before which it succeeds. -/
theorem outcome_walk_eq_error_iff
    (cursor : Cursor Entry) (index : Nat) (entries : List Entry)
    (failure : Failure) :
    (cursor.walk index entries).outcome = .error failure ↔
      ∃ before entry after middle,
        entries = before ++ entry :: after ∧
          (cursor.walk index before).outcome = .ok middle ∧
          Transition (index + before.length) entry middle (.error failure) := by
  constructor
  · intro failed
    induction entries generalizing cursor index with
    | nil => simp at failed
    | cons entry rest induction =>
        rw [outcome_walk_cons] at failed
        cases stepped : (cursor.advance index entry).outcome with
        | error reported =>
            rw [stepped] at failed
            obtain rfl : reported = failure := by simpa [Except.bind] using failed
            exact ⟨[], entry, rest, cursor, rfl, rfl, transition_iff.2 stepped⟩
        | ok next =>
            rw [stepped] at failed
            rcases induction next (index + 1) failed with
              ⟨before, rejected, after, middle, rfl, walked, final⟩
            refine ⟨entry :: before, rejected, after, middle, rfl, ?_, ?_⟩
            · rw [outcome_walk_cons, stepped]
              exact walked
            · rw [List.length_cons, Nat.add_comm before.length, ← Nat.add_assoc]
              exact final
  · rintro ⟨before, entry, after, middle, rfl, walked, final⟩
    rw [outcome_walk_append, walked]
    simp only [Except.bind, outcome_walk_cons, transition_iff.1 final]

/-! ## Moving the position of a walk -/

theorem Transition.moved
    {cursor : Cursor Entry} {index : Nat} {entry : Entry}
    {outcome : Except Failure (Cursor Entry)}
    (transition : Transition index entry cursor outcome) (count : Nat) :
    Transition (index + count) entry cursor
      (outcome.mapError (Failure.moved count)) := by
  cases transition with
  | stay cursor accepted => exact .stay cursor accepted
  | handOver rejected accepted => exact .handOver rejected accepted
  | refuse rejected refused => exact .refuse rejected refused
  | block cursor rejected stuck => exact .block cursor rejected stuck

/-- A walk that starts at a later position meets the same failure, moved. -/
theorem outcome_walk_add
    (cursor : Cursor Entry) (index count : Nat) (entries : List Entry) :
    (cursor.walk (index + count) entries).outcome =
      (cursor.walk index entries).outcome.mapError (Failure.moved count) := by
  induction entries generalizing cursor index with
  | nil => rfl
  | cons entry rest induction =>
      have stepped :=
        transition_iff.1 ((cursor.transition_advance index entry).moved count)
      rw [outcome_walk_cons, outcome_walk_cons, stepped]
      cases (cursor.advance index entry).outcome with
      | error failure => rfl
      | ok next =>
          change
            (next.walk (index + count + 1) rest).outcome =
              (next.walk (index + 1) rest).outcome.mapError
                (Failure.moved count)
          rw [Nat.add_right_comm]
          exact induction next (index + 1)

end Cursor

theorem Progress.failures_moved
    {Entry : Type u} {progress later : Progress Entry} {count : Nat}
    (outcome :
      later.outcome = progress.outcome.mapError (Failure.moved count))
    (start finish : Int64) :
    later.failures start finish =
      (progress.failures start finish).map (Failure.moved count) := by
  rw [failures, failures, outcome]
  cases progress.outcome with
  | error failure => rfl
  | ok cursor =>
      change
        cursor.unreached start finish =
          (cursor.unreached start finish).map (Failure.moved count)
      rw [Cursor.unreached, List.map_map]
      rfl

end PhaseAssertions
