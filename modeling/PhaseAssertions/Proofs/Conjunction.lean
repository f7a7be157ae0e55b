import PhaseAssertions.Predicate

/-!
# Groups as conjunctions

A phase group holds of an entry when every one of its members accepts the
entry.  Its evaluation asks the members in order and stops at the first one
that rejects.  The lemmas below tie the two readings together: the evaluation
passes exactly when the group holds, and a failing evaluation is the verdict
of the first member to reject.
-/

namespace PhaseAssertions

universe u

namespace PhaseGroup

variable {Entry : Type u}

/-- Whether every member of the group accepts `entry`. -/
def Holds (group : PhaseGroup Entry) (entry : Entry) : Prop :=
  ∀ predicate ∈ group.members, (predicate.evaluate entry).passed = true

instance (group : PhaseGroup Entry) (entry : Entry) :
    Decidable (group.Holds entry) :=
  inferInstanceAs
    (Decidable
      (∀ predicate ∈ group.members, (predicate.evaluate entry).passed = true))

/-- Whether `member` rejects `entry` and all members before it accept it. -/
def FirstToReject
    (group : PhaseGroup Entry) (entry : Entry) (member : Predicate Entry) :
    Prop :=
  ∃ before after,
    group.members = before ++ member :: after ∧
      (∀ predicate ∈ before, (predicate.evaluate entry).passed = true) ∧
      (member.evaluate entry).passed = false

theorem firstFailure?_eq_none_iff
    (group : PhaseGroup Entry) (entry : Entry) :
    group.firstFailure? entry = none ↔ group.Holds entry := by
  simp [firstFailure?, find?_inquire, Holds]

theorem firstFailure?_eq_some_iff
    (group : PhaseGroup Entry) (entry : Entry)
    (member : Predicate Entry) (verdict : Verdict) :
    group.firstFailure? entry = some (member, verdict) ↔
      group.FirstToReject entry member ∧ verdict = member.evaluate entry := by
  simp only [firstFailure?, find?_inquire, List.findSome?_eq_some_iff, FirstToReject,
    ite_eq_left_iff, Option.ite_none_left_eq_some, Option.some.injEq,
    Prod.mk.injEq, reduceCtorEq, imp_false, Decidable.not_not]
  constructor
  · rintro ⟨before, asked, after, split, ⟨rejects, rfl, rfl⟩, accepted⟩
    exact
      ⟨⟨before, after, split, accepted, by simpa using rejects⟩, rfl⟩
  · rintro ⟨⟨before, after, split, accepted, rejects⟩, rfl⟩
    exact
      ⟨before, member, after, split, ⟨by simp [rejects], rfl, rfl⟩, accepted⟩

theorem evaluate_of_unfound
    {group : PhaseGroup Entry} {entry : Entry}
    (unfound : group.firstFailure? entry = none) :
    group.evaluate entry = Verdict.pass group.name := by
  rw [evaluate, unfound]

theorem evaluate_of_found
    {group : PhaseGroup Entry} {entry : Entry} {failure : Predicate Entry × Verdict}
    (found : group.firstFailure? entry = some failure) :
    group.evaluate entry = failure.2 := by
  rw [evaluate, found]

theorem failed_of_found
    {group : PhaseGroup Entry} {entry : Entry} {failure : Predicate Entry × Verdict}
    (found : group.firstFailure? entry = some failure) :
    failure.2.passed = false := by
  rcases (group.firstFailure?_eq_some_iff entry _ _).1 found with
    ⟨⟨_, _, _, _, rejects⟩, verdict⟩
  rw [verdict, rejects]

/-- The evaluation of a group passes exactly when all its members accept. -/
@[simp]
theorem passed_evaluate_iff
    (group : PhaseGroup Entry) (entry : Entry) :
    (group.evaluate entry).passed = true ↔ group.Holds entry := by
  rw [← firstFailure?_eq_none_iff]
  cases found : group.firstFailure? entry with
  | none => simp [evaluate_of_unfound found]
  | some failure => simp [evaluate_of_found found, failed_of_found found]

@[simp]
theorem failed_evaluate_iff
    (group : PhaseGroup Entry) (entry : Entry) :
    (group.evaluate entry).failed = true ↔ ¬ group.Holds entry := by
  rw [← passed_evaluate_iff, Verdict.failed, Bool.not_eq_true',
    Bool.not_eq_true]

/-- A failing group answers with the verdict of the first member to reject. -/
theorem evaluate_of_firstToReject
    {group : PhaseGroup Entry} {entry : Entry} {member : Predicate Entry}
    (first : group.FirstToReject entry member) :
    group.evaluate entry = member.evaluate entry :=
  evaluate_of_found
    ((group.firstFailure?_eq_some_iff entry member _).2 ⟨first, rfl⟩)

theorem exists_firstToReject
    {group : PhaseGroup Entry} {entry : Entry}
    (rejected : ¬ group.Holds entry) :
    ∃ member, group.FirstToReject entry member := by
  rw [← firstFailure?_eq_none_iff] at rejected
  rcases Option.ne_none_iff_exists'.1 rejected with ⟨⟨member, verdict⟩, found⟩
  exact
    ⟨member, ((group.firstFailure?_eq_some_iff entry member verdict).1 found).1⟩

end PhaseGroup

end PhaseAssertions
