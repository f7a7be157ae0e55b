import PhaseAssertions.Verdict

/-!
# Predicates and phase groups

A predicate is a named check of one snapshot.  A phase group is a conjunction
of predicates that describes one expected stage of a trace; it starts with its
first member and so is never empty.  Members are asked in order, and the first
one that rejects a snapshot decides for the whole group.

What is asked and what is answered is one inquiry.  The verdict of the group and
the log of its questions are both read off from it.
-/

namespace PhaseAssertions

universe u

/-- A display name together with a check of one snapshot. -/
structure Predicate (Entry : Type u) where
  name : String
  evaluate : Entry → Verdict

/-- A non-empty conjunction of predicates: one expected stage of a trace. -/
structure PhaseGroup (Entry : Type u) where
  /-- The predicate that opened the group. -/
  first : Predicate Entry
  /-- The predicates joined to it later, in order. -/
  others : List (Predicate Entry) := []

namespace PhaseGroup

variable {Entry : Type u}

def members (group : PhaseGroup Entry) : List (Predicate Entry) :=
  group.first :: group.others

def push (group : PhaseGroup Entry) (predicate : Predicate Entry) :
    PhaseGroup Entry :=
  { group with others := group.others ++ [predicate] }

/-- The names of the members, joined by `and`. -/
def name (group : PhaseGroup Entry) : String :=
  " and ".intercalate (group.members.map Predicate.name)

/--
The verdicts of predicates on `entry`, asked in order up to and including the
first one that rejects it.
-/
def inquire (entry : Entry) : List (Predicate Entry) → List (Predicate Entry × Verdict)
  | [] => []
  | predicate :: rest =>
    let verdict := predicate.evaluate entry
    (predicate, verdict) :: if verdict.passed then inquire entry rest else []

/-- The predicates that are asked about `entry`. -/
def asked (entry : Entry) (predicates : List (Predicate Entry)) : List (Predicate Entry) :=
  (inquire entry predicates).map Prod.fst

/-- The first member that rejects `entry`, with its verdict. -/
def firstFailure? (group : PhaseGroup Entry) (entry : Entry) :
    Option (Predicate Entry × Verdict) :=
  (inquire entry group.members).find? fun answer => answer.2.failed

/--
The verdict of the conjunction: that of the first rejecting member, or a pass
under the name of the group.
-/
def evaluate (group : PhaseGroup Entry) (entry : Entry) : Verdict :=
  match group.firstFailure? entry with
  | some (_, verdict) => verdict
  | none => Verdict.pass group.name

theorem asked_cons
    (entry : Entry) (predicate : Predicate Entry) (rest : List (Predicate Entry)) :
    asked entry (predicate :: rest) =
      predicate :: if (predicate.evaluate entry).passed then asked entry rest else [] := by
  rw [asked, inquire, List.map_cons, apply_ite (List.map Prod.fst)]
  rfl

/-- An inquiry holds the verdicts of those that were asked. -/
theorem inquire_eq_map_asked (entry : Entry) (predicates : List (Predicate Entry)) :
    inquire entry predicates =
      (asked entry predicates).map fun predicate => (predicate, predicate.evaluate entry) := by
  induction predicates with
  | nil => rfl
  | cons predicate rest induction =>
      rw [inquire, asked_cons]
      cases (predicate.evaluate entry).passed with
      | false => rfl
      | true => exact congrArg (List.cons _) induction

/-- The failure that an inquiry ends with is the first one there is. -/
theorem find?_inquire (entry : Entry) (predicates : List (Predicate Entry)) :
    (inquire entry predicates).find? (fun answer => answer.2.failed) =
      predicates.findSome? fun predicate =>
        if (predicate.evaluate entry).passed then none
        else some (predicate, predicate.evaluate entry) := by
  induction predicates with
  | nil => rfl
  | cons predicate rest induction =>
      cases passed : (predicate.evaluate entry).passed with
      | false => simp [inquire, Verdict.failed, passed]
      | true => simpa [inquire, Verdict.failed, passed] using induction

@[simp]
theorem members_push (group : PhaseGroup Entry) (predicate : Predicate Entry) :
    (group.push predicate).members = group.members ++ [predicate] := by
  simp [members, push]

end PhaseGroup

end PhaseAssertions
