import PhaseAssertions.Proofs.Course

/-!
# Three ways to conjoin verdicts

The verdicts of the members of a group can be combined by a search for the
first member that rejects, by an evaluation, or by chaining them from left to
right.  All three come to an end at the same member and answer with its
verdict.  They differ only in what they say when no member rejects: the search
says nothing, the evaluation names all members, and the chain repeats the last
verdict.

The members of two groups, one after the other, give the conjunction of the
two, in each of the three ways: the first group decides if it fails, and
otherwise the second one does.  The order of the members can change which of
them is blamed, but not whether the group passes.
-/

namespace PhaseAssertions

universe u

variable {Entry : Type u}

/-! ## Chains of verdicts -/

namespace Verdict

/-- `verdict`, and then the verdicts of `predicates` on `entry` from left to right. -/
def thenAll (verdict : Verdict) (entry : Entry) (predicates : List (Predicate Entry)) :
    Verdict :=
  predicates.foldl
    (fun verdict predicate => verdict.andThen fun _ => predicate.evaluate entry) verdict

variable {verdict : Verdict} {entry : Entry} {predicates : List (Predicate Entry)}

theorem thenAll_cons (predicate : Predicate Entry) :
    verdict.thenAll entry (predicate :: predicates) =
      (verdict.andThen fun _ => predicate.evaluate entry).thenAll entry predicates :=
  rfl

theorem thenAll_append (others : List (Predicate Entry)) :
    verdict.thenAll entry (predicates ++ others) =
      (verdict.thenAll entry predicates).thenAll entry others :=
  List.foldl_append

/-- A failure stays what it is, whatever comes behind it. -/
theorem thenAll_of_failed
    (failed : verdict.passed = false) (predicates : List (Predicate Entry)) :
    verdict.thenAll entry predicates = verdict := by
  have kept (predicate : Predicate Entry) :
      (verdict.andThen fun _ => predicate.evaluate entry) = verdict :=
    andThen_of_failed failed _
  exact List.foldl_fixed' kept predicates

theorem passed_thenAll
    (passed : verdict.passed = true)
    (accepted : ∀ predicate ∈ predicates, (predicate.evaluate entry).passed = true) :
    (verdict.thenAll entry predicates).passed = true := by
  induction predicates generalizing verdict with
  | nil => exact passed
  | cons predicate rest induction =>
      rw [List.forall_mem_cons] at accepted
      rw [thenAll_cons, andThen_of_passed passed]
      exact induction accepted.1 accepted.2

/-- A chain that starts with a conjunction is the conjunction with a chain. -/
theorem thenAll_andThen (next : Unit → Verdict) :
    (verdict.andThen next).thenAll entry predicates =
      verdict.andThen fun _ => (next ()).thenAll entry predicates := by
  cases passed : verdict.passed with
  | false =>
      rw [andThen_of_failed passed, andThen_of_failed passed, thenAll_of_failed passed]
  | true => rw [andThen_of_passed passed, andThen_of_passed passed]

end Verdict

namespace PhaseGroup

/-- The verdicts of the members, chained from left to right. -/
def chained (group : PhaseGroup Entry) (entry : Entry) : Verdict :=
  (group.first.evaluate entry).thenAll entry group.others

variable {group left right : PhaseGroup Entry} {entry : Entry}

/-- The chain of the members, behind a pass that does not count. -/
theorem chained_eq_thenAll (group : PhaseGroup Entry) (entry : Entry) :
    group.chained entry = (Verdict.pass "").thenAll entry group.members :=
  rfl

/-- A chain starts anew behind members that accept. -/
theorem chained_of_split
    {before after : List (Predicate Entry)} {member : Predicate Entry}
    (split : group.members = before ++ member :: after)
    (accepted : ∀ predicate ∈ before, (predicate.evaluate entry).passed = true) :
    group.chained entry = (member.evaluate entry).thenAll entry after := by
  have passed := Verdict.passed_thenAll (Verdict.passed_pass "") accepted
  rw [chained_eq_thenAll, split, Verdict.thenAll_append, Verdict.thenAll_cons,
    Verdict.andThen_of_passed passed]

/-! ## What a group answers -/

/--
The answers of a group about an entry: the verdict of its evaluation, its first
failure, the chain of its verdicts, and the members that were asked.
-/
inductive Answers (group : PhaseGroup Entry) (entry : Entry) :
    Verdict → Option (Predicate Entry × Verdict) → Verdict → List (Predicate Entry) →
      Prop where
  /-- All members accept the entry.  The evaluation gives the names of all of them. -/
  | accepted {before : List (Predicate Entry)} {last : Predicate Entry}
      (split : group.members = before ++ [last])
      (accepts : ∀ member ∈ group.members, (member.evaluate entry).passed = true) :
      Answers group entry
        (.pass (" and ".intercalate (group.members.map Predicate.name))) none
        (last.evaluate entry) group.members
  /-- A member rejects the entry, and those after it are not asked. -/
  | rejected {before after : List (Predicate Entry)} {rejecting : Predicate Entry}
      (split : group.members = before ++ rejecting :: after)
      (accepts : ∀ member ∈ before, (member.evaluate entry).passed = true)
      (rejects : (rejecting.evaluate entry).passed = false) :
      Answers group entry
        (rejecting.evaluate entry) (some (rejecting, rejecting.evaluate entry))
        (rejecting.evaluate entry) (before ++ [rejecting])

theorem answers (group : PhaseGroup Entry) (entry : Entry) :
    group.Answers entry (group.evaluate entry) (group.firstFailure? entry)
      (group.chained entry) (asked entry group.members) := by
  by_cases holds : group.Holds entry
  · obtain ⟨before, last, split⟩ :=
      (List.eq_nil_or_concat' group.members).resolve_left (List.cons_ne_nil _ _)
    have chain : group.chained entry = last.evaluate entry :=
      chained_of_split split fun member earlier =>
        holds member (split ▸ List.mem_append_left [last] earlier)
    have unfound := (group.firstFailure?_eq_none_iff entry).2 holds
    rw [evaluate_of_unfound unfound, unfound, chain, asked_throughout holds]
    exact .accepted split holds
  · obtain ⟨rejecting, before, after, split, accepts, rejects⟩ := exists_firstToReject holds
    have found : group.firstFailure? entry = some (rejecting, rejecting.evaluate entry) :=
      (group.firstFailure?_eq_some_iff entry _ _).2
        ⟨⟨before, after, split, accepts, rejects⟩, rfl⟩
    have chain : group.chained entry = rejecting.evaluate entry := by
      rw [chained_of_split split accepts, Verdict.thenAll_of_failed rejects]
    rw [evaluate_of_found found, found, chain, split, asked_upTo accepts rejects]
    exact .rejected split accepts rejects

theorem isSome_firstFailure? (group : PhaseGroup Entry) (entry : Entry) :
    (group.firstFailure? entry).isSome = (group.evaluate entry).failed := by
  rw [Bool.eq_iff_iff, failed_evaluate_iff, ← firstFailure?_eq_none_iff,
    Option.isSome_iff_ne_none]

/-! ## Two groups in one -/

theorem name_of_append (joined : group.members = left.members ++ right.members) :
    group.name = left.name ++ " and " ++ right.name := by
  rw [name, joined, List.map_append]
  exact String.intercalate_append_of_ne_nil (List.cons_ne_nil _ _) (List.cons_ne_nil _ _)

theorem firstFailure?_of_append
    (joined : group.members = left.members ++ right.members) (entry : Entry) :
    group.firstFailure? entry =
      (left.firstFailure? entry).or (right.firstFailure? entry) := by
  simp only [firstFailure?, find?_inquire, joined, List.findSome?_append]

theorem evaluate_of_append
    (joined : group.members = left.members ++ right.members) (entry : Entry) :
    group.evaluate entry =
      (left.evaluate entry).andThen fun _ =>
        (right.evaluate entry).andThen fun _ => .pass group.name := by
  have found := firstFailure?_of_append joined entry
  cases leftFound : left.firstFailure? entry with
  | some failure =>
      rw [leftFound, Option.some_or] at found
      rw [evaluate_of_found found, evaluate_of_found leftFound,
        Verdict.andThen_of_failed (failed_of_found leftFound)]
  | none =>
      rw [leftFound, Option.none_or] at found
      rw [evaluate_of_unfound leftFound, Verdict.andThen_of_passed (Verdict.passed_pass _)]
      cases rightFound : right.firstFailure? entry with
      | some failure =>
          rw [evaluate_of_found (found.trans rightFound), evaluate_of_found rightFound,
            Verdict.andThen_of_failed (failed_of_found rightFound)]
      | none =>
          rw [evaluate_of_unfound (found.trans rightFound), evaluate_of_unfound rightFound,
            Verdict.andThen_of_passed (Verdict.passed_pass _)]

theorem chained_of_append
    (joined : group.members = left.members ++ right.members) (entry : Entry) :
    group.chained entry =
      (left.chained entry).andThen fun _ => right.chained entry := by
  rw [chained_eq_thenAll, joined, Verdict.thenAll_append, ← chained_eq_thenAll]
  exact Verdict.thenAll_andThen fun _ => right.first.evaluate entry

theorem holds_iff_of_perm (permuted : left.members.Perm right.members) :
    left.Holds entry ↔ right.Holds entry :=
  forall_congr' fun _ => imp_congr_left permuted.mem_iff

/--
A group is the conjunction of its members, in order and with a short circuit.
It passes exactly when all of them accept the entry, under their names joined;
otherwise the first one to reject decides, and the search, the evaluation and
the chain of the verdicts agree on it.  A group with the members of two others
fails as the first of them does, or else as the second does, and passes under
the names of both.  Whether a group passes does not depend on the order of its
members.
-/
theorem evaluate_conjunction (group : PhaseGroup Entry) (entry : Entry) :
    ((group.evaluate entry).passed = true ↔
      ∀ member ∈ group.members, (member.evaluate entry).passed = true) ∧
    group.Answers entry (group.evaluate entry) (group.firstFailure? entry)
      (group.chained entry) (asked entry group.members) ∧
    (group.firstFailure? entry).isSome = (group.evaluate entry).failed ∧
    (∀ left right : PhaseGroup Entry,
      group.members = left.members ++ right.members →
        group.firstFailure? entry =
          (left.firstFailure? entry).or (right.firstFailure? entry) ∧
        (group.evaluate entry =
          (left.evaluate entry).andThen fun _ =>
            (right.evaluate entry).andThen fun _ =>
              .pass (left.name ++ " and " ++ right.name)) ∧
        group.chained entry =
          (left.chained entry).andThen fun _ => right.chained entry) ∧
    ∀ other : PhaseGroup Entry,
      other.members.Perm group.members →
        (other.evaluate entry).passed = (group.evaluate entry).passed := by
  refine
    ⟨group.passed_evaluate_iff entry, group.answers entry, group.isSome_firstFailure? entry,
      fun left right joined =>
        ⟨firstFailure?_of_append joined entry, ?_, chained_of_append joined entry⟩,
      fun other permuted => ?_⟩
  · rw [evaluate_of_append joined, name_of_append joined]
  · rw [Bool.eq_iff_iff, passed_evaluate_iff, passed_evaluate_iff]
    exact holds_iff_of_perm permuted

/-- Asks for the application windows with these titles, in this order. -/
def showing (first : String) (others : List String) : PhaseGroup WindowManagerEntry :=
  { first := WindowAssertion.predicate ⟨.layer .app, true⟩ first
    others := others.map (WindowAssertion.predicate ⟨.layer .app, true⟩) }

/-- Two of three windows are there, and one of these is visible. -/
def halfShown : WindowManagerEntry :=
  { timestamp := 0
    windows :=
      [ { title := "A", kind := .app, visible := true },
        { title := "B", kind := .app, visible := false } ] }

theorem halfShown_conjunction :
    (showing "A" ["B", "C"]).members =
      (showing "A" []).members ++ (showing "B" ["C"]).members ∧
    (showing "C" ["B", "A"]).members.Perm (showing "A" ["B", "C"]).members ∧
    (showing "A" ["B", "C"]).evaluate halfShown = .fail "B is invisible" ∧
    (showing "A" ["B", "C"]).chained halfShown = .fail "B is invisible" ∧
    (asked halfShown (showing "A" ["B", "C"]).members).map Predicate.name =
      ["shows_app_window(A)", "shows_app_window(B)"] ∧
    (showing "A" ["B", "C"]).evaluate halfShown = (showing "B" ["C"]).evaluate halfShown ∧
    (showing "C" ["B", "A"]).evaluate halfShown = .fail "app window C cannot be found" ∧
    ((showing "C" ["B", "A"]).evaluate halfShown).passed =
      ((showing "A" ["B", "C"]).evaluate halfShown).passed := by
  have permuted :
      (showing "C" ["B", "A"]).members.Perm (showing "A" ["B", "C"]).members :=
    List.reverse_perm (showing "A" ["B", "C"]).members
  obtain ⟨_, _, _, ofJoined, ofPermuted⟩ :=
    evaluate_conjunction (showing "A" ["B", "C"]) halfShown
  have evaluated := (ofJoined (showing "A" []) (showing "B" ["C"]) rfl).2.1
  rw [Verdict.andThen_of_passed (by decide), Verdict.andThen_of_failed (by decide)] at evaluated
  exact
    ⟨rfl, permuted, by decide, by decide, by decide, evaluated, by decide,
      ofPermuted _ permuted⟩

end PhaseGroup

end PhaseAssertions
