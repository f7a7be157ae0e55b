import Mathlib.Logic.Function.Iterate
import PhaseAssertions.Proofs.Opposites
import PhaseAssertions.Proofs.Verification

/-!
# Alternating programs

The two assertions of a pair are complements: a window stack satisfies exactly
one of them.  A program whose phases alternate between the two therefore hands
over exactly where the verdict of the one changes, and a trace satisfies it if
and only if its first entry satisfies the first phase and the verdict changes
once for each further phase.

The argument is about any two complementary phases.  Entries that satisfy the
first phase always traverse some alternating program, the one with a phase for
each change; since entries traverse a program up to one phase only, they
traverse no other.
-/

namespace PhaseAssertions

universe u v

/-! ## Alternating lists -/

section Lists

variable {α : Type u} {β : Type v}

/-- A list of `count` items that alternates between two, beginning with that of `shown`. -/
def alternating (item : Bool → α) (shown : Bool) : Nat → List α
  | 0 => []
  | count + 1 => item shown :: alternating item (!shown) count

theorem map_alternating (f : α → β) (item : Bool → α) (shown : Bool) (count : Nat) :
    (alternating item shown count).map f =
      alternating (fun polarity => f (item polarity)) shown count := by
  induction count generalizing shown with
  | zero => rfl
  | succ count induction => rw [alternating, List.map_cons, induction, alternating]

theorem alternating_concat (item : Bool → α) (shown : Bool) (count : Nat) :
    alternating item shown (count + 1) =
      alternating item shown count ++ [item (not^[count] shown)] := by
  induction count generalizing shown with
  | zero => rfl
  | succ count induction =>
      rw [alternating, induction, Function.iterate_succ_apply]
      rfl

@[simp]
theorem length_alternating (item : Bool → α) (shown : Bool) (count : Nat) :
    (alternating item shown count).length = count := by
  induction count generalizing shown with
  | zero => rfl
  | succ count induction => rw [alternating, List.length_cons, induction]

theorem take_alternating
    (item : Bool → α) (shown : Bool) {count total : Nat} (bounded : count ≤ total) :
    (alternating item shown total).take count = alternating item shown count := by
  induction total generalizing shown count with
  | zero =>
      obtain rfl : count = 0 := Nat.le_zero.1 bounded
      rfl
  | succ total induction =>
      cases count with
      | zero => rfl
      | succ count =>
          rw [alternating, List.take_succ_cons, induction _ (Nat.le_of_succ_le_succ bounded),
            alternating]

end Lists

/-! ## Changes -/

/-- The number of neighbours that differ. -/
def changes : List Bool → Nat
  | first :: second :: rest =>
    changes (second :: rest) + if first = second then 0 else 1
  | _ => 0

theorem changes_concat
    {values : List Bool} {last : Bool} (ends : values.getLast? = some last) (next : Bool) :
    changes (values ++ [next]) = changes values + if last = next then 0 else 1 := by
  induction values with
  | nil => simp at ends
  | cons first rest induction =>
      cases rest with
      | nil =>
          obtain rfl : first = last := by simpa using ends
          simp [changes]
      | cons second rest =>
          have continued := induction (by simpa using ends)
          simp only [List.cons_append, changes] at continued ⊢
          omega

/-- The last value is the first one, negated as often as the value changes. -/
theorem getLast?_eq_of_head?
    {values : List Bool} {first : Bool} (starts : values.head? = some first) :
    values.getLast? = some (not^[changes values] first) := by
  induction values generalizing first with
  | nil => simp at starts
  | cons value rest induction =>
      obtain rfl : value = first := by simpa using starts
      cases rest with
      | nil => rfl
      | cons second rest =>
          rw [List.getLast?_cons_cons, induction rfl, changes]
          by_cases same : value = second
          · rw [if_pos same, Nat.add_zero, same]
          · have opposite : (!value) = second := (Bool.eq_not.2 (Ne.symm same)).symm
            rw [if_neg same, Function.iterate_succ_apply, opposite]

/-! ## Complementary phases -/

variable {Entry : Type u}

/-- The phase at the head of a traversed program accepts the first entry. -/
theorem Traversed.exists_head
    {passed : List (PhaseGroup Entry)} {current : PhaseGroup Entry}
    {entries : List Entry} (traversed : Traversed passed current entries) :
    ∃ first entry,
      (passed ++ [current]).head? = some first ∧
        entries.head? = some entry ∧ first.Holds entry := by
  induction traversed with
  | enter accepted => exact ⟨_, _, rfl, rfl, accepted⟩
  | stay _ _ induction =>
      rcases induction with ⟨first, entry, program, starts, holds⟩
      exact ⟨first, entry, program, by simp [starts], holds⟩
  | handOver _ _ _ induction =>
      rcases induction with ⟨first, entry, program, starts, holds⟩
      refine ⟨first, entry, ?_, by simp [starts], holds⟩
      rw [List.head?_append, program, Option.some_or]

section Complementary

variable {phase : Bool → PhaseGroup Entry} {value : Entry → Bool}
variable {shown : Bool} {entries : List Entry}

/-- Entries traverse an alternating program with a hand-over at each change. -/
theorem traversed_alternating
    (complementary : ∀ polarity entry, (phase polarity).Holds entry ↔ value entry = polarity)
    (starts : (entries.map value).head? = some shown) :
    Traversed (alternating phase shown (changes (entries.map value)))
      (phase (not^[changes (entries.map value)] shown)) entries := by
  -- Phases are handed over at the end, so the last entry is taken off.
  induction entries using List.reverseRecOn with
  | nil => simp at starts
  | append_singleton seen entry induction =>
      cases seen with
      | nil =>
          have accepted : value entry = shown := by simpa using starts
          exact .enter ((complementary _ _).2 accepted)
      | cons first rest =>
          have started : ((first :: rest).map value).head? = some shown := by
            simpa using starts
          have traversed := induction started
          rw [List.map_append, List.map_singleton,
            changes_concat (getLast?_eq_of_head? started)]
          by_cases same : not^[changes ((first :: rest).map value)] shown = value entry
          · rw [if_pos same, Nat.add_zero]
            exact .stay traversed ((complementary _ _).2 same.symm)
          · rw [if_neg same, alternating_concat, Function.iterate_succ_apply']
            refine .handOver traversed ?_ ?_
            · rw [complementary]
              exact Ne.symm same
            · rw [complementary]
              exact Bool.eq_not.2 (Ne.symm same)

/-- A program of alternating phases is traversed by exactly as many changes as hand-overs. -/
theorem traverses_alternating_iff [Snapshot Entry]
    (complementary : ∀ polarity entry, (phase polarity).Holds entry ↔ value entry = polarity)
    (count : Nat) :
    Traverses (alternating phase shown (count + 1)) entries ↔
      (entries.map value).head? = some shown ∧ changes (entries.map value) = count := by
  constructor
  · intro traverses
    have starts : (entries.map value).head? = some shown := by
      rcases traverses with ⟨passed, current, program, traversed⟩
      rcases traversed.exists_head with ⟨first, entry, declared, starts, holds⟩
      rw [← program, alternating, List.head?_cons, Option.some.injEq] at declared
      rw [← declared, complementary] at holds
      rw [List.head?_map, starts, Option.map_some, holds]
    refine ⟨starts, ?_⟩
    -- Both programs are beginnings of the longer one of them.
    have other :
        Traverses (alternating phase shown (changes (entries.map value) + 1)) entries :=
      ⟨_, _, alternating_concat _ _ _, traversed_alternating complementary starts⟩
    have within := Nat.le_max_left (count + 1) (changes (entries.map value) + 1)
    have otherWithin := Nat.le_max_right (count + 1) (changes (entries.map value) + 1)
    rw [← take_alternating phase shown within] at traverses
    rw [← take_alternating phase shown otherWithin] at other
    have equal :=
      other.count_unique traverses
        (by rwa [length_alternating]) (by rwa [length_alternating])
    exact Nat.succ.inj equal
  · rintro ⟨starts, rfl⟩
    exact ⟨_, _, alternating_concat phase shown _, traversed_alternating complementary starts⟩

end Complementary

/-! ## Programs of single predicates -/

/-- Steps that declare a phase for each predicate, with a switch between any two. -/
def stepsInTurn (predicates : List (Predicate Entry)) : List (Step Entry) :=
  (predicates.map Step.declare).intersperse .newPhase

theorem Checker.configured_foldl_add
    (checker : Checker Entry) (predicates : List (Predicate Entry)) :
    (predicates.foldl add checker).Configured
      (checker.groups ++ predicates.map fun predicate => { first := predicate })
      checker.skipUntilFirst checker.mode checker.range := by
  induction predicates generalizing checker with
  | nil => exact ⟨(List.append_nil _).symm, rfl, rfl, rfl⟩
  | cons predicate rest induction =>
      have continued := induction (checker.add predicate)
      rw [groups_add, List.append_assoc] at continued
      exact continued

namespace Subject

variable [Snapshot Entry]

theorem build_stepsInTurn
    {subject : Subject Entry} (starting : subject.chain = .newPhase)
    (predicates : List (Predicate Entry)) :
    subject.build (stepsInTurn predicates) =
      { subject with checker := predicates.foldl Checker.add subject.checker } := by
  induction predicates generalizing subject with
  | nil => rfl
  | cons predicate rest induction =>
      have declared :
          subject.step (.declare predicate) =
            { subject with checker := subject.checker.add predicate } := by
        simp [step, declare, starting]
      cases rest with
      | nil => exact declared
      | cons next rest =>
          have switched :
              (subject.step (.declare predicate)).step .newPhase =
                { subject with checker := subject.checker.add predicate } := by
            rw [declared]
            simp [step, starting]
          rw [stepsInTurn, List.map_cons, List.map_cons, List.intersperse_cons_cons, build,
            List.foldl_cons, List.foldl_cons, switched]
          exact induction starting

/-- Single predicates in turn are satisfied by the traces that traverse their phases. -/
theorem verify_stepsInTurn_iff
    (trace : Trace Entry) {predicates : List (Predicate Entry)} (given : predicates ≠ []) :
    (((ofTrace trace).build (stepsInTurn predicates)).verify .allEntries).result = .ok () ↔
      Traverses (predicates.map fun predicate => { first := predicate }) trace.entries := by
  obtain ⟨groups, skips, mode, range⟩ :=
    Checker.configured_foldl_add (.empty : Checker Entry) predicates
  rw [Checker.groups_empty, List.nil_append] at groups
  have declared : (predicates.foldl Checker.add .empty).groups ≠ [] := by
    simpa [groups] using given
  have tells :
      Tells (((ofTrace trace).build (stepsInTurn predicates)).verify .allEntries).result
        ((predicates.foldl Checker.add .empty).test trace.entries) := by
    rw [build_stepsInTurn rfl]
    exact tells_verify id mode range rfl ⟨rfl, rfl, mode, range⟩
  rw [tells.1, Checker.test_eq_nil_iff mode skips declared, groups,
    Checker.selected_of_range_eq_none range]

end Subject

/-! ## Pairs of assertions -/

/-- Predicates that ask in turn for an aspect to be shown and to be hidden. -/
def WindowAspect.alternation
    (aspect : WindowAspect) (part : String) (shown : Bool) (count : Nat) :
    List (Predicate WindowManagerEntry) :=
  alternating (fun polarity => WindowAssertion.predicate ⟨aspect, polarity⟩ part) shown count

/--
A trace satisfies `count + 1` phases that alternate between showing and hiding
if and only if its first entry satisfies the first of them and the verdict on
being shown changes exactly `count` times between neighbouring entries.
-/
theorem verify_alternation_iff
    (aspect : WindowAspect) (part : String) (shown : Bool) (count : Nat)
    (trace : Trace WindowManagerEntry) :
    (((Subject.ofTrace trace).build
        (stepsInTurn (aspect.alternation part shown (count + 1)))).verify
          .allEntries).result = .ok () ↔
      (∃ first,
        trace.entries.head? = some first ∧
          (WindowAssertion.holds ⟨aspect, shown⟩ part first).passed = true) ∧
      changes
          (trace.entries.map fun entry =>
            (WindowAssertion.holds ⟨aspect, true⟩ part entry).passed) = count := by
  have complementary :
      ∀ polarity entry,
        ({ first := WindowAssertion.predicate ⟨aspect, polarity⟩ part } :
          PhaseGroup WindowManagerEntry).Holds entry ↔
          (WindowAssertion.holds ⟨aspect, true⟩ part entry).passed = polarity := by
    intro polarity entry
    rw [← WindowAssertion.passed_holds_iff]
    simp [PhaseGroup.Holds, PhaseGroup.members, WindowAssertion.predicate]
  have given : aspect.alternation part shown (count + 1) ≠ [] := List.cons_ne_nil _ _
  rw [Subject.verify_stepsInTurn_iff trace given, WindowAspect.alternation,
    map_alternating, traverses_alternating_iff complementary]
  simp only [List.head?_map, Option.map_eq_some_iff, WindowAssertion.passed_holds_iff aspect shown]

end PhaseAssertions
