import PhaseAssertions.Proofs.Advisories
import PhaseAssertions.Proofs.Outline

/-!
# Warnings about repeated phases while a checker is filled

A checker warns about a phase that repeats the one before it as soon as the
later of the two is complete: when the next phase is added, or at the start of a
test.  Its advisories are read off all groups at once.  The warnings of a
sequence of calls that ends in a test are these advisories.

The invariant is that the warnings so far are the advisories of the sealed
groups.  It is kept because only an added predicate seals a group, and what is
sealed is never touched again.
-/

namespace PhaseAssertions

universe u

variable {Entry : Type u}

/-! ## Warnings among events -/

namespace CheckEvent

/-- The phase that an event warns about, if it is such a warning. -/
def repeated? : CheckEvent → Option String
  | .phaseRepeats phase => some phase
  | .nothingToCheck _ _ | .noPhases | .started _ _ _ _ | .evaluated _ | .skipped _
  | .boundary _ _ _ | .finished _ => none

/-- The phases that are warned about, in the order of the warnings. -/
def warned (events : List CheckEvent) : List String :=
  events.filterMap repeated?

theorem warned_append (events more : List CheckEvent) :
    warned (events ++ more) = warned events ++ warned more :=
  List.filterMap_append

theorem warned_cons_of_silent
    {event : CheckEvent} (silent : event.repeated? = none) (events : List CheckEvent) :
    warned (event :: events) = warned events := by
  rw [warned, List.filterMap_cons, silent]
  rfl

end CheckEvent

open CheckEvent (warned warned_append warned_cons_of_silent)

variable [Snapshot Entry]

/-! ## What evaluations leave unsaid -/

theorem Cursor.warned_advance (cursor : Cursor Entry) (index : Nat) (entry : Entry) :
    warned (cursor.advance index entry).events = [] := by
  unfold Cursor.advance
  split
  · rfl
  · split
    · dsimp only
      split <;> rfl
    · rfl

theorem Cursor.warned_walk (cursor : Cursor Entry) (index : Nat) (entries : List Entry) :
    warned (cursor.walk index entries).events = [] := by
  induction entries generalizing cursor index with
  | nil => rfl
  | cons entry rest induction =>
      rw [walk]
      cases (cursor.advance index entry).outcome with
      | error failure => exact cursor.warned_advance index entry
      | ok next => rw [warned_append, warned_advance, induction, List.append_nil]

namespace Checker

theorem warned_scan (group : PhaseGroup Entry) (index : Nat) (entries : List Entry) :
    warned (scan group index entries).events = [] := by
  induction entries generalizing index with
  | nil => rfl
  | cons entry rest induction =>
      rw [scan]
      split
      · rfl
      · rw [warned_cons_of_silent rfl, induction]

theorem warned_checkBoundary
    (position index : Nat) (entry : Entry) (groups : List (PhaseGroup Entry)) :
    warned (checkBoundary position index entry groups).events = [] := by
  induction groups generalizing position with
  | nil => rfl
  | cons group rest induction =>
      rw [checkBoundary]
      cases group.firstFailure? entry with
      | some rejection => rfl
      | none => rw [warned_cons_of_silent rfl, induction]

theorem warned_evaluate
    (checker : Checker Entry) (first : PhaseGroup Entry) (later : List (PhaseGroup Entry))
    (entry : Entry) (rest : List Entry) :
    warned (checker.evaluate first later entry rest).events = [] := by
  unfold evaluate
  split
  · exact warned_checkBoundary ..
  · exact warned_checkBoundary ..
  · split
    · unfold walkFromFirst
      dsimp only
      split
      · exact warned_scan ..
      · rw [warned_append, warned_cons_of_silent rfl, warned_scan, Cursor.warned_walk,
          List.append_nil]
    · exact Cursor.warned_walk ..

/-- A test warns about the open group and about no other, as soon as it has entries. -/
theorem warned_run
    {checker : Checker Entry} {entries : List Entry}
    (evaluated : checker.selected entries ≠ []) :
    warned (checker.run entries).events = warned checker.openEvents := by
  rcases List.exists_cons_of_ne_nil evaluated with ⟨entry, rest, selection⟩
  rw [run, selection]
  cases declared : checker.groups with
  | nil =>
      have unopened : checker.opened = none := by simp_all [groups]
      simp [openEvents, unopened, warned, CheckEvent.repeated?]
  | cons first later =>
      have finished (count : Nat) : warned [.finished count] = [] := rfl
      dsimp only
      rw [warned_append, warned_append, warned_cons_of_silent rfl, warned_evaluate, finished,
        List.append_nil, List.append_nil]

/-! ## Warnings about sealed groups -/

theorem repeated_concat (names : List String) (last : String) :
    repeated (names ++ [last]) =
      repeated names ++ (if names.getLast? = some last then [last] else []) := by
  induction names with
  | nil => rfl
  | cons first rest induction =>
      cases rest with
      | nil => by_cases same : first = last <;> simp [repeated, same]
      | cons second rest =>
          rw [List.getLast?_cons_cons]
          simp only [List.cons_append] at induction ⊢
          by_cases same : first = second
          · simp [repeated, same, induction]
          · simp [repeated, same, induction]

/-- The names of the declared groups, in order. -/
def names (checker : Checker Entry) : List String :=
  checker.groups.map PhaseGroup.name

/-- The names of the sealed groups that equal the name before them. -/
def sealedAdvisories (checker : Checker Entry) : List String :=
  repeated (checker.complete.map PhaseGroup.name)

omit [Snapshot Entry] in
/-- The open group adds to the advisories what it would be warned about. -/
theorem advisories_eq (checker : Checker Entry) :
    checker.advisories = checker.sealedAdvisories ++ warned checker.openEvents := by
  rw [advisories, sealedAdvisories, groups, openEvents]
  cases checker.opened with
  | none => cases checker.complete.getLast? <;> simp [warned]
  | some group =>
      rw [Option.toList_some, List.map_append, List.map_singleton, repeated_concat,
        List.getLast?_map]
      cases checker.complete.getLast? with
      | none => rfl
      | some previous =>
          by_cases same : previous.name = group.name <;>
            simp [same, warned, CheckEvent.repeated?]

/-! ## Warnings of calls -/

/-- The events of a call: one that adds seals the open group, and one that tests runs. -/
def told (checker : Checker Entry) : Operation Entry → List CheckEvent
  | .add _ => checker.openEvents
  | .test entries => (checker.run entries).events
  | .append _ | .withinRange _ | .skippingUntilFirst | .atFirstEntry | .atLastEntry => []

/-- The events of a sequence of calls. -/
def log (checker : Checker Entry) : List (Operation Entry) → List CheckEvent
  | [] => []
  | operation :: rest =>
    checker.told operation ++ (checker.perform operation).checker.log rest

theorem log_append (checker : Checker Entry) (operations more : List (Operation Entry)) :
    checker.log (operations ++ more) =
      checker.log operations ++ (checker.after operations).log more := by
  induction operations generalizing checker with
  | nil => rfl
  | cons operation rest induction =>
      rw [List.cons_append, log, log, induction, after, List.append_assoc]

/-- Whether a call tests entries. -/
def Operation.tests : Operation Entry → Bool
  | .test _ => true
  | .add _ | .append _ | .withinRange _ | .skippingUntilFirst | .atFirstEntry
  | .atLastEntry => false

theorem complete_perform (checker : Checker Entry) (operation : Operation Entry) :
    (checker.perform operation).checker.complete =
      if operation.starts then checker.groups else checker.complete := by
  cases operation with
  | append predicate =>
      cases opened : checker.opened with
      | none => rw [perform_append_of_unopened opened]; rfl
      | some group => rw [perform_append_of_opened opened]; rfl
  | _ => rfl

/-- What a call warns about joins the advisories of the sealed groups. -/
theorem sealedAdvisories_perform
    (checker : Checker Entry) {operation : Operation Entry} (builds : operation.tests = false) :
    (checker.perform operation).checker.sealedAdvisories =
      checker.sealedAdvisories ++ warned (checker.told operation) := by
  rw [sealedAdvisories, complete_perform]
  cases operation with
  | add predicate => exact checker.advisories_eq
  | test entries => cases builds
  | _ => exact (List.append_nil _).symm

theorem sealedAdvisories_after
    (checker : Checker Entry) {operations : List (Operation Entry)}
    (build : ∀ operation ∈ operations, operation.tests = false) :
    (checker.after operations).sealedAdvisories =
      checker.sealedAdvisories ++ warned (checker.log operations) := by
  induction operations generalizing checker with
  | nil => exact (List.append_nil _).symm
  | cons operation rest induction =>
      rw [List.forall_mem_cons] at build
      rw [after, log, induction _ build.2, sealedAdvisories_perform checker build.1,
        warned_append, List.append_assoc]

/-! ## Sealed groups -/

theorem complete_prefix_after (checker : Checker Entry) (operations : List (Operation Entry)) :
    checker.complete <+: (checker.after operations).complete := by
  induction operations generalizing checker with
  | nil => exact List.prefix_refl _
  | cons operation rest induction =>
      have kept : checker.complete <+: (checker.perform operation).checker.complete := by
        rw [complete_perform]
        split
        · exact List.prefix_append _ _
        · exact List.prefix_refl _
      exact kept.trans (induction _)

theorem after_append (checker : Checker Entry) (operations more : List (Operation Entry)) :
    checker.after (operations ++ more) = (checker.after operations).after more := by
  induction operations generalizing checker with
  | nil => rfl
  | cons operation rest induction => exact induction _

/-- The groups that are there when a predicate is added stay as they are. -/
theorem groups_prefix_after
    (checker : Checker Entry) (before later : List (Operation Entry))
    (predicate : Predicate Entry) :
    (checker.after before).groups <+:
      (checker.after (before ++ .add predicate :: later)).groups := by
  rw [after_append]
  exact
    (complete_prefix_after ((checker.after before).add predicate) later).trans
      (List.prefix_append _ _)

/--
Calls that fill a fresh checker, in whatever order, and a test of some entries
behind them warn about exactly the phases that the checker then advises about:
those whose complete group has the name of the complete group before it, in
order.  A group that an added predicate seals, and that is compared with the one
before it at this moment, is not changed by any later call.
-/
theorem warned_of_calls
    (operations : List (Operation Entry))
    (build : ∀ operation ∈ operations, operation.tests = false)
    (entries : List Entry)
    (evaluated : (empty.after operations).selected entries ≠ []) :
    warned (empty.log (operations ++ [.test entries])) =
        (empty.after operations).advisories ∧
      (empty.after operations).advisories =
        namesAt (empty.after operations).names (repeatsName (empty.after operations).names) ∧
      ∀ before predicate later,
        operations = before ++ .add predicate :: later →
          (empty.after before).groups <+: (empty.after operations).groups := by
  refine ⟨?_, repeated_eq_namesAt _, ?_⟩
  · have filled := sealedAdvisories_after empty build
    have tested :
        warned ((empty.after operations).log [.test entries]) =
          warned (empty.after operations).openEvents := by
      rw [log, log, List.append_nil]
      exact warned_run evaluated
    rw [log_append, warned_append, tested, advisories_eq, filled]
    rfl
  · rintro before predicate later rfl
    exact groups_prefix_after empty before later predicate

/-- Calls of which the second starts a phase that repeats another until it is extended. -/
def stammeringCalls : List (Operation WindowManagerEntry) :=
  [ .append (showsApp "A"), .add (showsApp "A"), .add (showsApp "A"), .append (showsApp "B"),
    .atFirstEntry, .add (showsApp "A"), .add (showsApp "A") ]

theorem stammeringCalls_warned :
    warned (empty.log (stammeringCalls ++ [.test [⟨0, []⟩]])) = ["shows_app_window(A)"] ∧
      (empty.after (stammeringCalls.take 2)).groups <+: (empty.after stammeringCalls).groups := by
  rcases warned_of_calls stammeringCalls (by decide) [⟨0, []⟩] (List.cons_ne_nil _ _) with
    ⟨warned, _, kept⟩
  refine ⟨warned.trans (by decide), kept _ (showsApp "A") (stammeringCalls.drop 3) rfl⟩

end Checker

/-! ## Warnings of a verification -/

namespace Subject

open Checker (Operation)

/-- The call to the checker that a step of an assembly makes, if it makes one. -/
def call? (subject : Subject Entry) : Step Entry → Option (Operation Entry)
  | .declare predicate =>
    match subject.chain with
    | .newPhase => some (.add predicate)
    | .extendPhase => some (.append predicate)
  | .skipUntilFirst => some .skippingUntilFirst
  | .newPhase | .extendPhase => none

def calls (subject : Subject Entry) : List (Step Entry) → List (Operation Entry)
  | [] => []
  | step :: rest => (subject.call? step).toList ++ (subject.step step).calls rest

theorem checker_step (subject : Subject Entry) (step : Step Entry) :
    (subject.step step).checker = subject.checker.after (subject.call? step).toList := by
  cases step with
  | declare predicate =>
      rw [Subject.step, declare, call?]
      cases subject.chain with
      | newPhase => rfl
      | extendPhase =>
          simp only [Option.toList_some, Checker.after, Checker.perform]
          cases subject.checker.append predicate <;> rfl
  | _ => rfl

theorem stepEvents_eq_log (subject : Subject Entry) (step : Step Entry) :
    subject.stepEvents step = subject.checker.log (subject.call? step).toList := by
  cases step with
  | declare predicate =>
      rw [stepEvents, call?]
      cases subject.chain with
      | newPhase => exact (List.append_nil _).symm
      | extendPhase => rfl
  | _ => rfl

/-- Assembling a subject makes some calls to its checker, which tell all there is to tell. -/
theorem build_eq_calls (subject : Subject Entry) (steps : List (Step Entry)) :
    (subject.build steps).checker = subject.checker.after (subject.calls steps) ∧
      subject.buildEvents steps = subject.checker.log (subject.calls steps) := by
  induction steps generalizing subject with
  | nil => exact ⟨rfl, rfl⟩
  | cons step rest induction =>
      rcases induction (subject.step step) with ⟨checker, events⟩
      rw [checker_step] at checker events
      constructor
      · rw [calls, Checker.after_append, ← checker]
        rfl
      · rw [buildEvents, calls, Checker.log_append, events, stepEvents_eq_log]

theorem tests_calls (subject : Subject Entry) (steps : List (Step Entry)) :
    ∀ operation ∈ subject.calls steps, operation.tests = false := by
  induction steps generalizing subject with
  | nil => exact List.forall_mem_nil _
  | cons step rest induction =>
      rw [calls, List.forall_mem_append]
      refine ⟨?_, induction _⟩
      cases step with
      | declare predicate =>
          rw [call?]
          cases subject.chain <;> simp [Operation.tests]
      | _ => simp [call?, Operation.tests]

omit [Snapshot Entry] in
/-- A scope changes the settings of a checker and leaves its groups as they are. -/
theorem groups_inScope
    {checker focused : Checker Entry} {scope : Scope}
    (chosen : inScope checker scope = .ok focused) :
    focused.complete = checker.complete ∧ focused.opened = checker.opened := by
  cases scope with
  | between first last =>
      rw [inScope] at chosen
      cases bounds : TimestampRange.ofBounds first last with
      | ok range => rw [bounds] at chosen; cases chosen; exact ⟨rfl, rfl⟩
      | error cause => rw [bounds] at chosen; cases chosen
  | _ => cases chosen; exact ⟨rfl, rfl⟩

/--
A trace that is verified against assembled phases gives rise to the warnings
that the subject advises about: some while it is assembled, and that about the
last phase when its checker runs.
-/
theorem warned_of_assembly
    (trace : Trace Entry) (steps : List (Step Entry)) {scope : Scope} {focused : Checker Entry}
    (chosen : inScope ((ofTrace trace).build steps).checker scope = .ok focused)
    (evaluated : focused.selected trace.entries ≠ []) :
    warned ((ofTrace trace).buildEvents steps ++ (focused.run trace.entries).events) =
      ((ofTrace trace).build steps).advisories := by
  rcases groups_inScope chosen with ⟨complete, opened⟩
  rcases build_eq_calls (ofTrace trace) steps with ⟨built, events⟩
  have filled := Checker.sealedAdvisories_after .empty (tests_calls (ofTrace trace) steps)
  have sealing : focused.openEvents = ((ofTrace trace).build steps).checker.openEvents := by
    rw [Checker.openEvents, Checker.openEvents, complete, opened]
  rw [warned_append, Checker.warned_run evaluated, sealing, advisories, Checker.advisories_eq,
    events, built]
  exact congrArg (· ++ _) filled.symm

end Subject

end PhaseAssertions
