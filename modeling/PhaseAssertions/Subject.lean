import PhaseAssertions.Checker.Test
import PhaseAssertions.Report

/-!
# Subjects of a verification

A subject pairs a trace with a checker that is filled step by step.  A
declared predicate starts a new phase or joins the current one, according to
the last switch before it; the switch stays until it is set again.  Joining
before any phase was started is a misuse: the first one is remembered, the
predicate is dropped, and every evaluation then returns the misuse without
asking a predicate.
-/

namespace PhaseAssertions

universe u

/-- How the next declared predicate joins the program. -/
inductive Chain where
  | newPhase
  | extendPhase
deriving DecidableEq, Inhabited

/-- One step in assembling a verification. -/
inductive Step (Entry : Type u) where
  | declare (predicate : Predicate Entry)
  /-- Lets the predicates that follow start new phases. -/
  | newPhase
  /-- Lets the predicates that follow join the current phase. -/
  | extendPhase
  | skipUntilFirst

/-- Which entries a verification looks at. -/
inductive Scope where
  | allEntries
  /-- The entries between two timestamps, both included. -/
  | between (first last : Int64)
  | firstEntry
  | lastEntry
deriving DecidableEq

/-- Why a verification did not pass. -/
inductive VerifyError where
  | misuse (cause : Misuse)
  | failed (report : FailureReport)
deriving DecidableEq

def VerifyError.message : VerifyError → String
  | .misuse cause => "builder misuse: " ++ cause.message
  | .failed report => report.text

/-- Something a verification reports while it works. -/
inductive VerifyEvent where
  | check (event : CheckEvent)
  | passed (trace : String) (mode : CheckMode)
  | failed (trace : String) (failures : Nat)
deriving DecidableEq

/-- The result of a verification, with the events on the way. -/
structure Verification where
  result : Except VerifyError Unit
  events : List VerifyEvent

/-- A trace together with the phases declared for it so far. -/
structure Subject (Entry : Type u) [Snapshot Entry] where
  trace : Trace Entry
  checker : Checker Entry := .empty
  /-- How the next declared predicate joins them. -/
  chain : Chain := .newPhase
  /-- The first misuse, if there was one. -/
  misuse : Option Misuse := none

namespace Subject

variable {Entry : Type u} [Snapshot Entry]

def ofTrace (trace : Trace Entry) : Subject Entry :=
  { trace }

/-- Declares a predicate according to the current switch. -/
def declare (subject : Subject Entry) (predicate : Predicate Entry) :
    Subject Entry :=
  match subject.chain with
  | .newPhase => { subject with checker := subject.checker.add predicate }
  | .extendPhase =>
    match subject.checker.append predicate with
    | .ok checker => { subject with checker }
    | .error misuse => { subject with misuse := subject.misuse.or (some misuse) }

def step (subject : Subject Entry) : Step Entry → Subject Entry
  | .declare predicate => subject.declare predicate
  | .newPhase => { subject with chain := .newPhase }
  | .extendPhase => { subject with chain := .extendPhase }
  | .skipUntilFirst =>
    { subject with checker := subject.checker.skippingUntilFirst }

def build (subject : Subject Entry) (steps : List (Step Entry)) : Subject Entry :=
  steps.foldl step subject

/-- The events that a step gives rise to: sealing a phase that repeats another. -/
def stepEvents (subject : Subject Entry) : Step Entry → List CheckEvent
  | .declare _ =>
    match subject.chain with
    | .newPhase => subject.checker.openEvents
    | .extendPhase => []
  | _ => []

def buildEvents (subject : Subject Entry) : List (Step Entry) → List CheckEvent
  | [] => []
  | step :: rest =>
    subject.stepEvents step ++ (subject.step step).buildEvents rest

/-- The names of the phases that repeat the phase before them. -/
def advisories (subject : Subject Entry) : List String :=
  subject.checker.advisories

/-- The checker for a scope, unless the scope is a range out of order. -/
def inScope (checker : Checker Entry) : Scope → Except Misuse (Checker Entry)
  | .allEntries => .ok checker
  | .between first last =>
    match TimestampRange.ofBounds first last with
    | .ok range => .ok (checker.withinRange range)
    | .error misuse => .error misuse
  | .firstEntry => .ok checker.atFirstEntry
  | .lastEntry => .ok checker.atLastEntry

/-- Runs a checker on the trace of the subject and reports the outcome. -/
def check (subject : Subject Entry) (checker : Checker Entry) : Verification :=
  let outcome := checker.run subject.trace.entries
  let events := outcome.events.map VerifyEvent.check
  match outcome.failures with
  | [] =>
    { result := .ok ()
      events := events ++ [.passed subject.trace.text checker.mode] }
  | failures =>
    { result := .error (.failed (.ofTrace subject.trace failures))
      events := events ++ [.failed subject.trace.text failures.length] }

/--
Verifies the trace.  A range out of order is reported first, then a misuse
while assembling; only then are predicates asked.
-/
def verify (subject : Subject Entry) (scope : Scope) : Verification :=
  match inScope subject.checker scope, subject.misuse with
  | .error misuse, _ => { result := .error (.misuse misuse), events := [] }
  | .ok _, some misuse => { result := .error (.misuse misuse), events := [] }
  | .ok checker, none => subject.check checker

end Subject

end PhaseAssertions
