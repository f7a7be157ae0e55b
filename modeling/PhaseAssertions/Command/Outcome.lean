import PhaseAssertions.Log.Record
import PhaseAssertions.Plan.Basic
import PhaseAssertions.Subject
import PhaseAssertions.Trace.Load

/-!
# Outcomes of commands

A command prints something, leaves records in the log and ends well or with an
error.  The exit code tells the kinds of errors apart: a verification that did
not pass, a plan that cannot be used, a file that is missing, a trace that
cannot be used, and a verification that was assembled wrongly.
-/

namespace PhaseAssertions

/-- Why a command did not end well. -/
inductive CommandError where
  | plan (cause : PlanError)
  | trace (cause : TraceError)
  | verify (cause : VerifyError)
deriving DecidableEq

def VerifyError.exitCode : VerifyError → Nat
  | .failed _ => 1
  | .misuse _ => 64

def PlanError.exitCode : PlanError → Nat
  | .missingFile _ => 3
  | _ => 2

theorem PlanError.exitCode_eq_or (cause : PlanError) :
    cause.exitCode = 2 ∨ cause.exitCode = 3 := by
  cases cause with
  | missingFile path => exact .inr rfl
  | _ => exact .inl rfl

def TraceError.exitCode : TraceError → Nat
  | .unreadable _ _ => 3
  | _ => 4

theorem TraceError.exitCode_eq_or (cause : TraceError) :
    cause.exitCode = 3 ∨ cause.exitCode = 4 := by
  cases cause with
  | unreadable path fault => exact .inl rfl
  | _ => exact .inr rfl

namespace CommandError

def exitCode : CommandError → Nat
  | .plan cause => cause.exitCode
  | .trace cause => cause.exitCode
  | .verify cause => cause.exitCode

/-- The wording of an error; a report is not repeated but counted. -/
def message : CommandError → String
  | .plan cause => cause.message
  | .trace cause => cause.message
  | .verify (.failed report) =>
    "verification failed (" ++ toString report.failures.length ++ " failure(s))"
  | .verify cause => cause.message

end CommandError

/-- What a command comes to. -/
structure CommandOutcome where
  output : String := ""
  error : Option CommandError := none
  records : List Log.Record := []
deriving DecidableEq

namespace CommandOutcome

def exitCode (outcome : CommandOutcome) : Nat :=
  outcome.error.elim 0 CommandError.exitCode

/-- What a command that did not end well says at its end. -/
def complaint (outcome : CommandOutcome) : String :=
  outcome.error.elim "" fun error => "error: " ++ error.message ++ "\n"

end CommandOutcome

end PhaseAssertions
