/-!
# Verdicts

A verdict is the outcome of one predicate on one snapshot: whether it held,
and a reason that describes what was observed.  Because the reason describes
the snapshot and not the expectation, a negated verdict keeps it.
-/

namespace PhaseAssertions

/-- The outcome of one predicate on one snapshot. -/
structure Verdict where
  passed : Bool
  /-- What was observed, in words that fit either outcome. -/
  reason : String
deriving DecidableEq, Inhabited

namespace Verdict

def pass (reason : String) : Verdict :=
  { passed := true, reason }

def fail (reason : String) : Verdict :=
  { passed := false, reason }

def failed (verdict : Verdict) : Bool :=
  !verdict.passed

/-- The opposite outcome for the same observation. -/
def negate (verdict : Verdict) : Verdict :=
  { verdict with passed := !verdict.passed }

/--
Conjunction in order: a failing verdict decides and `next` is not asked for,
otherwise `next` decides.
-/
def andThen (verdict : Verdict) (next : Unit → Verdict) : Verdict :=
  if verdict.passed then next () else verdict

def text (verdict : Verdict) : String :=
  (if verdict.passed then "passed: " else "failed: ") ++ verdict.reason

@[simp]
theorem passed_pass (reason : String) : (pass reason).passed = true :=
  rfl

@[simp]
theorem passed_fail (reason : String) : (fail reason).passed = false :=
  rfl

@[simp]
theorem passed_negate (verdict : Verdict) :
    verdict.negate.passed = !verdict.passed :=
  rfl

@[simp]
theorem reason_negate (verdict : Verdict) :
    verdict.negate.reason = verdict.reason :=
  rfl

@[simp]
theorem negate_negate (verdict : Verdict) : verdict.negate.negate = verdict := by
  simp [negate]

theorem andThen_of_passed
    {verdict : Verdict} (passed : verdict.passed = true) (next : Unit → Verdict) :
    verdict.andThen next = next () :=
  if_pos passed

theorem andThen_of_failed
    {verdict : Verdict} (failed : verdict.passed = false) (next : Unit → Verdict) :
    verdict.andThen next = verdict :=
  if_neg (Bool.eq_false_iff.1 failed)

end Verdict

end PhaseAssertions
