import PhaseAssertions.Proofs.Resolution
import PhaseAssertions.Proofs.Visibility

/-!
# Opposite assertions

The assertions of the library come in pairs, one that something is shown and one
that it is hidden.  The two look at the same things in the same order, so on any
stack they see the same, give the same reason for their verdicts, and differ in
these.  For the pair about the top of the applications this takes a proof, since
hiding is not defined as the negation of showing there but case by case.
-/

namespace PhaseAssertions

variable {part : String} {windows : List WindowState}

/-- An aspect is hidden exactly when it is not shown, for the same reason. -/
theorem WindowAspect.isHidden_eq_negate
    (aspect : WindowAspect) (entry : WindowManagerEntry) (part : String) :
    aspect.isHidden entry part = (aspect.isShown entry part).negate := by
  cases aspect with
  | layer kind => rfl
  | appOnTop =>
      simp only [isHidden, isShown, Verdict.andThen, Verdict.passed_negate]
      by_cases visible : (entry.isVisible .app part).passed = true
      · simp [visible]
      · simp [visible]

theorem WindowAssertion.passed_holds_iff
    (aspect : WindowAspect) (shown : Bool) (part : String) (entry : WindowManagerEntry) :
    (holds ⟨aspect, shown⟩ part entry).passed = true ↔
      (holds ⟨aspect, true⟩ part entry).passed = shown := by
  cases shown with
  | false => simp [holds, aspect.isHidden_eq_negate]
  | true => rfl

/-! ## What a pair sees -/

/--
What the assertions of a pair see in a stack, with the verdict on being shown.
The top of the applications is looked at only if the window is seen to be visible.
-/
inductive AspectSight (part : String) (windows : List WindowState) :
    WindowAspect → Verdict → Prop where
  | layer {kind : WindowKind} {verdict : Verdict}
      (sight : LayerSight kind part windows verdict) :
      AspectSight part windows (.layer kind) verdict
  | invisible {verdict : Verdict}
      (sight : LayerSight .app part windows verdict) (failed : verdict.passed = false) :
      AspectSight part windows .appOnTop verdict
  | visible {verdict top : Verdict}
      (sight : LayerSight .app part windows verdict) (passed : verdict.passed = true)
      (topSight : TopSight part windows top) :
      AspectSight part windows .appOnTop top

theorem WindowAspect.aspectSight
    (aspect : WindowAspect) (entry : WindowManagerEntry) (part : String) :
    AspectSight part entry.windows aspect (aspect.isShown entry part) := by
  cases aspect with
  | layer kind => exact .layer (entry.layerSight kind part)
  | appOnTop =>
      have sight := entry.layerSight .app part
      rw [isShown, Verdict.andThen]
      cases visible : (entry.isVisible .app part).passed with
      | false => exact .invisible sight visible
      | true => exact .visible sight visible (entry.topSight part)

/--
For each aspect the library has an assertion that it is shown and one that it is
hidden.  On every window stack the verdict of the latter is that of the former
negated: one passes if and only if the other fails, and both give as their
reason what is seen.
-/
theorem evaluate_hides (aspect : WindowAspect) :
    ∃ shows hides : WindowAssertion,
      WindowAssertion.ofName ("shows_" ++ aspect.name) = .ok shows ∧
      WindowAssertion.ofName ("hides_" ++ aspect.name) = .ok hides ∧
      ∀ (part : String) (entry : WindowManagerEntry),
        AspectSight part entry.windows aspect ((shows.predicate part).evaluate entry) ∧
        (hides.predicate part).evaluate entry =
          ((shows.predicate part).evaluate entry).negate ∧
        (((hides.predicate part).evaluate entry).passed = true ↔
          ((shows.predicate part).evaluate entry).failed = true) ∧
        ((hides.predicate part).evaluate entry).reason =
          ((shows.predicate part).evaluate entry).reason := by
  refine
    ⟨⟨aspect, true⟩, ⟨aspect, false⟩, WindowAssertion.ofName_eq_ok_iff.2 rfl,
      WindowAssertion.ofName_eq_ok_iff.2 rfl, fun part entry => ?_⟩
  have opposite :
      (WindowAssertion.predicate ⟨aspect, false⟩ part).evaluate entry =
        ((WindowAssertion.predicate ⟨aspect, true⟩ part).evaluate entry).negate :=
    aspect.isHidden_eq_negate entry part
  refine ⟨aspect.aspectSight entry part, opposite, ?_, ?_⟩
  · rw [opposite, Verdict.passed_negate, Verdict.failed]
  · rw [opposite, Verdict.reason_negate]

end PhaseAssertions
