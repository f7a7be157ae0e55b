import Mathlib.Data.List.Infix
import PhaseAssertions.Window.Assertion

/-!
# What a look at a window stack sees

A query about a layer looks at the first window of the layer that has a given
part in its title; a query about the top looks at the first visible application
window.  Either sees one of three things, and what it sees settles its verdict.

So a layer query passes exactly if some window that matches is visible, unless
a hidden one that matches stands in front of all of these: that window is then
the one that is seen, and it shadows the others.  An application window that is
asked to be on top has to be seen by both queries, so it can be shadowed, too.
-/

namespace PhaseAssertions

universe u

/-! ## The first of its kind -/

/-- Whether `item` is the first of some items that has a property. -/
def IsFirst {Item : Type u} (property : Item → Prop) (items : List Item) (item : Item) : Prop :=
  ∃ before after,
    items = before ++ item :: after ∧ property item ∧
      ∀ earlier ∈ before, ¬ property earlier

namespace IsFirst

variable {Item : Type u} {property : Item → Prop} {items : List Item} {item other : Item}

theorem holds (first : IsFirst property items item) : property item := by
  rcases first with ⟨_, _, _, holds, _⟩
  exact holds

theorem mem (first : IsFirst property items item) : item ∈ items := by
  rcases first with ⟨before, after, rfl, _, _⟩
  simp

theorem find?_eq_some_iff
    {test : Item → Bool} (decides : ∀ item, test item = true ↔ property item) :
    items.find? test = some item ↔ IsFirst property items item := by
  rw [List.find?_eq_some_iff_append]
  simp only [decides, IsFirst, Bool.not_eq_true', ← Bool.not_eq_true]
  tauto

theorem find?_eq_none_iff
    {test : Item → Bool} (decides : ∀ item, test item = true ↔ property item) :
    items.find? test = none ↔ ∀ item ∈ items, ¬ property item := by
  simp only [List.find?_eq_none, decides]

theorem unique
    (first : IsFirst property items item) (otherFirst : IsFirst property items other) :
    other = item := by
  classical
  have decides : ∀ item, decide (property item) = true ↔ property item := fun _ =>
    decide_eq_true_iff
  rw [← find?_eq_some_iff decides] at first otherFirst
  exact Option.some.inj (otherFirst.symm.trans first)

end IsFirst

/-! ## Windows that match -/

theorem occursIn_iff (part text : List Char) : occursIn part text = true ↔ part <:+: text := by
  induction text with
  | nil => simp [occursIn]
  | cons character rest induction =>
      rw [occursIn, Bool.or_eq_true, induction, List.isPrefixOf_iff_prefix, List.infix_cons_iff]

namespace WindowState

/-- Whether a window belongs to a layer and has a part in its title. -/
def Matches (kind : WindowKind) (part : String) (window : WindowState) : Prop :=
  window.kind = kind ∧ part.toList <:+: window.title.toList

/-- Whether a window is a visible application window. -/
def IsShownApp (window : WindowState) : Prop :=
  window.kind = .app ∧ window.visible = true

theorem titleHas_iff (window : WindowState) (part : String) :
    window.titleHas part = true ↔ part.toList <:+: window.title.toList :=
  occursIn_iff _ _

theorem matches_iff (window : WindowState) (kind : WindowKind) (part : String) :
    (window.kind = kind && window.titleHas part) = true ↔ window.Matches kind part := by
  rw [Bool.and_eq_true, decide_eq_true_eq, titleHas_iff, Matches]

theorem isShownApp_iff (window : WindowState) :
    (window.kind = .app && window.visible) = true ↔ window.IsShownApp := by
  rw [Bool.and_eq_true, decide_eq_true_eq, IsShownApp]

instance (kind : WindowKind) (part : String) (window : WindowState) :
    Decidable (window.Matches kind part) :=
  decidable_of_iff _ (window.matches_iff kind part)

instance (window : WindowState) : Decidable window.IsShownApp :=
  decidable_of_iff _ window.isShownApp_iff

end WindowState

/-! ## What is seen -/

variable {kind : WindowKind} {part : String} {windows : List WindowState}

/-- What a query about a layer sees in a stack, with its verdict. -/
inductive LayerSight (kind : WindowKind) (part : String) (windows : List WindowState) :
    Verdict → Prop where
  | missing (absent : ∀ window ∈ windows, ¬ window.Matches kind part) :
      LayerSight kind part windows (.fail (kind.label ++ " " ++ part ++ " cannot be found"))
  | hidden {window : WindowState}
      (first : IsFirst (WindowState.Matches kind part) windows window)
      (hidden : window.visible = false) :
      LayerSight kind part windows (.fail (window.title ++ " is invisible"))
  | visible {window : WindowState}
      (first : IsFirst (WindowState.Matches kind part) windows window)
      (visible : window.visible = true) :
      LayerSight kind part windows (.pass (window.title ++ " is visible"))

/-- What a query about the top of the applications sees in a stack, with its verdict. -/
inductive TopSight (part : String) (windows : List WindowState) : Verdict → Prop where
  | bare (absent : ∀ window ∈ windows, ¬ window.IsShownApp) :
      TopSight part windows (.fail "no visible app window found")
  /-- Another window is on top. -/
  | covered {top : WindowState}
      (first : IsFirst WindowState.IsShownApp windows top)
      (other : ¬ part.toList <:+: top.title.toList) :
      TopSight part windows (.fail (part ++ " is not on top, found " ++ top.title))
  | onTop {top : WindowState}
      (first : IsFirst WindowState.IsShownApp windows top)
      (titled : part.toList <:+: top.title.toList) :
      TopSight part windows (.pass (top.title ++ " is on top"))

theorem WindowManagerEntry.layerSight
    (entry : WindowManagerEntry) (kind : WindowKind) (part : String) :
    LayerSight kind part entry.windows (entry.isVisible kind part) := by
  have decides := fun window : WindowState => window.matches_iff kind part
  unfold isVisible
  split
  · next absent => exact .missing ((IsFirst.find?_eq_none_iff decides).1 absent)
  · next window found =>
      have first := (IsFirst.find?_eq_some_iff decides).1 found
      split
      · next visible => exact .visible first visible
      · next hidden => exact .hidden first (Bool.not_eq_true _ ▸ hidden)

theorem WindowManagerEntry.topSight (entry : WindowManagerEntry) (part : String) :
    TopSight part entry.windows (entry.isAppOnTop part) := by
  have decides := WindowState.isShownApp_iff
  unfold isAppOnTop
  split
  · next absent => exact .bare ((IsFirst.find?_eq_none_iff decides).1 absent)
  · next top found =>
      have first := (IsFirst.find?_eq_some_iff decides).1 found
      split
      · next titled => exact .onTop first ((top.titleHas_iff part).1 titled)
      · next untitled =>
          exact .covered first fun titled => untitled ((top.titleHas_iff part).2 titled)

/-! ## When a look is favourable -/

/-- Whether some window that matches is visible. -/
def AnyShown (kind : WindowKind) (part : String) (windows : List WindowState) : Prop :=
  ∃ window ∈ windows, window.Matches kind part ∧ window.visible = true

/-- Whether the first window that matches is hidden although one that matches is visible. -/
def Shadowed (kind : WindowKind) (part : String) (windows : List WindowState) : Prop :=
  AnyShown kind part windows ∧
    ∃ window,
      IsFirst (WindowState.Matches kind part) windows window ∧ window.visible = false

/-- Whether the first visible application window has a part in its title. -/
def TopTitled (part : String) (windows : List WindowState) : Prop :=
  ∃ top, IsFirst WindowState.IsShownApp windows top ∧ part.toList <:+: top.title.toList

theorem LayerSight.passed_iff
    {verdict : Verdict} (sight : LayerSight kind part windows verdict) :
    verdict.passed = true ↔
      AnyShown kind part windows ∧ ¬ Shadowed kind part windows := by
  cases sight with
  | missing absent =>
      simp only [Verdict.passed_fail, Bool.false_eq_true, false_iff]
      rintro ⟨⟨window, member, isMatch, _⟩, _⟩
      exact absent window member isMatch
  | hidden first hidden =>
      simp only [Verdict.passed_fail, Bool.false_eq_true, false_iff]
      rintro ⟨shown, unshadowed⟩
      exact unshadowed ⟨shown, _, first, hidden⟩
  | @visible window first visible =>
      simp only [Verdict.passed_pass, true_iff]
      refine ⟨⟨window, first.mem, first.holds, visible⟩, ?_⟩
      rintro ⟨_, other, otherFirst, hidden⟩
      rw [first.unique otherFirst, visible] at hidden
      cases hidden

theorem TopSight.passed_iff {verdict : Verdict} (sight : TopSight part windows verdict) :
    verdict.passed = true ↔ TopTitled part windows := by
  cases sight with
  | bare absent =>
      simp only [Verdict.passed_fail, Bool.false_eq_true, false_iff]
      rintro ⟨top, first, _⟩
      exact absent top first.mem first.holds
  | covered first other =>
      simp only [Verdict.passed_fail, Bool.false_eq_true, false_iff]
      rintro ⟨top, otherFirst, titled⟩
      exact other (first.unique otherFirst ▸ titled)
  | onTop first titled =>
      simp only [Verdict.passed_pass, true_iff]
      exact ⟨_, first, titled⟩

/-- A window on top is a visible one that matches. -/
theorem TopTitled.anyShown (titled : TopTitled part windows) :
    AnyShown .app part windows := by
  rcases titled with ⟨top, first, hasPart⟩
  exact ⟨top, first.mem, ⟨first.holds.1, hasPart⟩, first.holds.2⟩

theorem WindowAspect.passed_isShown_appOnTop_iff (entry : WindowManagerEntry) (part : String) :
    (appOnTop.isShown entry part).passed = true ↔
      TopTitled part entry.windows ∧ ¬ Shadowed .app part entry.windows := by
  have layer := (entry.layerSight .app part).passed_iff
  have top := (entry.topSight part).passed_iff
  rw [isShown, Verdict.andThen]
  by_cases visible : (entry.isVisible .app part).passed = true
  · rw [if_pos visible, top]
    exact (and_iff_left (layer.1 visible).2).symm
  · rw [if_neg visible]
    simp only [visible, false_iff, Bool.false_eq_true]
    rintro ⟨titled, unshadowed⟩
    exact visible (layer.2 ⟨titled.anyShown, unshadowed⟩)

/--
An assertion that a layer shows a window passes if and only if some window that
matches is visible and not shadowed by a hidden one, and an application window
is shown to be on top if and only if the first visible application window has
the part in its title and is not shadowed either.
-/
theorem passed_shows_iff (part : String) (entry : WindowManagerEntry) :
    (∀ kind,
      ((entry.isVisible kind part).passed = true ↔
        AnyShown kind part entry.windows ∧ ¬ Shadowed kind part entry.windows) ∧
      (((WindowAssertion.predicate ⟨.layer kind, true⟩ part).evaluate entry).passed = true ↔
        AnyShown kind part entry.windows ∧ ¬ Shadowed kind part entry.windows)) ∧
    (((WindowAssertion.predicate ⟨.appOnTop, true⟩ part).evaluate entry).passed = true ↔
      TopTitled part entry.windows ∧ ¬ Shadowed .app part entry.windows) := by
  refine ⟨fun kind => ?_, WindowAspect.passed_isShown_appOnTop_iff entry part⟩
  have seen := (entry.layerSight kind part).passed_iff
  exact ⟨seen, seen⟩

/-- A stack in which a hidden window stands in front of a visible one of the same application. -/
def cameras : WindowManagerEntry :=
  { timestamp := 0
    windows :=
      [ { title := "Camera A", kind := .app, visible := false },
        { title := "Camera B", kind := .app, visible := true } ] }

/-- A window can be visible, and be on top, without being shown. -/
theorem cameras_shadowed :
    (¬ ∀ part entry,
      ((WindowAssertion.predicate ⟨.layer .app, true⟩ part).evaluate entry).passed = true ↔
        AnyShown .app part entry.windows) ∧
    ¬ ∀ part entry,
      ((WindowAssertion.predicate ⟨.appOnTop, true⟩ part).evaluate entry).passed = true ↔
        TopTitled part entry.windows := by
  have titled : TopTitled "Camera" cameras.windows :=
    ⟨_, ⟨[_], [], rfl, by decide, by decide⟩, by decide⟩
  constructor
  · intro claimed
    have passed := (claimed "Camera" cameras).2 titled.anyShown
    revert passed
    decide
  · intro claimed
    have passed := (claimed "Camera" cameras).2 titled
    revert passed
    decide

end PhaseAssertions
