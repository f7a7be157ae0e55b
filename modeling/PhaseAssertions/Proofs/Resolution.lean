import Mathlib.Data.List.Forall2
import Mathlib.Data.List.Nodup
import Mathlib.Data.Set.List
import PhaseAssertions.Plan.Basic

/-!
# What a plan file resolves to

A plan file is resolved pair by pair.  A pair of a name and a window stands for
the assertion of that name about that window, so a resolved phase is as good as
the list of pairs that it was resolved from.

The main statements say which plans a file resolves to, and that it resolves to
one if its range is there where it is needed and every name that occurs in it
is the name of an assertion.
-/

namespace PhaseAssertions

/-! ## Names of assertions -/

namespace WindowAssertion

theorem mem_all (assertion : WindowAssertion) : assertion ∈ all := by
  rcases assertion with ⟨aspect, shown⟩
  cases aspect with
  | layer kind => cases kind <;> cases shown <;> decide
  | appOnTop => cases shown <;> decide

theorem name_injective {assertion other : WindowAssertion}
    (same : assertion.name = other.name) : assertion = other := by
  have distinct : (all.map name).Nodup := by decide
  exact List.inj_on_of_nodup_map distinct (mem_all assertion) (mem_all other) same

theorem ofName_eq_ok_iff {key : String} {assertion : WindowAssertion} :
    ofName key = .ok assertion ↔ assertion.name = key := by
  unfold ofName
  cases found : all.find? fun candidate => candidate.name = key with
  | none =>
      have unknown := List.find?_eq_none.1 found assertion (mem_all assertion)
      simpa using unknown
  | some known =>
      have named : known.name = key := by simpa using List.find?_some found
      constructor
      · intro same
        rw [← Except.ok.inj same]
        exact named
      · intro same
        rw [name_injective (named.trans same.symm)]

/-- The names that a plan file can use. -/
def names : List String :=
  [ "shows_above_app_window", "hides_above_app_window",
    "shows_below_app_window", "hides_below_app_window",
    "shows_ime_window", "hides_ime_window",
    "shows_app_window", "hides_app_window",
    "shows_app_window_on_top", "hides_app_window_on_top" ]

theorem mem_names_iff {key : String} :
    key ∈ names ↔ ∃ assertion : WindowAssertion, assertion.name = key := by
  have listed : names = all.map name := by decide
  rw [listed, List.mem_map]
  simp only [mem_all, true_and]

/-- A name is unknown exactly if it is not listed, and is answered with the nearest one. -/
theorem ofName_eq_error_iff {key : String} {unknown : UnknownAssertion} :
    ofName key = .error unknown ↔
      key ∉ names ∧ unknown = { name := key, suggestion := suggest? key } := by
  constructor
  · intro refused
    have unlisted : key ∉ names := by
      intro listed
      obtain ⟨assertion, named⟩ := mem_names_iff.1 listed
      rw [ofName_eq_ok_iff.2 named] at refused
      cases refused
    unfold ofName at refused
    split at refused
    · cases refused
    · exact ⟨unlisted, (Except.error.inj refused).symm⟩
  · rintro ⟨unlisted, rfl⟩
    unfold ofName
    split
    · next assertion found =>
        exact absurd (mem_names_iff.2 ⟨assertion, by simpa using List.find?_some found⟩) unlisted
    · rfl

end WindowAssertion

/-! ## Traversals -/

/-- A traversal succeeds exactly if every visit does. -/
theorem mapM_eq_ok_iff
    {Item Result Error : Type} {visit : Item → Except Error Result}
    {items : List Item} {results : List Result} :
    items.mapM visit = .ok results ↔
      List.Forall₂ (fun item result => visit item = .ok result) items results := by
  induction items generalizing results with
  | nil => cases results <;> simp [pure, Except.pure]
  | cons item rest induction =>
      rw [List.mapM_cons, List.forall₂_cons_left_iff]
      cases first : visit item with
      | error cause => simp [bind, Except.bind]
      | ok result =>
          cases later : rest.mapM visit with
          | error cause => simp [bind, Except.bind, ← induction, later]
          | ok others =>
              simp [bind, Except.bind, pure, Except.pure, ← induction, later, eq_comm]

theorem map_eq_map_iff_forall₂
    {Item Result View : Type} {view : Item → View} {viewed : Result → View}
    {items : List Item} {results : List Result} :
    results.map viewed = items.map view ↔
      List.Forall₂ (fun item result => viewed result = view item) items results := by
  rw [eq_comm, ← List.forall₂_eq_eq_eq, List.forall₂_map_left_iff,
    List.forall₂_map_right_iff]
  simp only [eq_comm]

/-- A traversal that keeps a view of every item keeps the views of all. -/
theorem mapM_eq_ok_iff_map_eq
    {Item Result View Error : Type} {visit : Item → Except Error Result}
    {view : Item → View} {viewed : Result → View}
    (kept : ∀ item result, visit item = .ok result ↔ viewed result = view item)
    {items : List Item} {results : List Result} :
    items.mapM visit = .ok results ↔ results.map viewed = items.map view := by
  rw [mapM_eq_ok_iff, map_eq_map_iff_forall₂]
  simp only [kept]

/-! ## Plans of a file -/

theorem TimestampRange.ofBounds?_eq_some_iff
    {first last : Int64} {bounds : TimestampRange} :
    ofBounds? first last = some bounds ↔ bounds.first = first ∧ bounds.last = last := by
  rcases bounds with ⟨least, greatest, inOrder⟩
  unfold ofBounds?
  by_cases ordered : first ≤ last
  · simp [ordered, eq_comm]
  · simp only [ordered, dite_false, reduceCtorEq, false_iff]
    rintro ⟨rfl, rfl⟩
    exact ordered inOrder

/-- The name and the window that an assertion is resolved from. -/
def PlanAssertion.pair (resolved : PlanAssertion) : String × String :=
  (resolved.assertion.name, resolved.window)

theorem PlanAssertion.exists_pair_eq_iff (pair : String × String) :
    (∃ resolved : PlanAssertion, resolved.pair = pair) ↔
      ∃ assertion : WindowAssertion, assertion.name = pair.1 := by
  constructor
  · rintro ⟨resolved, rfl⟩
    exact ⟨resolved.assertion, rfl⟩
  · rintro ⟨assertion, named⟩
    exact ⟨⟨assertion, pair.2⟩, Prod.ext named rfl⟩

/-- The evaluations that the mode and the range of a plan file ask for. -/
inductive PlanFile.AsksFor (file : PlanFile) : PlanEvaluation → Prop where
  | allEntries (mode : file.mode = .all) : AsksFor file .allEntries
  | range (bounds : TimestampRange)
      (mode : file.mode = .range)
      (range : file.range = some ⟨bounds.first, bounds.last⟩) :
      AsksFor file (.range bounds)
  | firstEntry (mode : file.mode = .first) : AsksFor file .firstEntry
  | lastEntry (mode : file.mode = .last) : AsksFor file .lastEntry

/-- Whether a plan says what a plan file does, with the names of assertions resolved. -/
structure Plan.StandsFor (plan : Plan) (file : PlanFile) : Prop where
  name : plan.name = file.name
  evaluation : file.AsksFor plan.evaluation
  skipUntilFirst : plan.skipUntilFirst = file.skipUntilFirst
  phases :
    plan.phases.map (List.map PlanAssertion.pair) =
      file.phases.map (List.flatMap TextMap.pairs)

namespace PlanFile

theorem evaluation_eq_ok_iff {file : PlanFile} {evaluation : PlanEvaluation} :
    file.evaluation = .ok evaluation ↔ file.AsksFor evaluation := by
  unfold PlanFile.evaluation
  constructor
  · intro asked
    split at asked
    · next mode =>
        cases asked
        exact .allEntries mode
    · next mode =>
        cases asked
        exact .firstEntry mode
    · next mode =>
        cases asked
        exact .lastEntry mode
    · next mode =>
        split at asked
        · next bounds found =>
            cases asked
            rcases Option.bind_eq_some_iff.1 found with ⟨range, given, ordered⟩
            rcases TimestampRange.ofBounds?_eq_some_iff.1 ordered with ⟨first, last⟩
            exact .range bounds mode (by rw [given, first, last])
        · cases asked
  · intro asked
    cases asked with
    | allEntries mode => simp only [mode]
    | firstEntry mode => simp only [mode]
    | lastEntry mode => simp only [mode]
    | range bounds mode given =>
        have ordered :
            TimestampRange.ofBounds? bounds.first bounds.last = some bounds :=
          TimestampRange.ofBounds?_eq_some_iff.2 ⟨rfl, rfl⟩
        simp only [mode, given, Option.bind_some, ordered]

/-- Whether the file has a range in order if its mode needs one. -/
def RangeGiven (file : PlanFile) : Prop :=
  file.mode = .range → ∃ range, file.range = some range ∧ range.first ≤ range.last

theorem exists_asksFor_iff (file : PlanFile) :
    (∃ evaluation, file.AsksFor evaluation) ↔ file.RangeGiven := by
  constructor
  · rintro ⟨evaluation, asked⟩ mode
    cases asked with
    | range bounds _ given => exact ⟨_, given, bounds.first_le_last⟩
    | allEntries other => simp [mode] at other
    | firstEntry other => simp [mode] at other
    | lastEntry other => simp [mode] at other
  · intro given
    cases mode : file.mode with
    | all => exact ⟨_, .allEntries mode⟩
    | first => exact ⟨_, .firstEntry mode⟩
    | last => exact ⟨_, .lastEntry mode⟩
    | range =>
        rcases given mode with ⟨range, found, ordered⟩
        exact ⟨_, .range ⟨range.first, range.last, ordered⟩ mode found⟩

theorem resolvePair_eq_ok_iff
    (pair : String × String) (resolved : PlanAssertion) :
    resolvePair pair = .ok resolved ↔ resolved.pair = pair := by
  unfold resolvePair
  rcases resolved with ⟨assertion, window⟩
  cases parsed : WindowAssertion.ofName pair.1 with
  | error unknown =>
      have other : assertion.name ≠ pair.1 := by
        intro named
        rw [WindowAssertion.ofName_eq_ok_iff.2 named] at parsed
        cases parsed
      simp [PlanAssertion.pair, Prod.ext_iff, other]
  | ok known =>
      have named := WindowAssertion.ofName_eq_ok_iff.1 parsed
      constructor
      · intro same
        cases same
        exact Prod.ext named rfl
      · rintro rfl
        rw [WindowAssertion.name_injective named]
        rfl

theorem resolvePhase_eq_ok_iff
    (phase : PhaseSpec) (resolved : List PlanAssertion) :
    resolvePhase phase = .ok resolved ↔
      resolved.map PlanAssertion.pair = phase.flatMap TextMap.pairs := by
  rw [resolvePhase, mapM_eq_ok_iff_map_eq resolvePair_eq_ok_iff, List.map_id']

/-- A plan file resolves to the plan that stands for it. -/
theorem resolve_eq_ok_iff {file : PlanFile} {plan : Plan} :
    file.resolve = .ok plan ↔ plan.StandsFor file := by
  rcases plan with ⟨name, evaluation, skipUntilFirst, phases⟩
  constructor
  · intro resolved
    unfold resolve at resolved
    cases asked : file.evaluation with
    | error cause => simp [asked, bind, Except.bind] at resolved
    | ok asksFor =>
        cases visited : file.phases.mapM resolvePhase with
        | error cause => simp [asked, visited, bind, Except.bind] at resolved
        | ok others =>
            simp only [asked, visited, bind, Except.bind, pure, Except.pure,
              Except.ok.injEq, Plan.mk.injEq] at resolved
            rcases resolved with ⟨rfl, rfl, rfl, rfl⟩
            exact
              ⟨rfl, evaluation_eq_ok_iff.1 asked, rfl,
                (mapM_eq_ok_iff_map_eq resolvePhase_eq_ok_iff).1 visited⟩
  · rintro ⟨rfl, asked, rfl, resolved⟩
    have evaluated := evaluation_eq_ok_iff.2 asked
    have visited := (mapM_eq_ok_iff_map_eq resolvePhase_eq_ok_iff).2 resolved
    simp only at evaluated visited
    simp [resolve, evaluated, visited, bind, Except.bind, pure, Except.pure]

/-- Files with the range they need and with known names only are those that resolve. -/
theorem exists_resolve_iff (file : PlanFile) :
    (∃ plan, file.resolve = .ok plan) ↔
      file.RangeGiven ∧
        ∀ phase ∈ file.phases, ∀ step ∈ phase, ∀ pair ∈ step.pairs,
          ∃ assertion : WindowAssertion, assertion.name = pair.1 := by
  have known :
      (∃ phases : List (List PlanAssertion),
        phases.map (List.map PlanAssertion.pair) =
          file.phases.map (List.flatMap TextMap.pairs)) ↔
        ∀ phase ∈ file.phases, ∀ step ∈ phase, ∀ pair ∈ step.pairs,
          ∃ assertion : WindowAssertion, assertion.name = pair.1 := by
    rw [← Set.mem_range, Set.range_list_map]
    simp only [Set.mem_ofPred_eq, List.forall_mem_map, Set.range_list_map, Set.mem_range,
      PlanAssertion.exists_pair_eq_iff, List.mem_flatMap]
    constructor
    · intro every phase member step inside pair paired
      exact every phase member pair ⟨step, inside, paired⟩
    · rintro every phase member pair ⟨step, inside, paired⟩
      exact every phase member step inside pair paired
  simp only [resolve_eq_ok_iff]
  rw [← exists_asksFor_iff, ← known]
  constructor
  · rintro ⟨plan, stands⟩
    exact ⟨⟨plan.evaluation, stands.evaluation⟩, plan.phases, stands.phases⟩
  · rintro ⟨⟨evaluation, asked⟩, phases, resolved⟩
    exact ⟨⟨file.name, evaluation, file.skipUntilFirst, phases⟩, rfl, asked, rfl, resolved⟩

end PlanFile

end PhaseAssertions
