import PhaseAssertions.Proofs.EditDistance
import PhaseAssertions.Proofs.Resolution

/-!
# Suggestions for misspelt names

A name that is not known is answered with the nearest known name, the first of
those that are equally near, unless three edits do not lead to any of them.

The known names are far apart: no two edits lead from one to another.  As the
distance obeys the triangle inequality, a name that one edit leads to is nearer
than any other.
-/

namespace PhaseAssertions.WindowAssertion

open Text (editDistance editDistance_le_iff editDistance_comm editDistance_triangle)

/-! ## The nearest name -/

/-- Whether a name is the first among the nearest of some names. -/
def IsNearest (input : String) (known : List String) (name : String) : Prop :=
  ∃ before after,
    known = before ++ name :: after ∧
      (∀ other ∈ known, editDistance input name ≤ editDistance input other) ∧
      ∀ other ∈ before, editDistance input name < editDistance input other

theorem IsNearest.unique
    {input : String} {known : List String} {name other : String}
    (nearest : IsNearest input known name) (another : IsNearest input known other) :
    name = other := by
  rcases nearest with ⟨before, after, split, least, earlier⟩
  rcases another with ⟨otherBefore, otherAfter, otherSplit, otherLeast, otherEarlier⟩
  have atMost := otherLeast name (by simp [split])
  have atLeast := least other (by simp [otherSplit])
  rw [split] at otherSplit
  rcases List.append_eq_append_iff.1 otherSplit with
    ⟨between, joined, rest⟩ | ⟨between, joined, rest⟩
  · cases between with
    | nil =>
        cases rest
        rfl
    | cons next between =>
        cases rest
        have nearer := otherEarlier name (by simp [joined])
        omega
  · cases between with
    | nil =>
        cases rest
        rfl
    | cons next between =>
        cases rest
        have nearer := earlier other (by simp [joined])
        omega

theorem nearest?_eq_none_iff {input : String} {known : List String} :
    nearest? input known = none ↔ known = [] := by
  cases known with
  | nil => exact ⟨fun _ => rfl, fun _ => rfl⟩
  | cons first rest =>
      rw [nearest?]
      cases nearest? input rest with
      | none => simp
      | some nearest =>
          dsimp only
          split <;> simp

theorem isNearest_of_nearest?
    {input : String} {known : List String} {name : String} {distance : Nat}
    (found : nearest? input known = some (name, distance)) :
    distance = editDistance input name ∧ IsNearest input known name := by
  induction known generalizing name distance with
  | nil => cases found
  | cons first rest induction =>
      rw [nearest?] at found
      cases later : nearest? input rest with
      | none =>
          obtain rfl := nearest?_eq_none_iff.1 later
          rw [later] at found
          cases found
          exact ⟨rfl, [], [], rfl, by simp, by simp⟩
      | some nearest =>
          rcases nearest with ⟨other, least⟩
          rcases induction later with ⟨rfl, before, after, split, leastOfRest, earlier⟩
          rw [later] at found
          dsimp only at found
          by_cases nearer : editDistance input first ≤ editDistance input other
          · rw [if_pos nearer] at found
            cases found
            refine ⟨rfl, [], rest, rfl, ?_, by simp⟩
            rw [List.forall_mem_cons]
            exact ⟨Nat.le_refl _, fun name member =>
              Nat.le_trans nearer (leastOfRest name member)⟩
          · rw [if_neg nearer] at found
            cases found
            have further := Nat.lt_of_not_le nearer
            refine ⟨rfl, first :: before, after, by rw [split]; rfl, ?_, ?_⟩
            · rw [List.forall_mem_cons]
              exact ⟨Nat.le_of_lt further, leastOfRest⟩
            · rw [List.forall_mem_cons]
              exact ⟨further, earlier⟩

theorem exists_isNearest (input : String) {known : List String} (some_known : known ≠ []) :
    ∃ name, nearest? input known = some (name, editDistance input name) ∧
      IsNearest input known name := by
  cases found : nearest? input known with
  | none => exact absurd (nearest?_eq_none_iff.1 found) some_known
  | some nearest =>
      rcases nearest with ⟨name, distance⟩
      rcases isNearest_of_nearest? found with ⟨rfl, isNearest⟩
      exact ⟨name, rfl, isNearest⟩

/-- The nearest known name is suggested if it is within reach. -/
theorem exists_nearest_name (input : String) :
    ∃ name, IsNearest input names name ∧
      suggest? input =
        if editDistance input name ≤ suggestionReach then some name else none := by
  have some_known : names ≠ [] := List.cons_ne_nil _ _
  rcases exists_isNearest input some_known with ⟨name, found, isNearest⟩
  refine ⟨name, isNearest, ?_⟩
  have listed : all.map WindowAssertion.name = names := rfl
  unfold suggest?
  rw [listed, found]

theorem suggest?_eq_some_iff {input name : String} :
    suggest? input = some name ↔
      IsNearest input names name ∧ editDistance input name ≤ 3 := by
  rcases exists_nearest_name input with ⟨nearest, isNearest, suggested⟩
  rw [suggested, Option.ite_none_right_eq_some, Option.some.injEq, suggestionReach]
  constructor
  · rintro ⟨near, rfl⟩
    exact ⟨isNearest, near⟩
  · rintro ⟨another, near⟩
    obtain rfl := isNearest.unique another
    exact ⟨near, rfl⟩

theorem suggest?_eq_none_iff {input : String} :
    suggest? input = none ↔ ∀ name ∈ names, 3 < editDistance input name := by
  rcases exists_nearest_name input with ⟨nearest, isNearest, suggested⟩
  rcases isNearest with ⟨before, after, split, least, _⟩
  have absent : suggest? input = none ↔ 3 < editDistance input nearest := by
    rw [suggested, suggestionReach]
    split <;> simp <;> omega
  rw [absent]
  constructor
  · intro far name member
    exact Nat.lt_of_lt_of_le far (least name member)
  · intro far
    exact far nearest (by simp [split])

/-! ## Distances between names -/

/-- An edit adds at most one letter of a kind, so many letters more take many edits. -/
theorem le_editDistance_of_countP
    {source target : String} {kind : Char → Bool} {bound : Nat}
    (more : source.toList.countP kind + bound ≤ target.toList.countP kind) :
    bound ≤ editDistance source target := by
  have counted := (editDistance_le_iff.1 (Nat.le_refl (editDistance source target))).countP_le kind
  omega

/-- Letters of which most names have different numbers. -/
def tellingLetters : List (List Char) :=
  [['_', 'b', 'o', 'p'], ['_', 'd', 'n', 'p'], ['d', 'e', 'i', 'm']]

/-- Whether one of two names has three letters more of those given than the other. -/
def ToldBy (letters : List Char) (name other : String) : Prop :=
  name.toList.countP letters.contains + 3 ≤ other.toList.countP letters.contains ∨
    other.toList.countP letters.contains + 3 ≤ name.toList.countP letters.contains

instance (letters : List Char) (name other : String) : Decidable (ToldBy letters name other) :=
  inferInstanceAs (Decidable (_ ∨ _))

theorem ToldBy.le_editDistance
    {letters : List Char} {name other : String} (told : ToldBy letters name other) :
    3 ≤ editDistance name other := by
  rcases told with more | more
  · exact le_editDistance_of_countP more
  · rw [editDistance_comm]
    exact le_editDistance_of_countP more

/-- Only of the names that say above and below the distance has to be computed. -/
theorem names_told :
    names.Pairwise fun name other =>
      (∃ letters ∈ tellingLetters, ToldBy letters name other) ∨
        3 ≤ editDistance name other := by
  decide +kernel

/-- No two edits lead from one known name to another. -/
theorem names_apart :
    ∀ name ∈ names, ∀ other ∈ names, name ≠ other → 3 ≤ editDistance name other := by
  have apart : names.Pairwise fun name other => name ≠ other → 3 ≤ editDistance name other := by
    refine names_told.imp ?_
    rintro name other (⟨letters, _, told⟩ | computed) _
    · exact told.le_editDistance
    · exact computed
  have flipped : names.Pairwise fun name other => other ≠ name → 3 ≤ editDistance other name := by
    refine apart.imp ?_
    intro name other far differ
    rw [editDistance_comm]
    exact far differ.symm
  intro name known other member
  exact List.Pairwise.forall_of_forall_of_flip (fun _ _ differ => absurd rfl differ) apart flipped
    known member

/-- A known name that one edit leads to is nearer than all others. -/
theorem isNearest_of_single_edit
    {input name : String} (known : name ∈ names) (close : editDistance input name ≤ 1) :
    IsNearest input names name := by
  have nearer : ∀ other ∈ names, name ≠ other →
      editDistance input name < editDistance input other := by
    intro other member differ
    have apart := names_apart name known other member differ
    have detour := editDistance_triangle name input other
    rw [editDistance_comm name input] at detour
    omega
  rcases List.append_of_mem known with ⟨before, after, split⟩
  have distinct : names.Nodup := by decide
  refine ⟨before, after, split, ?_, ?_⟩
  · intro other member
    by_cases same : name = other
    · rw [same]
    · exact Nat.le_of_lt (nearer other member same)
  · intro other earlier
    refine nearer other (by simp [split, earlier]) ?_
    rintro rfl
    rw [split, List.nodup_append] at distinct
    exact distinct.2.2 name earlier name (by simp) rfl

/-! ## Parsing names -/

/--
A text is parsed as an assertion exactly if it is its name, and is otherwise
answered with itself and a suggestion: none if more than three edits lead to
every known name, and else the first of the nearest ones.  A known name that at
most one edit leads to is always the one suggested.
-/
theorem ofName_suggests (input : String) :
    (∀ assertion, ofName input = .ok assertion ↔ input = assertion.name) ∧
      ((∀ assertion : WindowAssertion, input ≠ assertion.name) →
        ofName input = .error { name := input, suggestion := suggest? input }) ∧
      (suggest? input = none ↔ ∀ name ∈ names, 3 < editDistance input name) ∧
      (∀ name,
        suggest? input = some name ↔
          editDistance input name ≤ 3 ∧
            ∃ before after,
              names = before ++ name :: after ∧
                (∀ other ∈ names, editDistance input name ≤ editDistance input other) ∧
                ∀ other ∈ before, editDistance input name < editDistance input other) ∧
      ∀ assertion : WindowAssertion,
        editDistance input assertion.name ≤ 1 → suggest? input = some assertion.name := by
  refine ⟨fun assertion => ofName_eq_ok_iff.trans eq_comm, ?_, suggest?_eq_none_iff, ?_, ?_⟩
  · intro unknown
    refine ofName_eq_error_iff.2 ⟨?_, rfl⟩
    intro listed
    rcases mem_names_iff.1 listed with ⟨assertion, named⟩
    exact unknown assertion named.symm
  · intro name
    rw [suggest?_eq_some_iff, and_comm]
    rfl
  · intro assertion close
    have known : assertion.name ∈ names := mem_names_iff.2 ⟨assertion, rfl⟩
    exact suggest?_eq_some_iff.2
      ⟨isNearest_of_single_edit known close, Nat.le_trans close (by decide)⟩

/-- Two letters that changed places, and a text that no name is near to. -/
theorem transposed_name_corrected :
    ofName "shows_appw_indow" =
        .error { name := "shows_appw_indow", suggestion := some "shows_app_window" } ∧
      ofName "opens" = .error { name := "opens", suggestion := none } := by
  rcases ofName_suggests "shows_appw_indow" with ⟨_, unknown, _, _, corrected⟩
  rcases ofName_suggests "opens" with ⟨_, unknownToo, far, _⟩
  have suggested : suggest? "shows_appw_indow" = some "shows_app_window" :=
    corrected ⟨.layer .app, true⟩ (by decide +kernel)
  have unsuggested : suggest? "opens" = none := far.2 (by decide +kernel)
  rw [← suggested, ← unsuggested]
  refine ⟨unknown ?_, unknownToo ?_⟩
  · intro assertion same
    have listed := mem_names_iff.2 ⟨assertion, same.symm⟩
    revert listed
    decide
  · intro assertion same
    have listed := mem_names_iff.2 ⟨assertion, same.symm⟩
    revert listed
    decide

end PhaseAssertions.WindowAssertion
