import Mathlib.Data.List.Basic
import PhaseAssertions.Proofs.PhaseName

/-!
# Advisories and warnings about repeated phases

Repeated phases are looked for twice: validation compares the steps of a plan
file, and a subject compares the names of its groups.  In a well-formed file the
groups stand where the phases do, so both can be read as positions in one list.

Every phase that is warned about is also advised, as its group has the name of
the group before it.  The converse is a matter of names: a phase is advised
without a warning exactly if it differs from the phase before it and yet has the
same name.  For that, one of the two has to have a title that holds a joint of
two assertions, as the last theorem shows for a file that validates.
-/

namespace PhaseAssertions

/-! ## Names at chosen positions -/

/-- The names that stand at some positions, in order. -/
def namesAt (names : List String) (chosen : Nat → Bool) : List String :=
  (names.zipIdx.filter fun indexed => chosen indexed.2).map Prod.fst

theorem namesAt_sublist
    (names : List String) {chosen other : Nat → Bool}
    (weaker : ∀ position, chosen position = true → other position = true) :
    (namesAt names chosen).Sublist (namesAt names other) := by
  apply List.Sublist.map
  apply List.monotone_filter_right
  intro indexed
  exact weaker indexed.2

/-- Names at more positions are the same names only if none of these is new. -/
theorem namesAt_eq_iff
    {names : List String} {chosen other : Nat → Bool}
    (weaker : ∀ position, chosen position = true → other position = true) :
    namesAt names other = namesAt names chosen ↔
      ∀ position < names.length, other position = true → chosen position = true := by
  constructor
  · intro same position bounded holds
    have length := congrArg List.length same
    rw [namesAt, namesAt, List.length_map, List.length_map] at length
    have kept :=
      (List.monotone_filter_right names.zipIdx
        fun indexed => weaker indexed.2).eq_of_length length.symm
    have member :
        (names[position], position) ∈
          names.zipIdx.filter fun indexed => other indexed.2 := by
      rw [List.mem_filter, List.mem_zipIdx_iff_getElem?]
      exact ⟨List.getElem?_eq_getElem bounded, holds⟩
    rw [← kept] at member
    exact (List.mem_filter.1 member).2
  · intro covered
    rw [namesAt, namesAt]
    congr 1
    apply List.filter_congr
    rintro ⟨name, position⟩ member
    have bounded : position < names.length :=
      (List.getElem?_eq_some_iff.1 (List.mem_zipIdx_iff_getElem?.1 member)).1
    rw [Bool.eq_iff_iff]
    exact ⟨covered position bounded, weaker position⟩

/-- Whether the name at a position is that at the position before it. -/
def repeatsName (names : List String) : Nat → Bool
  | 0 => false
  | index + 1 => names[index]? = names[index + 1]?

namespace Checker

theorem repeated_cons_eq
    {chosen : Nat → Bool} {first : String} {rest : List String} {start : Nat}
    (decides :
      ∀ (index : Nat) (earlier later : String),
        (first :: rest)[index]? = some earlier → rest[index]? = some later →
          (chosen (start + index) = true ↔ earlier = later)) :
    repeated (first :: rest) =
      ((rest.zipIdx start).filter fun indexed => chosen indexed.2).map Prod.fst := by
  induction rest generalizing first start with
  | nil => rfl
  | cons second rest induction =>
      have here : chosen start = true ↔ first = second :=
        decides 0 first second rfl rfl
      have behind :
          repeated (second :: rest) =
            ((rest.zipIdx (start + 1)).filter fun indexed =>
              chosen indexed.2).map Prod.fst := by
        apply induction
        intro index earlier later atIndex atNext
        rw [Nat.add_right_comm, Nat.add_assoc]
        exact decides (index + 1) earlier later atIndex atNext
      rw [repeated, List.zipIdx_cons, List.filter_cons]
      by_cases same : first = second
      · rw [if_pos same, if_pos (here.2 same), List.map_cons, behind]
      · rw [if_neg same, if_neg (fun chosen => same (here.1 chosen)), behind]

/-- The advisories are the names at the positions where a name repeats. -/
theorem repeated_eq_namesAt (names : List String) :
    repeated names = namesAt names (repeatsName names) := by
  cases names with
  | nil => rfl
  | cons first rest =>
      have unrepeated : ¬ repeatsName (first :: rest) 0 = true := Bool.false_ne_true
      rw [namesAt, List.zipIdx_cons, List.filter_cons, if_neg unrepeated]
      apply repeated_cons_eq
      intro index earlier later atIndex atNext
      rw [Nat.add_comm, repeatsName, decide_eq_true_eq, atIndex,
        List.getElem?_cons_succ, atNext, Option.some.injEq]

end Checker

/-- The names of the groups of a subject, in order. -/
def Subject.names (subject : Subject WindowManagerEntry) : List String :=
  subject.checker.groups.map PhaseGroup.name

/-! ## Warned positions -/

namespace PlanFile

/-- Whether validation warns that the phase at a position repeats the one before it. -/
def warnsAt (limits : Limits) (file : PlanFile) (position : Nat) : Bool :=
  repeatWarning position ∈ (file.validate limits).warnings

variable {limits : Limits} {file : PlanFile} {plan : Plan}

theorem WellFormed.warnsAt_iff
    (formed : file.WellFormed limits) {position : Nat} :
    file.warnsAt limits position = true ↔
      ∃ index phase,
        file.phases[index]? = some phase ∧ file.phases[index + 1]? = some phase ∧
          position = index + 1 := by
  rw [warnsAt, decide_eq_true_eq]
  constructor
  · intro warned
    rcases formed.mem_warnings_iff.1 ⟨warned, rfl⟩ with
      ⟨index, phase, atIndex, atNext, same⟩
    exact ⟨index, phase, atIndex, atNext, phasePath_injective (congrArg PlanIssue.path same)⟩
  · rintro ⟨index, phase, atIndex, atNext, rfl⟩
    exact (formed.mem_warnings_iff.2 ⟨index, phase, atIndex, atNext, rfl⟩).1

/-- A warned phase has the name of the phase before it. -/
theorem WellFormed.repeatsName_of_warnsAt
    (formed : file.WellFormed limits) {position : Nat}
    (warned : file.warnsAt limits position = true) :
    repeatsName (file.phases.map phaseName) position = true := by
  rcases formed.warnsAt_iff.1 warned with ⟨index, phase, atIndex, atNext, rfl⟩
  rw [repeatsName, decide_eq_true_eq, List.getElem?_map, List.getElem?_map, atIndex,
    atNext]

/-- Names and warnings agree exactly if neighbours that differ have different names. -/
theorem WellFormed.namesAt_warnsAt_iff (formed : file.WellFormed limits) :
    namesAt (file.phases.map phaseName) (repeatsName (file.phases.map phaseName)) =
        namesAt (file.phases.map phaseName) (file.warnsAt limits) ↔
      ∀ (index : Nat) (name : String),
        (file.phases.map phaseName)[index]? = some name →
          (file.phases.map phaseName)[index + 1]? = some name →
            file.phases[index]? = file.phases[index + 1]? := by
  rw [namesAt_eq_iff fun _ => formed.repeatsName_of_warnsAt]
  constructor
  · intro covered index name atIndex atNext
    have bounded := (List.getElem?_eq_some_iff.1 atNext).1
    have repeats : repeatsName (file.phases.map phaseName) (index + 1) = true := by
      rw [repeatsName, decide_eq_true_eq, atIndex, atNext]
    rcases formed.warnsAt_iff.1 (covered _ bounded repeats) with
      ⟨other, phase, first, second, same⟩
    obtain rfl : index = other := Nat.succ.inj same
    rw [first, second]
  · intro told position bounded repeats
    cases position with
    | zero => cases repeats
    | succ index =>
        rw [repeatsName, decide_eq_true_eq] at repeats
        have atNext := List.getElem?_eq_getElem bounded
        have same := told index _ (repeats.trans atNext) atNext
        rw [List.length_map] at bounded
        have phaseAt := List.getElem?_eq_getElem bounded
        exact formed.warnsAt_iff.2 ⟨index, _, same.trans phaseAt, phaseAt, rfl⟩

theorem WellFormed.getElem?_eq_of_name_eq
    (formed : file.WellFormed limits) (plain : file.TitlesPlain)
    {index other : Nat} {name : String}
    (atIndex : (file.phases.map phaseName)[index]? = some name)
    (atOther : (file.phases.map phaseName)[other]? = some name) :
    file.phases[index]? = file.phases[other]? := by
  rw [List.getElem?_map] at atIndex atOther
  rcases Option.map_eq_some_iff.1 atIndex with ⟨phase, found, rfl⟩
  rcases Option.map_eq_some_iff.1 atOther with ⟨otherPhase, otherFound, same⟩
  rw [found, otherFound,
    formed.eq_of_phaseName_eq plain (List.mem_of_getElem? otherFound)
      (List.mem_of_getElem? found) same]

end PlanFile

/-! ## Advisories of a plan -/

theorem Plan.names_subject (plan : Plan) (trace : Trace WindowManagerEntry) :
    (plan.subject trace).names = plan.groups.map PhaseGroup.name := by
  rw [Subject.names, groups_subject]

theorem Subject.advisories_eq_namesAt (subject : Subject WindowManagerEntry) :
    subject.advisories = namesAt subject.names (repeatsName subject.names) :=
  Checker.repeated_eq_namesAt subject.names

/--
The subject of a plan has one group for each phase of a file that validates.  It
advises about all phases that are warned about, in order.  It advises about
no others exactly if a phase differs in its name from the phase before it
whenever it differs at all; and that is so if no title holds a joint.
-/
theorem advisories_resolved
    (limits : Limits) (file : PlanFile)
    (valid : (file.validate limits).errors = []) :
    ∃ plan, file.resolve = .ok plan ∧
      ∀ trace,
        (plan.subject trace).names.length = file.phases.length ∧
        (namesAt (plan.subject trace).names (file.warnsAt limits)).Sublist
          (plan.subject trace).advisories ∧
        ((plan.subject trace).advisories =
            namesAt (plan.subject trace).names (file.warnsAt limits) ↔
          ∀ (index : Nat) (name : String),
            (plan.subject trace).names[index]? = some name →
              (plan.subject trace).names[index + 1]? = some name →
                file.phases[index]? = file.phases[index + 1]?) ∧
        (file.TitlesPlain →
          (plan.subject trace).advisories =
            namesAt (plan.subject trace).names (file.warnsAt limits)) := by
  have formed := (PlanFile.errors_eq_nil_iff limits file).1 valid
  rcases formed.exists_resolve with ⟨plan, resolved⟩
  refine ⟨plan, resolved, ?_⟩
  intro trace
  have named :=
    (plan.names_subject trace).trans
      (formed.map_name_groups (PlanFile.resolve_eq_ok_iff.1 resolved))
  rw [Subject.advisories_eq_namesAt, named]
  refine
    ⟨List.length_map _, namesAt_sublist _ fun _ => formed.repeatsName_of_warnsAt,
      formed.namesAt_warnsAt_iff, ?_⟩
  intro plain
  rw [formed.namesAt_warnsAt_iff]
  intro index name atIndex atNext
  exact formed.getElem?_eq_of_name_eq plain atIndex atNext

/-- A file in which a keyboard is asked for twice in a row. -/
def stammeringFile : PlanFile :=
  { phases :=
      [ [{ pairs := [("shows_app_window", "Wall")] }, { pairs := [("hides_ime_window", "Keys")] }],
        [{ pairs := [("shows_ime_window", "Keys")] }],
        [{ pairs := [("shows_ime_window", "Keys")] }],
        [{ pairs := [("hides_ime_window", "Keys")] }] ] }

theorem stammeringFile_advised :
    (stammeringFile.validate {}).errors = [] ∧ stammeringFile.TitlesPlain ∧
      ∃ plan, stammeringFile.resolve = .ok plan ∧
        (plan.subject Checker.flickeringTrace).advisories =
          namesAt (plan.subject Checker.flickeringTrace).names
            (stammeringFile.warnsAt {}) ∧
        (plan.subject Checker.flickeringTrace).advisories = ["shows_ime_window(Keys)"] := by
  have valid : (stammeringFile.validate {}).errors = [] := by decide
  have plain : stammeringFile.TitlesPlain := by
    unfold PlanFile.TitlesPlain
    decide
  have known :
      stammeringFile.resolve =
        .ok
          { name := none
            evaluation := .allEntries
            skipUntilFirst := false
            phases :=
              [ [⟨⟨.layer .app, true⟩, "Wall"⟩, ⟨⟨.layer .ime, false⟩, "Keys"⟩],
                [⟨⟨.layer .ime, true⟩, "Keys"⟩], [⟨⟨.layer .ime, true⟩, "Keys"⟩],
                [⟨⟨.layer .ime, false⟩, "Keys"⟩] ] } := by
    decide
  rcases advisories_resolved {} stammeringFile valid with ⟨plan, resolved, told⟩
  rcases told Checker.flickeringTrace with ⟨_, _, _, advised⟩
  obtain rfl := Except.ok.inj (resolved.symm.trans known)
  exact ⟨valid, plain, _, resolved, advised plain, by decide⟩

/-- A file with a title that is written like two assertions. -/
def forgedFile : PlanFile :=
  { phases :=
      [ [{ pairs := [("shows_app_window", "A) and shows_app_window(B")] }],
        [ { pairs := [("shows_app_window", "A")] },
          { pairs := [("shows_app_window", "B")] } ] ] }

/-- Two phases that differ can have one name, and then one is advised without a warning. -/
theorem forgedFile_advised :
    ¬ ∀ (limits : Limits) (file : PlanFile) (plan : Plan)
        (trace : Trace WindowManagerEntry),
        (file.validate limits).errors = [] → file.resolve = .ok plan →
          (plan.subject trace).advisories =
            namesAt (plan.subject trace).names (file.warnsAt limits) := by
  intro claimed
  have advised :=
    claimed {} forgedFile
      { name := none
        evaluation := .allEntries
        skipUntilFirst := false
        phases :=
          [ [⟨⟨.layer .app, true⟩, "A) and shows_app_window(B"⟩],
            [⟨⟨.layer .app, true⟩, "A"⟩, ⟨⟨.layer .app, true⟩, "B"⟩] ] }
      Checker.flickeringTrace (by decide) (by decide)
  revert advised
  decide

end PhaseAssertions
