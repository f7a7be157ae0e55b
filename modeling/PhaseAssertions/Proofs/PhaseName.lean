import Mathlib.Data.List.Infix
import PhaseAssertions.Proofs.Repetition

/-!
# What the name of a phase tells

The name of a phase writes out its assertions: each has a name, a title in
parentheses, and `and` stands between them.  Titles are free text, so a title
can hold what looks like the end of an assertion and the beginning of another
one; a phase of one assertion can then have the name of a phase of two.

If no title does, the name of a phase tells its assertions.  The name of an
assertion has no parenthesis, so it ends at the first one; and a title that went
on behind the closing parenthesis of another title with the same beginning would
have to hold the joint that follows there.
-/

namespace PhaseAssertions

/-! ## Texts up to a delimiter -/

/-- What has no delimiter in it ends before the delimiter that follows. -/
theorem prefix_of_delimited
    {delimiter : Char} {front behind other rest : List Char}
    (absent : delimiter ∉ front)
    (same : front ++ behind = other ++ delimiter :: rest) :
    front <+: other := by
  rcases List.append_eq_append_iff.1 same with
    ⟨more, rfl, _⟩ | ⟨more, rfl, remaining⟩
  · exact List.prefix_append _ _
  · cases more with
    | nil => simp
    | cons character more =>
        obtain rfl : delimiter = character := (List.cons.inj remaining).1
        exact absurd (List.mem_append_right _ List.mem_cons_self) absent

theorem eq_of_delimited
    {delimiter : Char} {front behind other rest : List Char}
    (absent : delimiter ∉ front) (otherAbsent : delimiter ∉ other)
    (same : front ++ delimiter :: behind = other ++ delimiter :: rest) :
    front = other := by
  have forth := prefix_of_delimited absent same
  have back := prefix_of_delimited otherAbsent same.symm
  exact forth.eq_of_length (Nat.le_antisymm forth.length_le back.length_le)

/-! ## Pairs written out -/

/-- A pair as it is written in the name of a phase. -/
def writtenPair (pair : String × String) : String :=
  pair.1 ++ "(" ++ pair.2 ++ ")"

/--
Whether a title holds the end of an assertion and the beginning of another one,
as they are written in the name of a phase.
-/
def SpellsJoint (title : String) : Prop :=
  ∃ key ∈ WindowAssertion.names, (") and " ++ key ++ "(").toList <:+: title.toList

instance (title : String) : Decidable (SpellsJoint title) :=
  inferInstanceAs (Decidable (∃ key ∈ WindowAssertion.names, _))

/-- Whether a pair is that of an assertion, with a title that holds no joint. -/
def IsPlain (pair : String × String) : Prop :=
  pair.1 ∈ WindowAssertion.names ∧ ¬ SpellsJoint pair.2

theorem parentheses_notMem_of_mem_names {key : String} (listed : key ∈ WindowAssertion.names) :
    '(' ∉ key.toList ∧ ')' ∉ key.toList := by
  have none : ∀ key ∈ WindowAssertion.names, '(' ∉ key.toList ∧ ')' ∉ key.toList := by
    decide
  exact none key listed

/-- Pairs as they are written behind others in the name of a phase. -/
def joined (pairs : List (String × String)) : List Char :=
  pairs.flatMap fun pair => " and ".toList ++ (writtenPair pair).toList

theorem joined_cons (key title : String) (rest : List (String × String)) :
    joined ((key, title) :: rest) =
      " and ".toList ++ (key.toList ++ '(' :: (title.toList ++ ')' :: joined rest)) := by
  simp [joined, writtenPair]

/-- A title goes on behind a closing parenthesis only if it holds a joint. -/
theorem eq_nil_of_title_longer
    {title : String} {lead more written : List Char} {rest : List (String × String)}
    (plain : ¬ SpellsJoint title) (restPlain : ∀ pair ∈ rest, IsPlain pair)
    (longer : title.toList = lead ++ more)
    (same : ')' :: joined rest = more ++ ')' :: written) :
    more = [] := by
  cases more with
  | nil => rfl
  | cons character more =>
      rw [List.cons_append, List.cons.injEq] at same
      rcases same with ⟨rfl, same⟩
      cases rest with
      | nil => simp [joined] at same
      | cons next rest =>
          rcases next with ⟨key, window⟩
          have listed : key ∈ WindowAssertion.names :=
            (restPlain _ List.mem_cons_self).1
          have unclosed : ')' ∉ " and ".toList ++ (key.toList ++ ['(']) := by
            have absent := (parentheses_notMem_of_mem_names listed).2
            simp [absent]
          rw [joined_cons] at same
          have begun : " and ".toList ++ (key.toList ++ ['(']) <+: more := by
            apply prefix_of_delimited unclosed
            simpa using same
          -- The joint stands in the title, right behind the lead.
          rcases begun with ⟨after, rfl⟩
          exact absurd ⟨key, listed, lead, after, by simp [longer]⟩ plain

/-- Plain pairs are told by how they are written. -/
theorem joined_injective
    {pairs others : List (String × String)}
    (plain : ∀ pair ∈ pairs, IsPlain pair) (othersPlain : ∀ pair ∈ others, IsPlain pair)
    (same : joined pairs = joined others) :
    pairs = others := by
  induction pairs generalizing others with
  | nil =>
      cases others with
      | nil => rfl
      | cons next others => simp [joined] at same
  | cons first rest induction =>
      cases others with
      | nil => simp [joined] at same
      | cons next others =>
          rcases first with ⟨key, title⟩
          rcases next with ⟨otherKey, otherTitle⟩
          rw [List.forall_mem_cons] at plain othersPlain
          rcases plain with ⟨⟨listed, titlePlain⟩, restPlain⟩
          rcases othersPlain with ⟨⟨otherListed, otherTitlePlain⟩, othersPlain⟩
          rw [joined_cons, joined_cons, List.append_cancel_left_eq] at same
          have keys : key.toList = otherKey.toList :=
            eq_of_delimited (parentheses_notMem_of_mem_names listed).1
              (parentheses_notMem_of_mem_names otherListed).1 same
          rw [keys, List.append_cancel_left_eq, List.cons.injEq] at same
          have titles : title.toList = otherTitle.toList := by
            rcases List.append_eq_append_iff.1 same.2 with
              ⟨more, longer, remaining⟩ | ⟨more, longer, remaining⟩
            · rw [longer, eq_nil_of_title_longer otherTitlePlain restPlain longer remaining,
                List.append_nil]
            · rw [longer, eq_nil_of_title_longer titlePlain othersPlain longer remaining,
                List.append_nil]
          rw [titles, List.append_cancel_left_eq, List.cons.injEq] at same
          rw [String.ext keys, String.ext titles, induction restPlain othersPlain same.2.2]

/-! ## Names of phases -/

theorem intercalate_eq_flatMap (separator first : String) (rest : List String) :
    separator.toList ++ (separator.intercalate (first :: rest)).toList =
      (first :: rest).flatMap fun part => separator.toList ++ part.toList := by
  induction rest generalizing first with
  | nil => simp
  | cons second rest induction =>
      rw [String.intercalate_cons_cons, List.flatMap_cons, ← induction]
      simp

namespace PlanFile

/-- The name of the group that a phase with these pairs is resolved to. -/
def nameOfPairs (pairs : List (String × String)) : String :=
  " and ".intercalate (pairs.map writtenPair)

def phaseName (phase : PhaseSpec) : String :=
  nameOfPairs (phase.flatMap TextMap.pairs)

/-- The name of a phase, written behind others. -/
theorem joined_eq_nameOfPairs
    {pairs : List (String × String)} (some : pairs ≠ []) :
    joined pairs = " and ".toList ++ (nameOfPairs pairs).toList := by
  rcases List.exists_cons_of_ne_nil some with ⟨first, rest, rfl⟩
  rw [nameOfPairs, List.map_cons, intercalate_eq_flatMap, ← List.map_cons,
    List.flatMap_map, joined]

theorem nameOfPairs_injective
    {pairs others : List (String × String)}
    (some : pairs ≠ []) (othersSome : others ≠ [])
    (plain : ∀ pair ∈ pairs, IsPlain pair) (othersPlain : ∀ pair ∈ others, IsPlain pair)
    (same : nameOfPairs pairs = nameOfPairs others) :
    pairs = others := by
  apply joined_injective plain othersPlain
  rw [joined_eq_nameOfPairs some, joined_eq_nameOfPairs othersSome, same]

/-- A phase of a well-formed file is told by the pairs of its steps. -/
theorem eq_of_flatMap_pairs_eq
    {phase other : PhaseSpec}
    (formed : ∀ step ∈ phase, step.IsAssertion)
    (otherFormed : ∀ step ∈ other, step.IsAssertion)
    (same : phase.flatMap TextMap.pairs = other.flatMap TextMap.pairs) :
    phase = other := by
  induction phase generalizing other with
  | nil =>
      cases other with
      | nil => rfl
      | cons step others =>
          rcases otherFormed step List.mem_cons_self with ⟨_, _, single, _⟩
          rw [List.flatMap_cons, single] at same
          cases same
  | cons step rest induction =>
      rw [List.forall_mem_cons] at formed
      rcases formed with ⟨⟨_, _, single, _⟩, remaining⟩
      cases other with
      | nil =>
          rw [List.flatMap_cons, single] at same
          cases same
      | cons otherStep others =>
          rw [List.forall_mem_cons] at otherFormed
          rcases otherFormed with ⟨⟨_, _, otherSingle, _⟩, otherRemaining⟩
          rw [List.flatMap_cons, List.flatMap_cons, single, otherSingle,
            List.singleton_append, List.singleton_append, List.cons.injEq] at same
          have head : step = otherStep := by
            apply TextMap.ext
            rw [single, otherSingle, same.1]
          rw [head, induction remaining otherRemaining same.2]

variable {limits : Limits} {file : PlanFile} {plan : Plan}

/-- Whether no title of the file holds a joint of two assertions. -/
def TitlesPlain (file : PlanFile) : Prop :=
  ∀ phase ∈ file.phases, ∀ step ∈ phase, ∀ pair ∈ step.pairs, ¬ SpellsJoint pair.2

theorem WellFormed.isPlain
    (formed : file.WellFormed limits) (plain : file.TitlesPlain)
    {phase : PhaseSpec} (member : phase ∈ file.phases) :
    ∀ pair ∈ phase.flatMap TextMap.pairs, IsPlain pair := by
  intro pair paired
  rcases List.mem_flatMap.1 paired with ⟨step, inside, found⟩
  refine ⟨?_, plain phase member step inside pair found⟩
  rcases (formed.phases phase member).2 step inside with ⟨key, window, single, listed, _⟩
  rw [single, List.mem_singleton] at found
  rw [found]
  exact listed

/-- Without joints in titles, the name of a phase tells the phase. -/
theorem WellFormed.eq_of_phaseName_eq
    (formed : file.WellFormed limits) (plain : file.TitlesPlain)
    {phase other : PhaseSpec} (member : phase ∈ file.phases) (otherMember : other ∈ file.phases)
    (same : phaseName phase = phaseName other) :
    phase = other := by
  apply eq_of_flatMap_pairs_eq (formed.phases phase member).2 (formed.phases other otherMember).2
  exact
    nameOfPairs_injective (formed.flatMap_pairs_ne_nil member)
      (formed.flatMap_pairs_ne_nil otherMember) (formed.isPlain plain member)
      (formed.isPlain plain otherMember) same

end PlanFile

/-! ## Names of groups -/

theorem Plan.map_name_groups
    {plan : Plan} (filled : ∀ phase ∈ plan.phases, phase ≠ []) :
    plan.groups.map PhaseGroup.name =
      plan.phases.map fun phase => PlanFile.nameOfPairs (phase.map PlanAssertion.pair) := by
  rw [groups]
  generalize plan.phases = phases at filled
  induction phases with
  | nil => rfl
  | cons phase rest induction =>
      rw [List.forall_mem_cons] at filled
      rcases List.exists_cons_of_ne_nil filled.1 with ⟨first, others, rfl⟩
      have named :
          PhaseGroup.name
              { first := first.predicate, others := others.map PlanAssertion.predicate } =
            PlanFile.nameOfPairs ((first :: others).map PlanAssertion.pair) := by
        rw [PhaseGroup.name, PlanFile.nameOfPairs, PhaseGroup.members, List.map_cons,
          List.map_map, List.map_map]
        rfl
      rw [List.map_cons, ← named, ← induction filled.2]
      rfl

/-- The groups of a plan have the names of the phases of its file. -/
theorem PlanFile.WellFormed.map_name_groups
    {limits : Limits} {file : PlanFile} {plan : Plan}
    (formed : file.WellFormed limits) (stands : plan.StandsFor file) :
    plan.groups.map PhaseGroup.name = file.phases.map phaseName := by
  have paired := congrArg (List.map nameOfPairs) stands.phases
  rw [List.map_map, List.map_map] at paired
  exact (plan.map_name_groups (stands.phases_filled formed)).trans paired

end PhaseAssertions
