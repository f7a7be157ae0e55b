import PhaseAssertions.Proofs.Edits
import PhaseAssertions.Text.EditDistance

/-!
# The edit distance is the least number of edits

The table is filled from the distances of shorter beginnings.  The characters
read last decide how an alignment of two beginnings ends, and so each cell is the
least of what the cells next to it and one crossing allow.  Of all crossings only
that over the nearest places is looked at: one that starts further away costs no
less, as what it removes can be deleted before.

Beginnings are written with their last character in front, so that reading on
puts a character in front of them.  The main statement is that the computed
distance is at most a bound exactly if that many edits suffice; so it is a
metric.
-/

namespace PhaseAssertions.Text

/-- Whether a number is the least cost of an alignment of two texts. -/
def IsDistance (source target : List Char) (distance : Nat) : Prop :=
  ∀ bound, Aligned bound source target ↔ distance ≤ bound

namespace IsDistance

variable {source target : List Char} {distance : Nat}

theorem le (isDistance : IsDistance source target distance) {cost : Nat}
    (alignment : Alignment cost source target) : distance ≤ cost :=
  (isDistance cost).1 ⟨cost, Nat.le_refl cost, alignment⟩

theorem aligned (isDistance : IsDistance source target distance) :
    Aligned distance source target :=
  (isDistance distance).2 (Nat.le_refl distance)

theorem of_least (aligned : Aligned distance source target)
    (least : ∀ cost, Alignment cost source target → distance ≤ cost) :
    IsDistance source target distance := by
  intro bound
  constructor
  · rintro ⟨cost, bounded, alignment⟩
    exact Nat.le_trans (least cost alignment) bounded
  · exact aligned.mono

/-- All characters of a text have to be inserted if there are none to start with. -/
theorem nil_left (text : List Char) : IsDistance [] text text.length := by
  refine of_least ?_ ?_
  · simpa using (Aligned.refl []).insertAll text
  · intro cost alignment
    simpa using alignment.edits.countP_le fun _ => true

theorem nil_right (text : List Char) : IsDistance text [] text.length := by
  refine of_least ?_ ?_
  · simpa using (Aligned.refl []).deleteAll text
  · intro cost alignment
    simpa using alignment.edits.symm.countP_le fun _ => true

end IsDistance

/-! ## Crossings -/

/-- Behind the first place of a character stand all its other places. -/
theorem exists_append_of_first
    {character : Char} {text before after near far : List Char}
    (split : text = before ++ character :: after)
    (nearest : text = near ++ character :: far) (first : character ∉ near) :
    ∃ between, far = between ++ after ∧ before.length = near.length + between.length := by
  rw [nearest] at split
  rcases List.append_eq_append_iff.1 split with
    ⟨between, rfl, rest⟩ | ⟨between, rfl, rest⟩
  · cases between with
    | nil =>
        cases rest
        exact ⟨[], rfl, by simp⟩
    | cons next between =>
        cases rest
        exact ⟨between ++ [character], by simp, by simp⟩
  · cases between with
    | nil =>
        cases rest
        exact ⟨[], rfl, by simp⟩
    | cons next between =>
        cases rest
        exact absurd (by simp) first

/--
The cost of exchanging `last`, which is read next in the source, with `first`,
which is read next in the target: over the nearest places of the two, if both
have one.
-/
inductive Crossing (source target : List Char) (last first : Char) : Option Nat → Prop where
  | some {removed added source' target' : List Char} {distance : Nat}
      (sourceSplit : source = removed ++ first :: source') (sourceNearest : first ∉ removed)
      (targetSplit : target = added ++ last :: target') (targetNearest : last ∉ added)
      (isDistance : IsDistance source' target' distance) :
      Crossing source target last first (some (distance + removed.length + 1 + added.length))
  | none (missing : first ∉ source ∨ last ∉ target) :
      Crossing source target last first none

namespace Crossing

variable {source target : List Char} {last first : Char} {cost : Nat}

theorem aligned (crossing : Crossing source target last first (.some cost)) :
    Aligned cost (last :: source) (first :: target) := by
  cases crossing with
  | some sourceSplit _ targetSplit _ isDistance =>
      rw [sourceSplit, targetSplit]
      exact isDistance.aligned.cross _ _ _ _

/-- No crossing is cheaper than that over the nearest places. -/
theorem exists_le
    {found : Option Nat} (crossing : Crossing source target last first found)
    {removed added source' target' : List Char}
    (sourceSplit : source = removed ++ first :: source')
    (targetSplit : target = added ++ last :: target')
    (alignment : Alignment cost source' target') :
    ∃ least, found = .some least ∧ least ≤ cost + removed.length + 1 + added.length := by
  cases crossing with
  | none missing =>
      rcases missing with absent | absent
      · exact absurd (by simp [sourceSplit]) absent
      · exact absurd (by simp [targetSplit]) absent
  | some sourceNear sourceFirst targetNear targetFirst isDistance =>
      rcases exists_append_of_first sourceSplit sourceNear sourceFirst with
        ⟨skipped, rfl, sourceLength⟩
      rcases exists_append_of_first targetSplit targetNear targetFirst with
        ⟨passed, rfl, targetLength⟩
      have nearer :=
        (isDistance _).1
          ((Aligned.deleteAll skipped ⟨cost, Nat.le_refl cost, alignment⟩).insertAll passed)
      exact ⟨_, rfl, by omega⟩

end Crossing

/-! ## Cells -/

/-- The cell for two beginnings, from the three next to it and a crossing. -/
def cell (replaced up left : Nat) (crossing : Option Nat) : Nat :=
  let plain := min (min (left + 1) (up + 1)) replaced
  match crossing with
  | some exchanged => min plain exchanged
  | none => plain

theorem cell_le_iff {replaced up left : Nat} {crossing : Option Nat} {bound : Nat} :
    cell replaced up left crossing ≤ bound ↔
      left + 1 ≤ bound ∨ up + 1 ≤ bound ∨ replaced ≤ bound ∨
        ∃ exchanged, crossing = some exchanged ∧ exchanged ≤ bound := by
  cases crossing with
  | none =>
      simp only [cell, reduceCtorEq, false_and, exists_false, or_false]
      omega
  | some exchanged =>
      simp only [cell, Option.some.injEq, exists_eq_left']
      omega

/-- A cell is the distance of its beginnings if those next to it are. -/
theorem isDistance_cell
    {source target : List Char} {last first : Char} {diagonal up left : Nat}
    {crossing : Option Nat}
    (atDiagonal : IsDistance source target diagonal)
    (above : IsDistance source (first :: target) up)
    (atLeft : IsDistance (last :: source) target left)
    (crosses : Crossing source target last first crossing) :
    IsDistance (last :: source) (first :: target)
      (cell (diagonal + if last = first then 0 else 1) up left crossing) := by
  intro bound
  rw [cell_le_iff]
  constructor
  · rintro ⟨cost, bounded, alignment⟩
    cases alignment with
    | keep _ rest =>
        have least := atDiagonal.le rest
        exact .inr (.inr (.inl (by simp; omega)))
    | replace _ _ rest =>
        have least := atDiagonal.le rest
        exact .inr (.inr (.inl (by split <;> omega)))
    | delete _ rest =>
        have least := above.le rest
        exact .inr (.inl (by omega))
    | insert _ rest =>
        have least := atLeft.le rest
        exact .inl (by omega)
    | cross removed added _ _ rest =>
        rcases crosses.exists_le rfl rfl rest with ⟨least, found, le⟩
        exact .inr (.inr (.inr ⟨least, found, by omega⟩))
  · rintro (le | le | le | ⟨exchanged, found, le⟩)
    · exact (atLeft.aligned.insert first).mono le
    · exact (above.aligned.delete last).mono le
    · by_cases same : last = first
      · subst same
        exact (atDiagonal.aligned.keep last).mono (by simpa using le)
      · exact (atDiagonal.aligned.replace last first).mono (by simpa [same] using le)
    · rw [found] at crosses
      exact crosses.aligned.mono le

namespace EditDistance

/-! ## Rows -/

/--
A row of the table: the distances of a beginning of the source to those of the
target, from `before` on, which goes on with `rest`.
-/
def Row (source : List Char) : (before rest : List Char) → List Nat → Prop
  | before, [], row => ∃ distance, row = [distance] ∧ IsDistance source before distance
  | before, character :: rest, row =>
    ∃ distance others,
      row = distance :: others ∧ IsDistance source before distance ∧
        Row source (character :: before) rest others

theorem Row.exists_cons
    {source before rest : List Char} {row : List Nat} (isRow : Row source before rest row) :
    ∃ distance others, row = distance :: others ∧ IsDistance source before distance := by
  cases rest with
  | nil =>
      rcases isRow with ⟨distance, rfl, isDistance⟩
      exact ⟨distance, [], rfl, isDistance⟩
  | cons character rest =>
      rcases isRow with ⟨distance, others, rfl, isDistance, _⟩
      exact ⟨distance, others, rfl, isDistance⟩

theorem Row.getElem?
    {source before passed rest : List Char} {row : List Nat}
    (isRow : Row source before (passed ++ rest) row) :
    ∃ distance,
      row[passed.length]? = some distance ∧
        IsDistance source (passed.reverse ++ before) distance := by
  induction passed generalizing before row with
  | nil =>
      rcases isRow.exists_cons with ⟨distance, others, rfl, isDistance⟩
      exact ⟨distance, rfl, isDistance⟩
  | cons character passed induction =>
      rcases isRow with ⟨distance, others, rfl, _, later⟩
      rcases induction later with ⟨found, atPlace, isDistance⟩
      exact ⟨found, atPlace, by simpa using isDistance⟩

theorem Row.getLast?
    {source before rest : List Char} {row : List Nat} (isRow : Row source before rest row) :
    ∃ distance,
      row.getLast? = some distance ∧ IsDistance source (rest.reverse ++ before) distance := by
  induction rest generalizing before row with
  | nil =>
      rcases isRow with ⟨distance, rfl, isDistance⟩
      exact ⟨distance, rfl, isDistance⟩
  | cons character rest induction =>
      rcases isRow with ⟨distance, others, rfl, _, later⟩
      rcases induction later with ⟨found, last, isDistance⟩
      refine ⟨found, ?_, by simpa using isDistance⟩
      rw [List.getLast?_cons, last]
      rfl

theorem row_start (before rest : List Char) :
    Row [] before rest (List.range' before.length (rest.length + 1)) := by
  induction rest generalizing before with
  | nil => exact ⟨_, rfl, .nil_left before⟩
  | cons character rest induction =>
      exact ⟨_, _, rfl, .nil_left before, induction (character :: before)⟩

/-! ## Last places -/

/-- How many characters stand before the last place of a character. -/
def lastPlace? (character : Char) : List Char → Option Nat
  | [] => none
  | last :: before => if character = last then some before.length else lastPlace? character before

theorem exists_of_lastPlace?
    {character : Char} {text : List Char} {place : Nat}
    (found : lastPlace? character text = some place) :
    ∃ near far, text = near ++ character :: far ∧ character ∉ near ∧ far.length = place := by
  induction text with
  | nil => cases found
  | cons last before induction =>
      rw [lastPlace?] at found
      by_cases same : character = last
      · rw [if_pos same] at found
        exact ⟨[], before, by rw [same]; rfl, List.not_mem_nil, Option.some.inj found⟩
      · rw [if_neg same] at found
        rcases induction found with ⟨near, far, rfl, nearest, length⟩
        exact ⟨last :: near, far, rfl, by simp [same, nearest], length⟩

theorem notMem_of_lastPlace?
    {character : Char} {text : List Char} (missing : lastPlace? character text = none) :
    character ∉ text := by
  induction text with
  | nil => exact List.not_mem_nil
  | cons last before induction =>
      rw [lastPlace?] at missing
      by_cases same : character = last
      · rw [if_pos same] at missing
        cases missing
      · rw [if_neg same] at missing
        simp [same, induction missing]

/-- What a table knows of the last place of a character. -/
inductive Noted (target : List Char) (character : Char) :
    List Char → Option Occurrence → Prop where
  | nowhere : Noted target character [] none
  | here {source : List Char} {row : List Nat} (isRow : Row source [] target row) :
      Noted target character (character :: source)
        (some { character, position := source.length, row })
  | before {source : List Char} {found : Option Occurrence} {last : Char}
      (other : last ≠ character) (noted : Noted target character source found) :
      Noted target character (last :: source) found

theorem Noted.exists_split
    {target source : List Char} {character : Char} {occurrence : Occurrence}
    (noted : Noted target character source (some occurrence)) :
    ∃ near far,
      source = near ++ character :: far ∧ character ∉ near ∧
        occurrence.position = far.length ∧ Row far [] target occurrence.row := by
  generalize known : some occurrence = found at noted
  induction noted with
  | nowhere => cases known
  | @here source row isRow =>
      cases known
      exact ⟨[], source, rfl, List.not_mem_nil, rfl, isRow⟩
  | @before source found last other noted induction =>
      rcases induction known with ⟨near, far, rfl, nearest, position, isRow⟩
      exact ⟨last :: near, far, rfl, by simp [other.symm, nearest], position, isRow⟩

theorem Noted.notMem
    {target source : List Char} {character : Char}
    (noted : Noted target character source none) : character ∉ source := by
  generalize known : none = found at noted
  induction noted with
  | nowhere => exact List.not_mem_nil
  | here => cases known
  | before other _ induction => simp [other.symm, induction known]

/-! ## Tables -/

/-- Whether a table is that of a beginning of the source. -/
structure Table.IsFor (target : List Char) (table : Table) (source : List Char) : Prop where
  length : table.length = source.length
  row : Row source [] target table.row
  noted : ∀ character,
    Noted target character source (table.occurrences.find? (·.character = character))

variable {target source : List Char} {table : Table}

theorem Table.isFor_start (target : List Char) : (Table.start target).IsFor target [] where
  length := rfl
  row := by
    rw [Table.start, List.range_eq_range']
    exact row_start [] target
  noted := fun _ => .nowhere

/-- The cost of an exchange is looked up at the nearest places of the two characters. -/
theorem Table.IsFor.crossing
    (isFor : table.IsFor target source) {before rest : List Char}
    (split : target = before.reverse ++ rest) (last first : Char) :
    Crossing source before last first
      (exchangeCost? table before.length first (lastPlace? last before)) := by
  have noted := isFor.noted first
  rw [exchangeCost?]
  cases found : table.occurrences.find? (·.character = first) with
  | none =>
      rw [found] at noted
      exact .none (.inl noted.notMem)
  | some occurrence =>
      rw [found] at noted
      cases place : lastPlace? last before with
      | none => exact .none (.inr (notMem_of_lastPlace? place))
      | some position =>
          rcases noted.exists_split with ⟨removed, source', rfl, nearest, atSource, isRow⟩
          rcases exists_of_lastPlace? place with ⟨added, target', rfl, nearestToo, rfl⟩
          have passed : target = target'.reverse ++ (last :: added.reverse ++ rest) := by
            simpa using split
          rw [passed] at isRow
          rcases isRow.getElem? with ⟨distance, atPlace, isDistance⟩
          rw [List.length_reverse] at atPlace
          simp only [List.reverse_reverse, List.append_nil] at isDistance
          have cost := Crossing.some rfl nearest rfl nearestToo isDistance
          simp only [Option.bind_eq_bind, Option.bind_some, atPlace, Option.pure_def]
          convert cost using 2
          rw [isFor.length, atSource]
          simp only [List.length_append, List.length_cons]
          omega

/-- The cells of a row are distances if the row above and the cell to the left are. -/
theorem Table.IsFor.row_cells
    (isFor : table.IsFor target source) (last : Char)
    {before rest : List Char} (split : target = before.reverse ++ rest)
    {above : List Nat} {left : Nat} (isRow : Row source before rest above)
    (atLeft : IsDistance (last :: source) before left) :
    Row (last :: source) before rest
      (left :: cells table last rest above left before.length (lastPlace? last before)) := by
  induction rest generalizing before above left with
  | nil => exact ⟨left, by rw [cells]; simp, atLeft⟩
  | cons first rest induction =>
      rcases isRow with ⟨diagonal, others, rfl, atDiagonal, later⟩
      rcases later.exists_cons with ⟨up, others, rfl, atAbove⟩
      have crosses := isFor.crossing split last first
      have isDistance := isDistance_cell atDiagonal atAbove atLeft crosses
      have splitBehind : target = (first :: before).reverse ++ rest := by simpa using split
      have behind := induction splitBehind later isDistance
      exact ⟨left, _, rfl, atLeft, behind⟩

theorem Table.IsFor.push (isFor : table.IsFor target source) (last : Char) :
    (table.push target last).IsFor target (last :: source) where
  length := congrArg (· + 1) isFor.length
  row := by
    have atLeft : IsDistance (last :: source) [] (table.length + 1) := by
      rw [isFor.length]
      exact .nil_right (last :: source)
    have split : target = [].reverse ++ target := rfl
    exact isFor.row_cells last split isFor.row atLeft
  noted := by
    intro character
    rw [Table.push, List.find?_cons]
    by_cases same : last = character
    · subst same
      simp only [decide_true]
      rw [isFor.length]
      exact .here isFor.row
    · have kept := isFor.noted character
      simp only [same, decide_false]
      refine .before same ?_
      convert kept using 1
      rw [List.find?_filter]
      congr 1
      funext occurrence
      by_cases found : occurrence.character = character
      · simp [found, Ne.symm same]
      · simp [found]

theorem isFor_table (source target : List Char) :
    (EditDistance.table source target).IsFor target source.reverse := by
  have run :
      ∀ (rest read : List Char) (table : Table), table.IsFor target read →
        (rest.foldl (Table.push target) table).IsFor target (rest.reverse ++ read) := by
    intro rest
    induction rest with
    | nil => exact fun _ _ isFor => isFor
    | cons last rest induction =>
        intro read table isFor
        simpa using induction (last :: read) _ (isFor.push last)
  rw [← List.append_nil source.reverse]
  exact run source [] _ (Table.isFor_start target)

end EditDistance

/-! ## The distance -/

/-- The computed distance is the least number of edits. -/
theorem editDistance_le_iff {source target : String} {bound : Nat} :
    editDistance source target ≤ bound ↔
      WithinEdits bound source.toList target.toList := by
  rcases (EditDistance.isFor_table source.toList target.toList).row.getLast? with
    ⟨distance, last, isDistance⟩
  rw [List.append_nil] at isDistance
  rw [editDistance, last, Option.getD_some, ← isDistance bound, aligned_iff,
    WithinEdits.reverse_iff]

theorem editDistance_comm (source target : String) :
    editDistance source target = editDistance target source := by
  apply Nat.le_antisymm
  · exact editDistance_le_iff.2 (editDistance_le_iff.1 (Nat.le_refl _)).symm
  · exact editDistance_le_iff.2 (editDistance_le_iff.1 (Nat.le_refl _)).symm

theorem editDistance_triangle (source middle target : String) :
    editDistance source target ≤ editDistance source middle + editDistance middle target :=
  editDistance_le_iff.2
    ((editDistance_le_iff.1 (Nat.le_refl _)).trans (editDistance_le_iff.1 (Nat.le_refl _)))

end PhaseAssertions.Text
