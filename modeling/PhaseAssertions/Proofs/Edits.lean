import Mathlib.Data.List.Basic

/-!
# Edits of texts

An edit inserts a character, deletes one, replaces one or exchanges two
neighbours.  How many edits lead from one text to another is a question about
walks between texts, in which characters that were moved may be edited again.

An alignment settles it without walking: it passes over both texts once.  Two
characters that cross one another may have others between them; those of the
source are deleted and those of the target inserted.  Each alignment is a walk of
the same cost.  Conversely one more edit of the target makes a given alignment
dearer by at most one, so every walk is matched by an alignment that costs no
more.
-/

namespace PhaseAssertions.Text

/-! ## Edits -/

/-- One edit of a text: at its front, or behind its first character. -/
inductive Edit : List Char → List Char → Prop where
  | insert (character : Char) (text : List Char) : Edit text (character :: text)
  | delete (character : Char) (text : List Char) : Edit (character :: text) text
  | replace (old new : Char) (text : List Char) : Edit (old :: text) (new :: text)
  /-- Two neighbours change places. -/
  | exchange (first second : Char) (text : List Char) :
      Edit (first :: second :: text) (second :: first :: text)
  | behind (character : Char) {source target : List Char} (edit : Edit source target) :
      Edit (character :: source) (character :: target)

namespace Edit

variable {source target : List Char}

theorem symm (edit : Edit source target) : Edit target source := by
  induction edit with
  | insert character text => exact .delete character text
  | delete character text => exact .insert character text
  | replace old new text => exact .replace new old text
  | exchange first second text => exact .exchange second first text
  | behind character edit induction => exact .behind character induction

theorem prepend (before : List Char) (edit : Edit source target) :
    Edit (before ++ source) (before ++ target) := by
  induction before with
  | nil => exact edit
  | cons character before induction => exact .behind character induction

theorem append (edit : Edit source target) (after : List Char) :
    Edit (source ++ after) (target ++ after) := by
  induction edit with
  | insert character text => exact .insert character _
  | delete character text => exact .delete character _
  | replace old new text => exact .replace old new _
  | exchange first second text => exact .exchange first second _
  | behind character edit induction => exact .behind character induction

/-- What can be edited at the front can be edited at the end. -/
theorem reverse (edit : Edit source target) : Edit source.reverse target.reverse := by
  induction edit with
  | insert character text =>
      simpa using (Edit.insert character []).prepend text.reverse
  | delete character text =>
      simpa using (Edit.delete character []).prepend text.reverse
  | replace old new text =>
      simpa using (Edit.replace old new []).prepend text.reverse
  | exchange first second text =>
      simpa using (Edit.exchange second first []).prepend text.reverse
  | behind character edit induction =>
      simpa using induction.append [character]

/-- An edit adds at most one character of a kind. -/
theorem countP_le (edit : Edit source target) (kind : Char → Bool) :
    target.countP kind ≤ source.countP kind + 1 := by
  induction edit with
  | behind character edit induction =>
      rw [List.countP_cons, List.countP_cons]
      omega
  | _ =>
      simp only [List.countP_cons]
      split_ifs <;> omega

end Edit

/-- A number of edits that lead from one text to another. -/
inductive Edits : Nat → List Char → List Char → Prop where
  | refl (text : List Char) : Edits 0 text text
  | step {count : Nat} {source middle target : List Char}
      (edits : Edits count source middle) (edit : Edit middle target) :
      Edits (count + 1) source target

namespace Edits

variable {count more : Nat} {source middle target : List Char}

theorem single (edit : Edit source target) : Edits 1 source target :=
  .step (.refl source) edit

theorem trans (edits : Edits count source middle) (later : Edits more middle target) :
    Edits (count + more) source target := by
  induction later with
  | refl => exact edits
  | step _ edit induction => exact .step (induction edits) edit

theorem symm (edits : Edits count source target) : Edits count target source := by
  induction edits with
  | refl text => exact .refl text
  | @step count source middle target edits edit induction =>
      rw [Nat.add_comm]
      exact (single edit.symm).trans induction

theorem behind (character : Char) (edits : Edits count source target) :
    Edits count (character :: source) (character :: target) := by
  induction edits with
  | refl text => exact .refl _
  | step _ edit induction => exact .step induction (.behind character edit)

theorem reverse (edits : Edits count source target) :
    Edits count source.reverse target.reverse := by
  induction edits with
  | refl text => exact .refl _
  | step _ edit induction => exact .step induction edit.reverse

theorem delete (removed source : List Char) :
    Edits removed.length (removed ++ source) source := by
  induction removed with
  | nil => exact .refl source
  | cons character removed induction =>
      rw [List.length_cons, Nat.add_comm]
      exact (single (.delete character _)).trans induction

theorem insert (added target : List Char) : Edits added.length target (added ++ target) :=
  (delete added target).symm

/-- Edits add at most one character of a kind each. -/
theorem countP_le (edits : Edits count source target) (kind : Char → Bool) :
    target.countP kind ≤ source.countP kind + count := by
  induction edits with
  | refl text => exact Nat.le_refl _
  | step _ edit induction =>
      have last := edit.countP_le kind
      omega

end Edits

/-- Whether at most `bound` edits lead from one text to another. -/
def WithinEdits (bound : Nat) (source target : List Char) : Prop :=
  ∃ count ≤ bound, Edits count source target

namespace WithinEdits

variable {bound more : Nat} {source middle target : List Char}

theorem symm (within : WithinEdits bound source target) : WithinEdits bound target source := by
  rcases within with ⟨count, le, edits⟩
  exact ⟨count, le, edits.symm⟩

theorem trans
    (within : WithinEdits bound source middle) (later : WithinEdits more middle target) :
    WithinEdits (bound + more) source target := by
  rcases within with ⟨count, le, edits⟩
  rcases later with ⟨other, otherLe, others⟩
  exact ⟨count + other, Nat.add_le_add le otherLe, edits.trans others⟩

theorem reverse_iff :
    WithinEdits bound source.reverse target.reverse ↔ WithinEdits bound source target := by
  constructor
  · rintro ⟨count, le, edits⟩
    exact ⟨count, le, by simpa using edits.reverse⟩
  · rintro ⟨count, le, edits⟩
    exact ⟨count, le, edits.reverse⟩

theorem countP_le (within : WithinEdits bound source target) (kind : Char → Bool) :
    target.countP kind ≤ source.countP kind + bound := by
  rcases within with ⟨count, le, edits⟩
  have counted := edits.countP_le kind
  omega

end WithinEdits

/-! ## Alignments -/

/--
An alignment of two texts with its cost, read from their ends to their fronts: the
character that an alignment is extended by is the first one of a text.
-/
inductive Alignment : Nat → List Char → List Char → Prop where
  | nil : Alignment 0 [] []
  | keep {cost : Nat} {source target : List Char} (character : Char)
      (rest : Alignment cost source target) :
      Alignment cost (character :: source) (character :: target)
  | replace {cost : Nat} {source target : List Char} (old new : Char)
      (rest : Alignment cost source target) :
      Alignment (cost + 1) (old :: source) (new :: target)
  | delete {cost : Nat} {source target : List Char} (character : Char)
      (rest : Alignment cost source target) :
      Alignment (cost + 1) (character :: source) target
  | insert {cost : Nat} {source target : List Char} (character : Char)
      (rest : Alignment cost source target) :
      Alignment (cost + 1) source (character :: target)
  /-- Two characters cross; `removed` and `added` stand between them. -/
  | cross {cost : Nat} {source target : List Char} (removed added : List Char)
      (first last : Char) (rest : Alignment cost source target) :
      Alignment (cost + removed.length + 1 + added.length)
        (last :: (removed ++ first :: source)) (first :: (added ++ last :: target))

/-- Whether an alignment of two texts costs at most `bound`. -/
def Aligned (bound : Nat) (source target : List Char) : Prop :=
  ∃ cost ≤ bound, Alignment cost source target

namespace Aligned

variable {bound more : Nat} {source target : List Char}

theorem mono (aligned : Aligned bound source target) (le : bound ≤ more) :
    Aligned more source target := by
  rcases aligned with ⟨cost, bounded, alignment⟩
  exact ⟨cost, Nat.le_trans bounded le, alignment⟩

theorem keep (character : Char) (aligned : Aligned bound source target) :
    Aligned bound (character :: source) (character :: target) := by
  rcases aligned with ⟨cost, bounded, alignment⟩
  exact ⟨cost, bounded, .keep character alignment⟩

theorem replace (old new : Char) (aligned : Aligned bound source target) :
    Aligned (bound + 1) (old :: source) (new :: target) := by
  rcases aligned with ⟨cost, bounded, alignment⟩
  exact ⟨cost + 1, Nat.succ_le_succ bounded, .replace old new alignment⟩

theorem delete (character : Char) (aligned : Aligned bound source target) :
    Aligned (bound + 1) (character :: source) target := by
  rcases aligned with ⟨cost, bounded, alignment⟩
  exact ⟨cost + 1, Nat.succ_le_succ bounded, .delete character alignment⟩

theorem insert (character : Char) (aligned : Aligned bound source target) :
    Aligned (bound + 1) source (character :: target) := by
  rcases aligned with ⟨cost, bounded, alignment⟩
  exact ⟨cost + 1, Nat.succ_le_succ bounded, .insert character alignment⟩

theorem cross
    (removed added : List Char) (first last : Char) (aligned : Aligned bound source target) :
    Aligned (bound + removed.length + 1 + added.length)
      (last :: (removed ++ first :: source)) (first :: (added ++ last :: target)) := by
  rcases aligned with ⟨cost, bounded, alignment⟩
  exact ⟨_, by omega, .cross removed added first last alignment⟩

theorem deleteAll (removed : List Char) (aligned : Aligned bound source target) :
    Aligned (bound + removed.length) (removed ++ source) target := by
  induction removed with
  | nil => exact aligned
  | cons character removed induction => exact induction.delete character

theorem insertAll (added : List Char) (aligned : Aligned bound source target) :
    Aligned (bound + added.length) source (added ++ target) := by
  induction added with
  | nil => exact aligned
  | cons character added induction => exact induction.insert character

theorem refl (text : List Char) : Aligned 0 text text := by
  induction text with
  | nil => exact ⟨0, Nat.le_refl 0, .nil⟩
  | cons character text induction => exact induction.keep character

/-- Of two characters that would cross, one is kept and the other deleted and inserted. -/
theorem uncross
    (removed added : List Char) (first last : Char) (aligned : Aligned bound source target) :
    Aligned (bound + removed.length + 1 + added.length)
      (last :: (removed ++ first :: source)) (first :: (added ++ target)) := by
  have kept := ((aligned.insertAll added).keep first).deleteAll removed
  exact (kept.delete last).mono (by omega)

end Aligned

/-- An alignment is a number of edits. -/
theorem Alignment.edits {cost : Nat} {source target : List Char}
    (alignment : Alignment cost source target) : Edits cost source target := by
  induction alignment with
  | nil => exact .refl []
  | keep character _ induction => exact induction.behind character
  | replace old new _ induction =>
      exact .step (induction.behind old) (.replace old new _)
  | delete character _ induction =>
      rw [Nat.add_comm]
      exact (Edits.single (.delete character _)).trans induction
  | insert character _ induction => exact .step induction (.insert character _)
  | @cross cost source target removed added first last _ induction =>
      -- What was between the two is deleted, they change places, and the rest follows.
      have near : Edits removed.length (last :: (removed ++ first :: source))
          (last :: first :: source) :=
        (Edits.delete removed _).behind last
      have crossed : Edits 1 (last :: first :: source) (first :: last :: source) :=
        .single (.exchange last first source)
      have behind : Edits cost (first :: last :: source) (first :: last :: target) :=
        (induction.behind last).behind first
      have apart : Edits added.length (first :: last :: target)
          (first :: (added ++ last :: target)) :=
        (Edits.insert added _).behind first
      have whole := ((near.trans crossed).trans behind).trans apart
      rwa [show removed.length + 1 + cost + added.length =
        cost + removed.length + 1 + added.length by omega] at whole

/-! ## One more edit -/

/--
A character `last` is kept behind the alignment and then moves in front of the
first character of the target.  Characters that were deleted in between are
carried along, so that the case of a deletion can be led back to the others.
-/
theorem Alignment.exchange_kept
    {cost : Nat} {source : List Char} {first : Char} {target : List Char} (last : Char)
    (removed : List Char) (alignment : Alignment cost source (first :: target)) :
    Aligned (cost + removed.length + 1)
      (last :: (removed ++ source)) (first :: last :: target) := by
  generalize same : first :: target = whole at alignment
  induction alignment generalizing removed with
  | nil => cases same
  | keep character rest =>
      cases same
      exact (Aligned.cross removed [] first last ⟨_, Nat.le_refl _, rest⟩).mono (by simp)
  | replace old new rest =>
      cases same
      have kept := (Aligned.deleteAll (removed ++ [old]) ⟨_, Nat.le_refl _, rest⟩).keep last
      rw [List.append_assoc] at kept
      exact (kept.insert first).mono (by simp; omega)
  | delete character rest induction =>
      have moved := induction (removed ++ [character]) same
      rw [List.append_assoc] at moved
      exact moved.mono (by simp; omega)
  | insert character rest =>
      cases same
      have kept := (Aligned.deleteAll removed ⟨_, Nat.le_refl _, rest⟩).keep last
      exact (kept.insert first).mono (by omega)
  | cross taken added earlier later rest =>
      cases same
      have kept := (Aligned.deleteAll (taken ++ [first]) ⟨_, Nat.le_refl _, rest⟩).keep later
      have carried := ((kept.insertAll added).deleteAll removed).keep last
      rw [List.append_assoc] at carried
      exact (carried.insert first).mono (by simp; omega)

/-- How an edit can meet a text of which one character is singled out. -/
inductive EditAround (before : List Char) (middle : Char) (after : List Char) :
    List Char → Prop where
  | before (edited : List Char) (longer : edited.length ≤ before.length + 1) :
      EditAround before middle after (edited ++ middle :: after)
  | after {edited : List Char} (edit : Edit after edited) :
      EditAround before middle after (before ++ middle :: edited)
  | deleted : EditAround before middle after (before ++ after)
  | replaced (new : Char) : EditAround before middle after (before ++ new :: after)
  | forward (earlier : List Char) {neighbour : Char} (last : before = earlier ++ [neighbour]) :
      EditAround before middle after (earlier ++ middle :: neighbour :: after)
  | backward {later : List Char} {neighbour : Char} (first : after = neighbour :: later) :
      EditAround before middle after (before ++ neighbour :: middle :: later)

theorem EditAround.behind
    {before after edited : List Char} {middle : Char} (character : Char)
    (around : EditAround before middle after edited) :
    EditAround (character :: before) middle after (character :: edited) := by
  cases around with
  | before edited longer => exact .before (character :: edited) (by simpa using longer)
  | after edit => exact .after edit
  | deleted => exact .deleted
  | replaced new => exact .replaced new
  | forward earlier last => exact .forward (character :: earlier) (by rw [last]; rfl)
  | backward first => exact .backward first

theorem Edit.around
    {before after edited : List Char} {middle : Char}
    (edit : Edit (before ++ middle :: after) edited) :
    EditAround before middle after edited := by
  induction before generalizing edited with
  | nil =>
      cases edit with
      | insert character => exact .before [character] (by simp)
      | delete => exact .deleted
      | replace _ new => exact .replaced new
      | exchange _ second text => exact .backward rfl
      | behind _ edit => exact .after edit
  | cons character before induction =>
      rw [List.cons_append] at edit
      generalize same : before ++ middle :: after = rest at edit
      cases edit with
      | insert added =>
          rw [← same]
          exact .before (added :: character :: before) (by simp)
      | delete =>
          rw [← same]
          exact .before before (by simp; omega)
      | replace _ new =>
          rw [← same]
          exact .before (new :: before) (by simp)
      | exchange _ second text =>
          cases before with
          | nil =>
              cases same
              exact .forward [] rfl
          | cons next before =>
              cases same
              exact .before (second :: character :: before) (by simp)
      | behind _ edit =>
          rw [← same] at edit
          exact (induction edit).behind character

/-- One more edit of the target makes an alignment dearer by at most one. -/
theorem Alignment.edit
    {cost : Nat} {source target edited : List Char}
    (alignment : Alignment cost source target) (edit : Edit target edited) :
    Aligned (cost + 1) source edited := by
  induction alignment generalizing edited with
  | nil =>
      cases edit with
      | insert character => exact Aligned.insert character (.refl [])
  | @keep cost source target character rest induction =>
      have whole : Aligned cost source target := ⟨cost, Nat.le_refl _, rest⟩
      cases edit with
      | insert added => exact (whole.keep character).insert added
      | delete => exact whole.delete character
      | replace _ new => exact whole.replace character new
      | exchange _ second text => exact rest.exchange_kept character []
      | behind _ edit => exact (induction edit).keep character
  | @replace cost source target old new rest induction =>
      have whole : Aligned cost source target := ⟨cost, Nat.le_refl _, rest⟩
      cases edit with
      | insert added => exact (whole.replace old new).insert added
      | delete => exact (whole.delete old).mono (by omega)
      | replace _ newer => exact (whole.replace old newer).mono (by omega)
      | exchange _ second text =>
          exact (induction (.behind second (.insert new text))).delete old
      | behind _ edit => exact (induction edit).replace old new
  | delete character rest induction => exact (induction edit).delete character
  | @insert cost source target character rest induction =>
      have whole : Aligned cost source target := ⟨cost, Nat.le_refl _, rest⟩
      cases edit with
      | insert added => exact (whole.insert character).insert added
      | delete => exact whole.mono (by omega)
      | replace _ new => exact (whole.insert new).mono (by omega)
      | exchange _ second text =>
          exact (induction (.behind second (.insert character text))).mono (by omega)
      | behind _ edit => exact (induction edit).insert character
  | @cross cost source target removed added first last rest induction =>
      have whole : Aligned cost source target := ⟨cost, Nat.le_refl _, rest⟩
      -- Without `first` in front, `last` is kept instead.
      have kept :
          Aligned (cost + removed.length + 1 + added.length) (last :: (removed ++ first :: source))
            (added ++ last :: target) := by
        have deleted := whole.deleteAll (removed ++ [first])
        rw [List.append_assoc] at deleted
        exact ((deleted.keep last).insertAll added).mono (by simp; omega)
      generalize same : added ++ last :: target = tail at edit
      cases edit with
      | insert character =>
          rw [← same]
          exact (whole.cross removed added first last).insert character
      | delete =>
          rw [← same]
          exact kept.mono (by omega)
      | replace _ new =>
          rw [← same]
          exact kept.insert new
      | exchange _ second text =>
          cases added with
          | nil =>
              cases same
              exact (((whole.keep first).deleteAll removed).keep last).mono (by omega)
          | cons next added =>
              cases same
              exact ((whole.cross removed added first last).insert second).mono (by simp)
      | behind _ edit =>
          rw [← same] at edit
          cases edit.around with
          | before edited longer =>
              exact (whole.cross removed _ first last).mono (by omega)
          | after later =>
              exact ((induction later).cross removed added first last).mono (by omega)
          | deleted =>
              exact (whole.uncross removed added first last).mono (by omega)
          | replaced new =>
              have replaced := whole.uncross removed (added ++ [new]) first last
              rw [List.append_assoc] at replaced
              exact replaced.mono (by simp; omega)
          | @forward earlier neighbour ends =>
              have moved := (whole.insert neighbour).cross removed earlier first last
              exact moved.mono (by rw [ends]; simp; omega)
          | @backward later neighbour begins =>
              rw [begins] at induction
              have moved := induction (.behind neighbour (.insert last later))
              exact (moved.uncross removed added first last).mono (by omega)

/-- As many edits lead from one text to another as an alignment of the two costs. -/
theorem aligned_iff {bound : Nat} {source target : List Char} :
    Aligned bound source target ↔ WithinEdits bound source target := by
  constructor
  · rintro ⟨cost, le, alignment⟩
    exact ⟨cost, le, alignment.edits⟩
  · rintro ⟨count, le, edits⟩
    have aligned : Aligned count source target := by
      clear le
      induction edits with
      | refl text => exact .refl text
      | step _ edit induction =>
          rcases induction with ⟨cost, bounded, alignment⟩
          exact (alignment.edit edit).mono (by omega)
    exact aligned.mono le

end PhaseAssertions.Text
