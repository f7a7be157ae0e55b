import Mathlib.Algebra.Ring.Nat
import Mathlib.Data.List.Basic
import PhaseAssertions.Failure

/-!
# Written times read back

The text of a timestamp says which timestamp it is.  It is read without knowing
how it was taken apart: a minus sign is followed by a count of nanoseconds, and
any other text is a sum of counts of units, in whatever order and however large
the counts.  So it does not matter that the larger units are no multiples of one
another; all that is used of the greedy decomposition is that each unit leaves
its remainder to the next one, and that the last unit leaves none.

A location of a failure is written with the texts of its times.  These have no
point in them, so the two points of a span tell where one ends and the other
begins.
-/

namespace PhaseAssertions

namespace Timestamp

/-! ## Reading times -/

/-- The nanoseconds of the unit that a word stands for. -/
def unitLength? : String → Option Nat
  | "year" | "years" => some (31557600 * 10 ^ 9)
  | "month" | "months" => some (2630016 * 10 ^ 9)
  | "day" | "days" => some (24 * 60 * 60 * 10 ^ 9)
  | "h" => some (60 * 60 * 10 ^ 9)
  | "m" => some (60 * 10 ^ 9)
  | "s" => some (10 ^ 9)
  | "ms" => some (10 ^ 6)
  | "us" => some (10 ^ 3)
  | "ns" => some 1
  | _ => none

/-- The nanoseconds of one item: its digits times the unit that follows them. -/
def readItem? (item : List Char) : Option Nat :=
  (unitLength? (String.ofList (item.dropWhile Char.isDigit))).map fun length =>
    Nat.ofDigitChars 10 (item.takeWhile Char.isDigit) 0 * length

/-- The nanoseconds of items with a space between any two of them. -/
def readItems? (items : List Char) : Option Nat :=
  ((items.splitOn ' ').mapM readItem?).map List.sum

/-- The nanoseconds that a text of a time stands for. -/
def read? : List Char → Option Int
  | '-' :: item =>
    if item.dropWhile Char.isDigit = ['n', 's'] then
      (readItem? item).map fun nanoseconds => -(nanoseconds : Int)
    else
      none
  | items => (readItems? items).map fun nanoseconds => (nanoseconds : Int)

/-! ## Items -/

/-- The characters that stand between items and times, or before a count. -/
def marks : List Char :=
  [' ', '.', '-']

/-- A word that can follow the digits of a count: it has neither digits nor marks. -/
def IsWord (word : String) : Prop :=
  ∀ character ∈ word.toList, character.isDigit = false ∧ character ∉ marks

instance (word : String) : Decidable (IsWord word) :=
  List.decidableBAll _ word.toList

theorem words_of_mem_units :
    ∀ unit ∈ units,
      (IsWord unit.singular ∧ unitLength? unit.singular = some unit.nanoseconds) ∧
        IsWord unit.plural ∧ unitLength? unit.plural = some unit.nanoseconds := by
  decide

theorem isDigit_of_mem_toDigits {count : Nat} :
    ∀ character ∈ Nat.toDigits 10 count, character.isDigit = true := fun _ found =>
  Nat.isDigit_of_mem_toDigits (by decide) (by decide) found

theorem isDigit_of_mem_marks : ∀ mark ∈ marks, mark.isDigit = false := by
  simp [marks]

theorem toList_toString (count : Nat) : (toString count).toList = Nat.toDigits 10 count := by
  rw [Nat.toString_eq_repr, Nat.repr_eq_ofList_toDigits, String.toList_ofList]

section Word

variable {word : String} (isWord : IsWord word) (count : Nat)

include isWord

theorem takeWhile_digits :
    (Nat.toDigits 10 count ++ word.toList).takeWhile Char.isDigit = Nat.toDigits 10 count := by
  rw [List.takeWhile_append_of_pos isDigit_of_mem_toDigits]
  cases letters : word.toList with
  | nil => exact List.append_nil _
  | cons first rest =>
      have noDigit := (isWord first (by simp [letters])).1
      rw [List.takeWhile_cons_of_neg (by simp [noDigit]), List.append_nil]

theorem dropWhile_digits :
    (Nat.toDigits 10 count ++ word.toList).dropWhile Char.isDigit = word.toList := by
  rw [List.dropWhile_append_of_pos isDigit_of_mem_toDigits]
  cases letters : word.toList with
  | nil => rfl
  | cons first rest =>
      have noDigit := (isWord first (by simp [letters])).1
      rw [List.dropWhile_cons_of_neg (by simp [noDigit])]

/-- A count with a word behind it is read as that many of what the word stands for. -/
theorem readItem?_count {length : Nat} (known : unitLength? word = some length) :
    readItem? (Nat.toDigits 10 count ++ word.toList) = some (count * length) := by
  rw [readItem?, dropWhile_digits isWord, takeWhile_digits isWord, String.ofList_toList, known,
    Nat.ofDigitChars_ten_toDigits]
  rfl

theorem mark_notMem_count {mark : Char} (special : mark ∈ marks) :
    mark ∉ Nat.toDigits 10 count ++ word.toList := by
  intro member
  rcases List.mem_append.1 member with digit | letter
  · have noDigit := isDigit_of_mem_marks mark special
    rw [isDigit_of_mem_toDigits mark digit] at noDigit
    cases noDigit
  · exact (isWord mark letter).2 special

end Word

/-- The word behind the count of an item. -/
def word (item : Nat × TimeUnit) : String :=
  if item.1 = 1 then item.2.singular else item.2.plural

theorem toList_itemText (item : Nat × TimeUnit) :
    (itemText item).toList = Nat.toDigits 10 item.1 ++ (word item).toList := by
  rw [itemText, String.toList_append, toList_toString, word]

theorem isWord_of_mem_units {item : Nat × TimeUnit} (known : item.2 ∈ units) :
    IsWord (word item) ∧ unitLength? (word item) = some item.2.nanoseconds := by
  have words := words_of_mem_units item.2 known
  rw [word]
  split
  · exact words.1
  · exact words.2

theorem readItem?_itemText {item : Nat × TimeUnit} (known : item.2 ∈ units) :
    readItem? (itemText item).toList = some (item.1 * item.2.nanoseconds) := by
  rcases isWord_of_mem_units known with ⟨isWord, length⟩
  rw [toList_itemText, readItem?_count isWord item.1 length]

theorem mark_notMem_itemText
    {item : Nat × TimeUnit} (known : item.2 ∈ units) {mark : Char} (special : mark ∈ marks) :
    mark ∉ (itemText item).toList := by
  rw [toList_itemText]
  exact mark_notMem_count (isWord_of_mem_units known).1 item.1 special

/-! ## The decomposition -/

/-- What a greedy decomposition leaves over. -/
def remainder : List TimeUnit → Nat → Nat
  | [], amount => amount
  | unit :: rest, amount => remainder rest (amount % unit.nanoseconds)

theorem unit_mem_of_mem_decompose
    {available : List TimeUnit} {amount : Nat} {item : Nat × TimeUnit}
    (found : item ∈ decompose available amount) : item.2 ∈ available := by
  induction available generalizing amount with
  | nil => cases found
  | cons unit rest induction =>
      rw [decompose] at found
      split at found
      · exact List.mem_cons_of_mem _ (induction found)
      · rcases List.mem_cons.1 found with rfl | later
        · exact List.mem_cons_self
        · exact List.mem_cons_of_mem _ (induction later)

/-- The items of a decomposition add up to the amount, up to what is left over. -/
theorem sum_decompose (available : List TimeUnit) (amount : Nat) :
    ((decompose available amount).map fun item => item.1 * item.2.nanoseconds).sum +
        remainder available amount =
      amount := by
  induction available generalizing amount with
  | nil => exact Nat.zero_add amount
  | cons unit rest induction =>
      have split := Nat.div_add_mod' amount unit.nanoseconds
      have behind := induction (amount % unit.nanoseconds)
      rw [decompose, remainder]
      by_cases absent : amount / unit.nanoseconds = 0
      · rw [absent, Nat.zero_mul, Nat.zero_add] at split
        rw [if_pos absent, behind, split]
      · rw [if_neg absent, List.map_cons, List.sum_cons, Nat.add_assoc, behind, split]

/-- A nanosecond is the last unit, so nothing is left over. -/
theorem remainder_units (amount : Nat) : remainder units amount = 0 := by
  simp only [units, TimeUnit.ofSymbol, remainder, Nat.mod_one]

/-! ## Durations -/

theorem mapM_readItem? {items : List (Nat × TimeUnit)} (known : ∀ item ∈ items, item.2 ∈ units) :
    (items.map fun item => (itemText item).toList).mapM readItem? =
      some (items.map fun item => item.1 * item.2.nanoseconds) := by
  induction items with
  | nil => rfl
  | cons item rest induction =>
      rw [List.forall_mem_cons] at known
      rw [List.map_cons, List.mapM_cons, readItem?_itemText known.1, induction known.2]
      rfl

theorem toList_intercalate_items (items : List (Nat × TimeUnit)) :
    (" ".intercalate (items.map itemText)).toList =
      [' '].intercalate (items.map fun item => (itemText item).toList) := by
  rw [String.toList_intercalate, List.map_map]
  rfl

/-- Items with spaces between them are read as their sum. -/
theorem readItems?_intercalate
    {items : List (Nat × TimeUnit)} (known : ∀ item ∈ items, item.2 ∈ units)
    (nonempty : items ≠ []) :
    readItems? (" ".intercalate (items.map itemText)).toList =
      some (items.map fun item => item.1 * item.2.nanoseconds).sum := by
  have unspaced :
      ∀ text ∈ items.map (fun item => (itemText item).toList), ' ' ∉ text := by
    intro text member
    rcases List.mem_map.1 member with ⟨item, found, rfl⟩
    exact mark_notMem_itemText (known item found) (by decide)
  rw [readItems?, toList_intercalate_items,
    List.splitOn_intercalate ' ' unspaced (by simpa using nonempty), mapM_readItem? known]
  rfl

theorem readItems?_durationText (nanoseconds : Nat) :
    readItems? (durationText nanoseconds).toList = some nanoseconds := by
  have whole := sum_decompose units nanoseconds
  have known : ∀ item ∈ decompose units nanoseconds, item.2 ∈ units := fun _ =>
    unit_mem_of_mem_decompose
  rw [remainder_units, Nat.add_zero] at whole
  rw [durationText]
  split
  next nothing =>
    rw [nothing] at whole
    obtain rfl : 0 = nanoseconds := whole
    decide
  next nonempty => rw [readItems?_intercalate known nonempty, whole]

theorem eq_or_mem_of_mem_intercalate
    {separator character : Char} {parts : List (List Char)}
    (member : character ∈ [separator].intercalate parts) :
    character = separator ∨ ∃ part ∈ parts, character ∈ part := by
  induction parts with
  | nil => cases member
  | cons part rest induction =>
      by_cases last : rest = []
      · rw [last, List.intercalate_singleton] at member
        exact .inr ⟨part, List.mem_cons_self, member⟩
      · rw [List.intercalate_cons_of_ne_nil last, List.mem_append, List.mem_append,
          List.mem_singleton] at member
        rcases member with (inside | between) | behind
        · exact .inr ⟨part, List.mem_cons_self, inside⟩
        · exact .inl between
        · exact (induction behind).imp_right fun ⟨other, found, inside⟩ =>
            ⟨other, List.mem_cons_of_mem _ found, inside⟩

/-- Of the marks, only spaces stand in a duration. -/
theorem mark_notMem_durationText
    {mark : Char} (special : mark ∈ marks) (noSpace : mark ≠ ' ') (nanoseconds : Nat) :
    mark ∉ (durationText nanoseconds).toList := by
  have known : ∀ item ∈ decompose units nanoseconds, item.2 ∈ units := fun _ =>
    unit_mem_of_mem_decompose
  rw [durationText]
  split
  · have others : mark = '.' ∨ mark = '-' := by simpa [marks, noSpace] using special
    rcases others with rfl | rfl <;> decide
  · intro member
    rw [toList_intercalate_items] at member
    rcases eq_or_mem_of_mem_intercalate member with space | ⟨part, found, inside⟩
    · exact noSpace space
    · rcases List.mem_map.1 found with ⟨item, chosen, rfl⟩
      exact mark_notMem_itemText (known item chosen) special inside

/-- A duration does not start with a minus sign, so it is read as the sum of its items. -/
theorem read?_durationText (nanoseconds : Nat) :
    read? (durationText nanoseconds).toList = some (nanoseconds : Int) := by
  have items := readItems?_durationText nanoseconds
  have unsigned : '-' ∉ (durationText nanoseconds).toList :=
    mark_notMem_durationText (by decide) (by decide) nanoseconds
  unfold read?
  split
  next signed =>
    rw [signed] at unsigned
    exact absurd List.mem_cons_self unsigned
  next => rw [items]; rfl

/-! ## Timestamps -/

theorem isWord_nanoseconds : IsWord "ns" ∧ unitLength? "ns" = some 1 := by
  decide

theorem text_of_ofNat {timestamp : Int64} {nanoseconds : Nat}
    (later : timestamp.toInt = .ofNat nanoseconds) :
    text timestamp = durationText nanoseconds := by
  rw [text, later]

theorem toList_text_of_negSucc {timestamp : Int64} {nanoseconds : Nat}
    (earlier : timestamp.toInt = .negSucc nanoseconds) :
    (text timestamp).toList = '-' :: (Nat.toDigits 10 (nanoseconds + 1) ++ "ns".toList) := by
  have count : toString (Int.negSucc nanoseconds) = "-" ++ toString (nanoseconds + 1) := rfl
  rw [text, earlier]
  dsimp only
  rw [String.toList_append, count, String.toList_append, toList_toString]
  rfl

/-- The text of a timestamp is read as that timestamp. -/
theorem read?_toList_text (timestamp : Int64) :
    read? (text timestamp).toList = some timestamp.toInt := by
  cases value : timestamp.toInt with
  | ofNat nanoseconds =>
      rw [text_of_ofNat value, read?_durationText]
      rfl
  | negSucc nanoseconds =>
      rcases isWord_nanoseconds with ⟨isWord, length⟩
      have letters : "ns".toList = ['n', 's'] := rfl
      rw [toList_text_of_negSucc value, read?, dropWhile_digits isWord, if_pos letters,
        readItem?_count isWord _ length, Nat.mul_one]
      rfl

theorem point_notMem_text (timestamp : Int64) : '.' ∉ (text timestamp).toList := by
  cases value : timestamp.toInt with
  | ofNat nanoseconds =>
      rw [text_of_ofNat value]
      exact mark_notMem_durationText (by decide) (by decide) nanoseconds
  | negSucc nanoseconds =>
      rw [toList_text_of_negSucc value, List.mem_cons]
      rintro (sign | inside)
      · cases sign
      · exact mark_notMem_count isWord_nanoseconds.1 _ (by decide) inside

end Timestamp

/-! ## Locations -/

namespace FailureLocation

/-- The times that a location is about, unless it is the whole trace. -/
def times? : FailureLocation → Option (List Int)
  | .entry _ timestamp => some [timestamp.toInt]
  | .span start finish => some [start.toInt, finish.toInt]
  | .trace => none

/-- The times that the text of a location stands for: one, or two with two points between them. -/
def readTimes? (text : List Char) : Option (List Int) :=
  match text.splitOn '.' with
  | [time] => [time].mapM Timestamp.read?
  | [start, [], finish] => [start, finish].mapM Timestamp.read?
  | _ => none

theorem readTimes?_toList_text (location : FailureLocation) :
    readTimes? location.text.toList = location.times? := by
  cases location with
  | entry index timestamp =>
      have pointless : ∀ part ∈ [(Timestamp.text timestamp).toList], '.' ∉ part := by
        simpa using Timestamp.point_notMem_text timestamp
      have split := List.splitOn_intercalate '.' pointless (by simp)
      rw [List.intercalate_singleton] at split
      simp [readTimes?, text, split, Timestamp.read?_toList_text, times?]
  | span start finish =>
      have pointless :
          ∀ part ∈ [(Timestamp.text start).toList, [], (Timestamp.text finish).toList],
            '.' ∉ part := by
        simpa using ⟨Timestamp.point_notMem_text start, Timestamp.point_notMem_text finish⟩
      have split := List.splitOn_intercalate '.' pointless (by simp)
      have written :
          (text (.span start finish)).toList =
            ['.'].intercalate
              [(Timestamp.text start).toList, [], (Timestamp.text finish).toList] := by
        simp [text]
      rw [readTimes?, written, split]
      simp [Timestamp.read?_toList_text, times?]
  | trace => decide

end FailureLocation

/--
Displayed times lose nothing.  The text of a timestamp is read as that timestamp,
so no two timestamps share a text; and the text of a location is read as the
times that it is about, whether they are one or two.
-/
theorem Timestamp.text_read :
    (∀ timestamp : Int64, read? (text timestamp).toList = some timestamp.toInt) ∧
      Function.Injective text ∧
      (∀ location : FailureLocation,
        FailureLocation.readTimes? location.text.toList = location.times?) ∧
      ∀ location other : FailureLocation,
        location.text = other.text → location.times? = other.times? := by
  refine ⟨read?_toList_text, ?_, FailureLocation.readTimes?_toList_text, ?_⟩
  · intro timestamp other same
    have values := (read?_toList_text timestamp).symm.trans (same ▸ read?_toList_text other)
    exact Int64.toInt_inj.1 (Option.some.inj values)
  · intro location other same
    rw [← location.readTimes?_toList_text, same, other.readTimes?_toList_text]

/-- The extremes and zero, and a location over all of time. -/
theorem Timestamp.extremes_read :
    text Int64.minValue = "-9223372036854775808ns" ∧
      text Int64.maxValue = "292years 3months 7days 16h 6m 28s 854ms 775us 807ns" ∧
      read? (text Int64.maxValue).toList = some 9223372036854775807 ∧
      read? (text 0).toList = some 0 ∧
      FailureLocation.times? (.entry 3 Int64.minValue) =
        FailureLocation.times? (.entry 5 Int64.minValue) := by
  rcases text_read with ⟨read, _, _, determined⟩
  exact ⟨by decide, by decide, read Int64.maxValue, read 0, determined _ _ rfl⟩

end PhaseAssertions
