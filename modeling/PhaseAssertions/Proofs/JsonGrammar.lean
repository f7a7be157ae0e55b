import Mathlib.Data.List.Basic
import PhaseAssertions.Json.Document

/-!
# The grammar of JSON

A document can be written in many ways: with white space between its parts,
with a character of a string as it is, by a short escape or by the hexadecimal
digits of its units, and with an exponent in either case and with or without a
plus sign.  The grammar says which texts these are, without regard to how they
are read.

Every text of the grammar is read as the document that it was written for.  A
value is read up to its end wherever it stands, so long as it is followed by a
space, a comma, a closing bracket or nothing.
-/

namespace PhaseAssertions.Json

/-! ## Strings -/

/-- The letters of the short escapes, with the characters that they stand for. -/
def shortEscapes : List (Char × Char) :=
  [ ('"', '"'), ('\\', '\\'), ('/', '/'), ('b', '\x08'), ('f', '\x0c'), ('n', '\n'),
    ('r', '\r'), ('t', '\t') ]

/-- Whether a character is the hexadecimal digit of a value, in either case. -/
def IsHexDigit (value : Nat) (digit : Char) : Prop :=
  value < 16 ∧ (digit = Nat.digitChar value ∨ digit = (Nat.digitChar value).toUpper)

instance (value : Nat) (digit : Char) : Decidable (IsHexDigit value digit) :=
  inferInstanceAs (Decidable (_ ∧ _))

/-- How an element of a string is written. -/
inductive Spelled.Written : Spelled → List Char → Prop where
  | plain {character : Char}
      (printable : 0x20 ≤ character.toNat) (unquoted : character ≠ '"')
      (unescaped : character ≠ '\\') :
      Written (.char character) [character]
  | short {escape character : Char} (known : (escape, character) ∈ shortEscapes) :
      Written (.char character) ['\\', escape]
  | unit {value₀ value₁ value₂ value₃ : Nat} {digit₀ digit₁ digit₂ digit₃ : Char}
      (first : IsHexDigit value₀ digit₀) (second : IsHexDigit value₁ digit₁)
      (third : IsHexDigit value₂ digit₂) (last : IsHexDigit value₃ digit₃) :
      Written (.unit (((value₀ * 16 + value₁) * 16 + value₂) * 16 + value₃))
        ['\\', 'u', digit₀, digit₁, digit₂, digit₃]

/-- How a string is written between its quotes. -/
inductive StringWritten : List Spelled → List Char → Prop where
  | nil : StringWritten [] []
  | cons {element : Spelled} {spelled : List Spelled} {text rest : List Char}
      (first : element.Written text) (others : StringWritten spelled rest) :
      StringWritten (element :: spelled) (text ++ rest)

/-! ## Numbers -/

/-- Whether some numbers are the digits of a part of a numeral. -/
def AreDigits (digits : List Nat) : Prop :=
  digits ≠ [] ∧ ∀ digit ∈ digits, digit < 10

instance (digits : List Nat) : Decidable (AreDigits digits) :=
  inferInstanceAs (Decidable (_ ∧ _))

def digitsText (digits : List Nat) : List Char :=
  digits.map Nat.digitChar

inductive FractionWritten : Option (List Nat) → List Char → Prop where
  | absent : FractionWritten none []
  | present {digits : List Nat} (areDigits : AreDigits digits) :
      FractionWritten (some digits) ('.' :: digitsText digits)

/-- The sign of an exponent; true stands for a minus sign. -/
inductive SignWritten : Bool → List Char → Prop where
  | minus : SignWritten true ['-']
  | plus : SignWritten false ['+']
  | omitted : SignWritten false []

inductive ExponentWritten : Option (Bool × List Nat) → List Char → Prop where
  | absent : ExponentWritten none []
  | present {mark : Char} {negative : Bool} {sign : List Char} {digits : List Nat}
      (known : mark = 'e' ∨ mark = 'E') (signed : SignWritten negative sign)
      (areDigits : AreDigits digits) :
      ExponentWritten (some (negative, digits)) (mark :: (sign ++ digitsText digits))

/-- How a number is written: a zero stands at the front of its digits only on its own. -/
inductive Numeral.Written : Numeral → List Char → Prop where
  | intro {negative : Bool} {whole : List Nat} {fraction : Option (List Nat)}
      {exponent : Option (Bool × List Nat)} {fractionText exponentText : List Char}
      (areDigits : AreDigits whole) (leading : whole.head? = some 0 → whole = [0])
      (fractional : FractionWritten fraction fractionText)
      (scaled : ExponentWritten exponent exponentText) :
      Written { negative, whole, fraction, exponent }
        ((if negative then ['-'] else []) ++
          (digitsText whole ++ (fractionText ++ exponentText)))

/-! ## Documents -/

/-- Whether characters may stand between the parts of a document. -/
def IsGap (gap : List Char) : Prop :=
  ∀ character ∈ gap, character ∈ [' ', '\n', '\r', '\t']

theorem isGap_nil : IsGap [] := by
  intro character found
  cases found

theorem IsGap.append {gap more : List Char} (isGap : IsGap gap) (isMore : IsGap more) :
    IsGap (gap ++ more) :=
  List.forall_mem_append.2 ⟨isGap, isMore⟩

/-- What the grammar has texts for; items and members are those between two brackets. -/
inductive Phrase where
  | value (document : Document)
  | items (documents : List Document)
  | members (members : List (List Spelled × Document))

/-- A name with its quotes, a colon with its white space, and a value. -/
def memberText (name gap₁ gap₂ value : List Char) : List Char :=
  '"' :: (name ++ '"' :: (gap₁ ++ ':' :: (gap₂ ++ value)))

/-- How a phrase is written. -/
inductive Phrase.Written : Phrase → List Char → Prop where
  | null : Written (.value .null) ['n', 'u', 'l', 'l']
  | truth : Written (.value (.bool true)) ['t', 'r', 'u', 'e']
  | falsehood : Written (.value (.bool false)) ['f', 'a', 'l', 's', 'e']
  | number {numeral : Numeral} {text : List Char} (literal : numeral.Written text) :
      Written (.value (.number numeral)) text
  | string {spelled : List Spelled} {text : List Char}
      (elements : StringWritten spelled text) :
      Written (.value (.string spelled)) ('"' :: (text ++ ['"']))
  | emptyArray {gap : List Char} (isGap : IsGap gap) :
      Written (.value (.array [])) ('[' :: (gap ++ [']']))
  | array {documents : List Document} {text : List Char}
      (items : Written (.items documents) text) :
      Written (.value (.array documents)) ('[' :: (text ++ [']']))
  | emptyObject {gap : List Char} (isGap : IsGap gap) :
      Written (.value (.object [])) ('\x7b' :: (gap ++ ['\x7d']))
  | object {members : List (List Spelled × Document)} {text : List Char}
      (written : Written (.members members) text) :
      Written (.value (.object members)) ('\x7b' :: (text ++ ['\x7d']))
  | lastItem {document : Document} {before text after : List Char}
      (gapBefore : IsGap before) (item : Written (.value document) text)
      (gapAfter : IsGap after) :
      Written (.items [document]) (before ++ (text ++ after))
  | item {document : Document} {documents : List Document} {before text after rest : List Char}
      (gapBefore : IsGap before) (item : Written (.value document) text)
      (gapAfter : IsGap after) (others : Written (.items documents) rest) :
      Written (.items (document :: documents)) (before ++ (text ++ (after ++ ',' :: rest)))
  | lastMember {spelled : List Spelled} {document : Document}
      {before name gap₁ gap₂ text after : List Char}
      (gapBefore : IsGap before) (named : StringWritten spelled name)
      (gapName : IsGap gap₁) (gapColon : IsGap gap₂)
      (value : Written (.value document) text) (gapAfter : IsGap after) :
      Written (.members [(spelled, document)]) (before ++ (memberText name gap₁ gap₂ text ++ after))
  | member {spelled : List Spelled} {document : Document}
      {members : List (List Spelled × Document)}
      {before name gap₁ gap₂ text after rest : List Char}
      (gapBefore : IsGap before) (named : StringWritten spelled name)
      (gapName : IsGap gap₁) (gapColon : IsGap gap₂)
      (value : Written (.value document) text) (gapAfter : IsGap after)
      (others : Written (.members members) rest) :
      Written (.members ((spelled, document) :: members))
        (before ++ (memberText name gap₁ gap₂ text ++ (after ++ ',' :: rest)))

/-- How a document is written, with white space around it. -/
def Document.Written (document : Document) (text : List Char) : Prop :=
  ∃ before value after,
    IsGap before ∧ Phrase.Written (.value document) value ∧ IsGap after ∧
      text = before ++ (value ++ after)

/-- A written object starts with white space or with its brace. -/
theorem exists_first_of_written
    {members : List (List Spelled × Document)} {text : List Char}
    (written : (Document.object members).Written text) :
    ∃ first rest, text = first :: rest ∧ first ∈ [' ', '\n', '\r', '\t', '\x7b'] := by
  rcases written with ⟨before, value, after, gapBefore, phrase, _, rfl⟩
  cases before with
  | cons first before =>
      have space := gapBefore first List.mem_cons_self
      exact ⟨first, before ++ (value ++ after), rfl, List.mem_append_left ['\x7b'] space⟩
  | nil =>
      cases phrase with
      | emptyObject isGap => exact ⟨'\x7b', _, rfl, by decide⟩
      | object members => exact ⟨'\x7b', _, rfl, by decide⟩

namespace Document

/-! ## Reading strings -/

/-- A character that needs no escape is read as it is. -/
theorem stringRest_plain
    {character : Char} (printable : 0x20 ≤ character.toNat)
    (unquoted : character ≠ '"') (unescaped : character ≠ '\\') (rest : Input) :
    stringRest (some character :: rest) =
      (stringRest rest).map fun read => (.char character :: read.1, read.2) := by
  rw [stringRest]
  · simp [Nat.not_lt.2 printable, unescaped]
    cases stringRest rest <;> rfl
  · simpa using unquoted
  · simp [unescaped]
  · simp [unescaped]

theorem stringRest_short
    {escape character : Char} (short : shortEscape? (some escape) = some character)
    (rest : Input) :
    stringRest (some '\\' :: some escape :: rest) =
      (stringRest rest).map fun read => (.char character :: read.1, read.2) := by
  have other : escape ≠ 'u' := by
    rintro rfl
    simp [shortEscape?] at short
  rw [stringRest]
  · simp [short]
    cases stringRest rest <;> rfl
  · simp [other]

theorem stringRest_unit
    {digit₀ digit₁ digit₂ digit₃ : Option Char} {code : Nat}
    (spelled : unit? digit₀ digit₁ digit₂ digit₃ = some code) (rest : Input) :
    stringRest (some '\\' :: some 'u' :: digit₀ :: digit₁ :: digit₂ :: digit₃ :: rest) =
      (stringRest rest).map fun read => (.unit code :: read.1, read.2) := by
  rw [stringRest, spelled]
  cases stringRest rest <;> rfl

theorem shortEscape?_of_mem :
    ∀ escape ∈ shortEscapes, shortEscape? (some escape.1) = some escape.2 := by
  decide

theorem hexDigit?_of_isHexDigit {value : Nat} {digit : Char} (isHex : IsHexDigit value digit) :
    hexDigit? (some digit) = some value := by
  have each : ∀ value < 16,
      hexDigit? (some (Nat.digitChar value)) = some value ∧
        hexDigit? (some (Nat.digitChar value).toUpper) = some value := by
    decide
  rcases isHex with ⟨small, rfl | rfl⟩
  · exact (each value small).1
  · exact (each value small).2

theorem stringRest_element
    {element : Spelled} {text : List Char} (written : element.Written text) (rest : Input) :
    stringRest (text.map some ++ rest) =
      (stringRest rest).map fun read => (element :: read.1, read.2) := by
  cases written with
  | plain printable unquoted unescaped => exact stringRest_plain printable unquoted unescaped rest
  | short known => exact stringRest_short (shortEscape?_of_mem _ known) rest
  | unit first second third last =>
      refine stringRest_unit ?_ rest
      simp [unit?, hexDigit?_of_isHexDigit first, hexDigit?_of_isHexDigit second,
        hexDigit?_of_isHexDigit third, hexDigit?_of_isHexDigit last]

/-- A string is read up to its closing quote. -/
theorem stringRest_written
    {spelled : List Spelled} {text : List Char} (written : StringWritten spelled text)
    (rest : Input) :
    stringRest (text.map some ++ some '"' :: rest) = some (spelled, rest) := by
  induction written with
  | nil => rfl
  | cons first others induction =>
      rw [List.map_append, List.append_assoc, stringRest_element first, induction]
      rfl

/-! ## White space -/

/-- Whether an item may end in front of the input. -/
def Follows (rest : Input) : Prop :=
  ∀ next ∈ rest.head?, next ∈ [' ', '\n', '\r', '\t', ',', ']', '\x7d'].map some

theorem isSpace_of_isGap {gap : List Char} (isGap : IsGap gap) :
    ∀ character ∈ gap.map some, isSpace character = true := by
  intro character member
  rcases List.mem_map.1 member with ⟨space, found, rfl⟩
  simpa [isSpace, or_assoc] using isGap space found

theorem skipSpace_gap {gap : List Char} (isGap : IsGap gap) (rest : Input) :
    skipSpace (gap.map some ++ rest) = skipSpace rest := by
  rw [skipSpace, List.dropWhile_append_of_pos (isSpace_of_isGap isGap), skipSpace]

theorem Follows.after_gap
    {gap : List Char} (isGap : IsGap gap) {rest : Input} (follows : Follows rest) :
    Follows (gap.map some ++ rest) := by
  cases gap with
  | nil => exact follows
  | cons space gap =>
      have spaces : space ∈ [' ', '\n', '\r', '\t'] := isGap space List.mem_cons_self
      intro next found
      cases found
      exact List.mem_map_of_mem (List.mem_append_left [',', ']', '\x7d'] spaces)

/-- Whether a value may start with a character: no space and no closing bracket or brace. -/
def isStart (character : Char) : Bool :=
  !isSpace (some character) && character != ']' && character != '\x7d'

/-- Whether the input starts like a value. -/
def Starts (input : Input) : Prop :=
  ∃ first tail, input = some first :: tail ∧ isStart first = true

theorem Starts.append {input : Input} (starts : Starts input) (rest : Input) :
    Starts (input ++ rest) := by
  rcases starts with ⟨first, tail, rfl, opens⟩
  exact ⟨first, tail ++ rest, rfl, opens⟩

theorem Starts.skipSpace_eq {input : Input} (starts : Starts input) :
    skipSpace input = input := by
  rcases starts with ⟨first, tail, rfl, opens⟩
  simp only [isStart, Bool.and_eq_true, Bool.not_eq_true'] at opens
  simp [skipSpace, opens.1.1]

/-! ## Reading numbers -/

/-- No part of a number starts where an item may end. -/
theorem Follows.ends_number {rest : Input} (follows : Follows rest) :
    digits rest = ([], rest) ∧ fractionPart rest = some (none, rest) ∧
      exponentPart rest = some (none, rest) := by
  cases rest with
  | nil => exact ⟨rfl, rfl, rfl⟩
  | cons next rest =>
      have closing := follows next rfl
      simp only [List.map_cons, List.map_nil, List.mem_cons, List.not_mem_nil, or_false] at closing
      rcases closing with rfl | rfl | rfl | rfl | rfl | rfl | rfl <;> exact ⟨rfl, rfl, rfl⟩

theorem digit?_digitChar : ∀ digit < 10, digit? (some (Nat.digitChar digit)) = some digit := by
  decide

/-- Digits are read as long as they last. -/
theorem digits_append
    {written : List Nat} (small : ∀ digit ∈ written, digit < 10) {rest : Input}
    (stops : digits rest = ([], rest)) :
    digits ((digitsText written).map some ++ rest) = (written, rest) := by
  induction written with
  | nil => exact stops
  | cons digit written induction =>
      rw [List.forall_mem_cons] at small
      have read := induction small.2
      rw [digitsText, List.map_cons, List.map_cons, List.cons_append, digits,
        digit?_digitChar digit small.1]
      rw [digitsText] at read
      simp only [read]

theorem someDigits_append
    {written : List Nat} (areDigits : AreDigits written) {rest : Input}
    (stops : digits rest = ([], rest)) :
    someDigits ((digitsText written).map some ++ rest) = some (written, rest) := by
  rw [someDigits, digits_append areDigits.2 stops]
  cases written with
  | nil => exact absurd rfl areDigits.1
  | cons digit written => rfl

theorem wholePart_append
    {written : List Nat} (areDigits : AreDigits written)
    (leading : written.head? = some 0 → written = [0]) {rest : Input}
    (stops : digits rest = ([], rest)) :
    wholePart ((digitsText written).map some ++ rest) = some (written, rest) := by
  rw [wholePart, digits_append areDigits.2 stops]
  cases written with
  | nil => exact absurd rfl areDigits.1
  | cons digit written =>
      cases digit with
      | zero =>
          rw [leading rfl]
          rfl
      | succ digit => rfl

theorem ne_of_isDigit
    {digit other : Char} (isDigit : digit.isDigit = true) (noDigit : other.isDigit = false) :
    digit ≠ other := by
  rintro rfl
  rw [isDigit] at noDigit
  cases noDigit

theorem exists_digitsText_eq_cons {written : List Nat} (areDigits : AreDigits written) :
    ∃ first rest, digitsText written = first :: rest ∧ first.isDigit = true := by
  cases written with
  | nil => exact absurd rfl areDigits.1
  | cons digit written =>
      have each : ∀ digit < 10, (Nat.digitChar digit).isDigit = true := by decide
      exact ⟨_, _, rfl, each digit (areDigits.2 digit List.mem_cons_self)⟩

theorem exponentSign_append
    {negative : Bool} {sign : List Char} (signed : SignWritten negative sign)
    {written : List Nat} (areDigits : AreDigits written) (rest : Input) :
    exponentSign (sign.map some ++ ((digitsText written).map some ++ rest)) =
      (negative, (digitsText written).map some ++ rest) := by
  cases signed with
  | minus => rfl
  | plus => rfl
  | omitted =>
      rcases exists_digitsText_eq_cons areDigits with ⟨first, others, spelled, isDigit⟩
      rw [spelled]
      apply exponentSign.eq_3
      · simp [ne_of_isDigit isDigit]
      · simp [ne_of_isDigit isDigit]

theorem exponentPart_append
    {exponent : Option (Bool × List Nat)} {text : List Char}
    (written : ExponentWritten exponent text) {rest : Input} (follows : Follows rest) :
    exponentPart (text.map some ++ rest) = some (exponent, rest) := by
  rcases follows.ends_number with ⟨stops, _, none⟩
  cases written with
  | absent => exact none
  | present known signed areDigits =>
      rw [List.map_cons, List.cons_append, List.map_append, List.append_assoc]
      rcases known with rfl | rfl <;>
        simp only [exponentPart, exponentSign_append signed areDigits,
          someDigits_append areDigits stops] <;> rfl

/-- Neither digits nor a fraction start where an exponent may. -/
theorem exponent_ends_fraction
    {exponent : Option (Bool × List Nat)} {text : List Char}
    (written : ExponentWritten exponent text) {rest : Input} (follows : Follows rest) :
    digits (text.map some ++ rest) = ([], text.map some ++ rest) ∧
      fractionPart (text.map some ++ rest) = some (none, text.map some ++ rest) := by
  rcases follows.ends_number with ⟨stops, none, _⟩
  cases written with
  | absent => exact ⟨stops, none⟩
  | present known signed areDigits => rcases known with rfl | rfl <;> exact ⟨rfl, rfl⟩

theorem fractionPart_append
    {fraction : Option (List Nat)} {text : List Char}
    (written : FractionWritten fraction text) {rest : Input}
    (stops : digits rest = ([], rest)) (none : fractionPart rest = some (none, rest)) :
    fractionPart (text.map some ++ rest) = some (fraction, rest) := by
  cases written with
  | absent => exact none
  | present areDigits =>
      rw [List.map_cons, List.cons_append, fractionPart, someDigits_append areDigits stops]
      rfl

theorem fraction_ends_whole
    {fraction : Option (List Nat)} {text : List Char}
    (written : FractionWritten fraction text) {rest : Input}
    (stops : digits rest = ([], rest)) :
    digits (text.map some ++ rest) = ([], text.map some ++ rest) := by
  cases written with
  | absent => exact stops
  | present areDigits => rfl

/-- A number is read behind its sign as far as its digits and its exponent go. -/
theorem numeral_append
    (negative : Bool) {whole : List Nat} {fraction : Option (List Nat)}
    {exponent : Option (Bool × List Nat)} {fractionText exponentText : List Char}
    (areDigits : AreDigits whole) (leading : whole.head? = some 0 → whole = [0])
    (fractional : FractionWritten fraction fractionText)
    (scaled : ExponentWritten exponent exponentText) {rest : Input} (follows : Follows rest) :
    numeral negative ((digitsText whole ++ (fractionText ++ exponentText)).map some ++ rest) =
      some ({ negative, whole, fraction, exponent }, rest) := by
  rcases exponent_ends_fraction scaled follows with ⟨stops, none⟩
  simp only [List.map_append, List.append_assoc]
  rw [numeral, wholePart_append areDigits leading (fraction_ends_whole fractional stops)]
  simp only [Option.bind_eq_bind, Option.bind_some, fractionPart_append fractional stops none,
    exponentPart_append scaled follows]
  rfl

/-! ## Reading documents -/

theorem value_number
    {numeral : Numeral} {text : List Char} (written : numeral.Written text) (fuel : Nat)
    {rest : Input} (follows : Follows rest) :
    value (fuel + 1) (text.map some ++ rest) = some (.number numeral, rest) := by
  cases written with
  | @intro negative whole _ _ _ _ areDigits leading fractional scaled =>
      have read := numeral_append negative areDigits leading fractional scaled follows
      cases negative with
      | true =>
          rw [if_pos rfl, List.cons_append, List.nil_append, List.map_cons, List.cons_append,
            value, read]
          rfl
      | false =>
          rcases exists_digitsText_eq_cons areDigits with ⟨first, others, spelled, isDigit⟩
          rw [if_neg Bool.false_ne_true, List.nil_append]
          rw [spelled, List.cons_append, List.map_cons, List.cons_append] at read ⊢
          rw [value]
          · rw [read]
            rfl
          all_goals simp [ne_of_isDigit isDigit]

theorem starts_number
    {numeral : Numeral} {text : List Char} (written : numeral.Written text) :
    Starts (text.map some) := by
  cases written with
  | @intro negative whole _ _ _ _ areDigits _ _ _ =>
      cases negative with
      | true => exact ⟨'-', _, rfl, rfl⟩
      | false =>
          rcases exists_digitsText_eq_cons areDigits with ⟨first, others, spelled, isDigit⟩
          rw [if_neg Bool.false_ne_true, List.nil_append, spelled]
          exact ⟨first, _, rfl, by simp [isStart, isSpace, ne_of_isDigit isDigit]⟩

/-- A written value starts in a way that no white space and no closing bracket does. -/
theorem starts_of_written
    {document : Document} {text : List Char} (written : Phrase.Written (.value document) text) :
    Starts (text.map some) := by
  cases written with
  | number literal => exact starts_number literal
  | null => exact ⟨'n', _, rfl, rfl⟩
  | truth => exact ⟨'t', _, rfl, rfl⟩
  | falsehood => exact ⟨'f', _, rfl, rfl⟩
  | string elements => exact ⟨'"', _, rfl, rfl⟩
  | emptyArray isGap => exact ⟨'[', _, rfl, rfl⟩
  | array items => exact ⟨'[', _, rfl, rfl⟩
  | emptyObject isGap => exact ⟨'\x7b', _, rfl, rfl⟩
  | object members => exact ⟨'\x7b', _, rfl, rfl⟩

theorem starts_member (name gap₁ gap₂ value : List Char) :
    Starts ((memberText name gap₁ gap₂ value).map some) :=
  ⟨'"', _, rfl, rfl⟩

theorem skipSpace_before
    {before text : List Char} (isGap : IsGap before) (starts : Starts (text.map some))
    (rest : Input) :
    skipSpace (before.map some ++ (text.map some ++ rest)) = text.map some ++ rest := by
  rw [skipSpace_gap isGap, (starts.append rest).skipSpace_eq]

theorem starts_items
    {documents : List Document} {text : List Char}
    (written : Phrase.Written (.items documents) text) (rest : Input) :
    Starts (skipSpace (text.map some ++ rest)) := by
  cases written with
  | lastItem gapBefore item gapAfter =>
      have starts := starts_of_written item
      simp only [List.map_append, List.append_assoc]
      rw [skipSpace_before gapBefore starts]
      exact starts.append _
  | item gapBefore item gapAfter others =>
      have starts := starts_of_written item
      simp only [List.map_append, List.append_assoc]
      rw [skipSpace_before gapBefore starts]
      exact starts.append _

theorem starts_members
    {written : List (List Spelled × Document)} {text : List Char}
    (phrase : Phrase.Written (.members written) text) (rest : Input) :
    Starts (skipSpace (text.map some ++ rest)) := by
  cases phrase with
  | lastMember gapBefore named gapName gapColon value gapAfter =>
      simp only [List.map_append, List.append_assoc]
      rw [skipSpace_before gapBefore (starts_member _ _ _ _)]
      exact (starts_member _ _ _ _).append _
  | member gapBefore named gapName gapColon value gapAfter others =>
      simp only [List.map_append, List.append_assoc]
      rw [skipSpace_before gapBefore (starts_member _ _ _ _)]
      exact (starts_member _ _ _ _).append _

theorem follows_of_mem
    {character : Char} (closing : character ∈ [' ', '\n', '\r', '\t', ',', ']', '\x7d'])
    (rest : Input) : Follows (some character :: rest) := by
  intro next found
  cases found
  exact List.mem_map_of_mem closing

/-- Whether a text is read as the phrase that it was written for, up to a closing bracket. -/
def Reads : Phrase → List Char → Prop
  | .value document, text =>
    ∀ fuel rest, Follows rest → text.length < fuel →
      value fuel (text.map some ++ rest) = some (document, rest)
  | .items documents, text =>
    ∀ fuel rest, text.length + 1 < fuel →
      items fuel (skipSpace (text.map some ++ some ']' :: rest)) = some (documents, rest)
  | .members written, text =>
    ∀ fuel rest, text.length + 1 < fuel →
      members fuel (skipSpace (text.map some ++ some '\x7d' :: rest)) = some (written, rest)

/-- An array that is not empty is read item by item. -/
theorem value_array
    {documents : List Document} {text : List Char}
    (written : Phrase.Written (.items documents) text) (reads : Reads (.items documents) text)
    {fuel : Nat} (enough : text.length + 1 < fuel) (rest : Input) :
    value (fuel + 1) (some '[' :: (text.map some ++ some ']' :: rest)) =
      some (.array documents, rest) := by
  have read := reads fuel rest enough
  rcases starts_items written (some ']' :: rest) with ⟨first, tail, same, opens⟩
  rw [same] at read
  rw [value, same]
  split
  next closed =>
    cases closed
    cases opens
  next =>
    rw [read]
    rfl

/-- An object that is not empty is read member by member. -/
theorem value_object
    {written : List (List Spelled × Document)} {text : List Char}
    (phrase : Phrase.Written (.members written) text) (reads : Reads (.members written) text)
    {fuel : Nat} (enough : text.length + 1 < fuel) (rest : Input) :
    value (fuel + 1) (some '\x7b' :: (text.map some ++ some '\x7d' :: rest)) =
      some (.object written, rest) := by
  have read := reads fuel rest enough
  rcases starts_members phrase (some '\x7d' :: rest) with ⟨first, tail, same, opens⟩
  rw [same] at read
  rw [value, same]
  split
  next closed =>
    cases closed
    cases opens
  next =>
    rw [read]
    rfl

/-- An item is read, and what comes behind it and its white space decides how it goes on. -/
theorem items_item
    {document : Document} {before text after : List Char} (gapBefore : IsGap before)
    (written : Phrase.Written (.value document) text) (reads : Reads (.value document) text)
    (gapAfter : IsGap after) {fuel : Nat} (enough : text.length < fuel)
    {rest : Input} (follows : Follows rest) :
    items (fuel + 1) (skipSpace (before.map some ++ (text.map some ++ (after.map some ++ rest)))) =
      match skipSpace rest with
      | some ']' :: rest => some ([document], rest)
      | some ',' :: rest =>
        (items fuel (skipSpace rest)).map fun (others, rest) => (document :: others, rest)
      | _ => none := by
  rw [skipSpace_before gapBefore (starts_of_written written), items,
    reads fuel _ (follows.after_gap gapAfter) enough]
  exact skipSpace_gap gapAfter rest ▸ rfl

/-- A member is read, and what comes behind it and its white space decides how it goes on. -/
theorem members_member
    {spelled : List Spelled} {document : Document}
    {before name gap₁ gap₂ text after : List Char} (gapBefore : IsGap before)
    (named : StringWritten spelled name) (gapName : IsGap gap₁) (gapColon : IsGap gap₂)
    (written : Phrase.Written (.value document) text) (reads : Reads (.value document) text)
    (gapAfter : IsGap after) {fuel : Nat} (enough : text.length < fuel)
    {rest : Input} (follows : Follows rest) :
    members (fuel + 1)
        (skipSpace
          (before.map some ++
            ((memberText name gap₁ gap₂ text).map some ++ (after.map some ++ rest)))) =
      match skipSpace rest with
      | some '\x7d' :: rest => some ([(spelled, document)], rest)
      | some ',' :: rest =>
        (members fuel (skipSpace rest)).map fun (others, rest) =>
          ((spelled, document) :: others, rest)
      | _ => none := by
  have colon (behind : Input) : skipSpace (some ':' :: behind) = some ':' :: behind := rfl
  rw [skipSpace_before gapBefore (starts_member _ _ _ _), memberText]
  simp only [List.map_cons, List.map_append, List.cons_append, List.append_assoc]
  rw [members, stringRest_written named]
  simp only [skipSpace_gap gapName, colon, skipSpace_before gapColon (starts_of_written written)]
  rw [reads fuel _ (follows.after_gap gapAfter) enough]
  exact skipSpace_gap gapAfter rest ▸ rfl

theorem skipSpace_comma (rest : Input) : skipSpace (some ',' :: rest) = some ',' :: rest :=
  rfl

theorem length_lt_memberText (name gap₁ gap₂ value : List Char) :
    value.length < (memberText name gap₁ gap₂ value).length := by
  simp only [memberText, List.length_cons, List.length_append]
  omega

/--
Whatever is written is read.  The bound on the fuel of items and members counts
the bracket in front of them, so it still holds behind a comma.
-/
theorem reads_of_written
    {phrase : Phrase} {text : List Char} (written : phrase.Written text) :
    Reads phrase text := by
  induction written with
  | null | truth | falsehood =>
      intro fuel rest follows enough
      obtain ⟨fuel, rfl⟩ := Nat.exists_eq_add_one.2 (Nat.zero_lt_of_lt enough)
      rfl
  | number literal =>
      intro fuel rest follows enough
      obtain ⟨fuel, rfl⟩ := Nat.exists_eq_add_one.2 (Nat.zero_lt_of_lt enough)
      exact value_number literal fuel follows
  | string elements =>
      intro fuel rest follows enough
      obtain ⟨fuel, rfl⟩ := Nat.exists_eq_add_one.2 (Nat.zero_lt_of_lt enough)
      rw [List.map_cons, List.map_append, List.cons_append, List.append_assoc, value,
        List.map_cons, List.map_nil, List.cons_append, List.nil_append,
        stringRest_written elements]
      rfl
  | emptyArray isGap | emptyObject isGap =>
      intro fuel rest follows enough
      obtain ⟨fuel, rfl⟩ := Nat.exists_eq_add_one.2 (Nat.zero_lt_of_lt enough)
      rw [List.map_cons, List.map_append, List.cons_append, List.append_assoc, value,
        skipSpace_gap isGap]
      rfl
  | array items induction =>
      intro fuel rest follows enough
      simp only [List.length_cons, List.length_append, List.length_nil] at enough
      obtain ⟨fuel, rfl⟩ := Nat.exists_eq_add_one.2 (Nat.zero_lt_of_lt enough)
      rw [List.map_cons, List.map_append, List.cons_append, List.append_assoc]
      exact value_array items induction (by omega) rest
  | object written induction =>
      intro fuel rest follows enough
      simp only [List.length_cons, List.length_append, List.length_nil] at enough
      obtain ⟨fuel, rfl⟩ := Nat.exists_eq_add_one.2 (Nat.zero_lt_of_lt enough)
      rw [List.map_cons, List.map_append, List.cons_append, List.append_assoc]
      exact value_object written induction (by omega) rest
  | lastItem gapBefore item gapAfter induction =>
      intro fuel rest enough
      simp only [List.length_append] at enough
      obtain ⟨fuel, rfl⟩ := Nat.exists_eq_add_one.2 (Nat.zero_lt_of_lt enough)
      simp only [List.map_append, List.append_assoc]
      rw [items_item gapBefore item induction gapAfter (by omega)
        (follows_of_mem (by decide) rest)]
      rfl
  | item gapBefore item gapAfter others induction inductionOthers =>
      intro fuel rest enough
      simp only [List.length_append, List.length_cons] at enough
      obtain ⟨fuel, rfl⟩ := Nat.exists_eq_add_one.2 (Nat.zero_lt_of_lt enough)
      simp only [List.map_append, List.map_cons, List.append_assoc, List.cons_append]
      rw [items_item gapBefore item induction gapAfter (by omega)
        (follows_of_mem (by decide) _)]
      simp only [skipSpace_comma]
      rw [inductionOthers fuel rest (by omega)]
      rfl
  | @lastMember _ _ _ name gap₁ gap₂ text _ gapBefore named gapName gapColon value gapAfter
      induction =>
      intro fuel rest enough
      have short := length_lt_memberText name gap₁ gap₂ text
      simp only [List.length_append] at enough
      obtain ⟨fuel, rfl⟩ := Nat.exists_eq_add_one.2 (Nat.zero_lt_of_lt enough)
      simp only [List.map_append, List.append_assoc]
      rw [members_member gapBefore named gapName gapColon value induction gapAfter (by omega)
        (follows_of_mem (by decide) rest)]
      rfl
  | @member _ _ _ _ name gap₁ gap₂ text _ _ gapBefore named gapName gapColon value gapAfter others
      induction inductionOthers =>
      intro fuel rest enough
      have short := length_lt_memberText name gap₁ gap₂ text
      simp only [List.length_append, List.length_cons] at enough
      obtain ⟨fuel, rfl⟩ := Nat.exists_eq_add_one.2 (Nat.zero_lt_of_lt enough)
      simp only [List.map_append, List.map_cons, List.append_assoc, List.cons_append]
      rw [members_member gapBefore named gapName gapColon value induction gapAfter (by omega)
        (follows_of_mem (by decide) _)]
      simp only [skipSpace_comma]
      rw [inductionOthers fuel rest (by omega)]
      rfl

/-- Whatever the grammar allows is read as the document that it was written for. -/
theorem parse?_of_written
    {document : Document} {text : List Char} (written : document.Written text) :
    parse? (text.map some) = some document := by
  rcases written with ⟨before, body, after, gapBefore, phrase, gapAfter, rfl⟩
  have ends : Follows (after.map some) := by
    have nothing : Follows [] := by
      intro next found
      cases found
    simpa using nothing.after_gap gapAfter
  have closed : skipSpace (after.map some) = [] := by
    simpa [skipSpace] using skipSpace_gap gapAfter []
  have read := reads_of_written phrase (((before ++ (body ++ after)).map some).length + 1) _ ends
    (by simp only [List.length_map, List.length_append]; omega)
  have skipped :
      skipSpace ((before ++ (body ++ after)).map some) = body.map some ++ after.map some := by
    rw [List.map_append, List.map_append, skipSpace_before gapBefore (starts_of_written phrase)]
  rw [parse?, skipped, read]
  simp only [closed]
  rfl

end Document

end PhaseAssertions.Json
