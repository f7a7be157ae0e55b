import PhaseAssertions.Json.Text
import PhaseAssertions.Json.Value
import PhaseAssertions.Proofs.JsonGrammar

/-!
# Written strings and numbers

Strings and numbers are written by the grammar: a string with an escape where
one is needed, and a number as its decimal digits with a sign where it has one.
What a written string spells denotes the string.
-/

namespace PhaseAssertions.Json

/-- How a character of a string is spelled when it is written. -/
def spelledChar (character : Char) : Spelled :=
  if character.toNat < 0x20 ∧ character ∉ ['\x08', '\x0c', '\n', '\r', '\t'] then
    .unit character.toNat
  else
    .char character

def spelledText (text : String) : List Spelled :=
  text.toList.map spelledChar

/-- The decimal digits of a number. -/
def decimal (number : Nat) : List Nat :=
  (Nat.toDigits 10 number).map fun digit => digit.toNat - 48

namespace Document

/-- The characters of a text as an input. -/
def chars (text : String) : Input :=
  text.toList.map some

end Document

/-! ## Strings -/

theorem isHexDigit_hexDigit {value : Nat} (small : value < 16) :
    IsHexDigit value (Value.hexDigit value) := by
  have each : ∀ value < 16, Value.hexDigit value = Nat.digitChar value := by decide
  exact ⟨small, .inl (each value small)⟩

theorem escapeChar_written (character : Char) :
    (spelledChar character).Written (Value.escapeChar character) := by
  unfold Value.escapeChar
  split
  case h_8 unquoted unescaped noBackspace noFormFeed noLineFeed noReturn noTab =>
    by_cases small : character.toNat < 0x20
    · have control : spelledChar character = .unit character.toNat := by
        rw [spelledChar, if_pos]
        simpa [small] using
          ⟨noBackspace, noFormFeed, noLineFeed, noReturn, noTab⟩
      have zero : IsHexDigit 0 '0' := isHexDigit_hexDigit (by decide)
      have written :=
        Spelled.Written.unit zero zero
          (isHexDigit_hexDigit (show character.toNat / 16 < 16 by omega))
          (isHexDigit_hexDigit (show character.toNat % 16 < 16 by omega))
      have code : ((0 * 16 + 0) * 16 + character.toNat / 16) * 16 + character.toNat % 16 =
          character.toNat := by omega
      rw [code] at written
      rw [control, if_pos small]
      exact written
    · have plain : spelledChar character = .char character := by
        rw [spelledChar, if_neg fun control => small control.1]
      rw [plain, if_neg small]
      exact .plain (by omega) unquoted unescaped
  all_goals exact .short (by decide)

/-- A string is written with an escape for each character that needs one. -/
theorem stringWritten_escaped (text : List Char) :
    StringWritten (text.map spelledChar) (text.flatMap Value.escapeChar) := by
  induction text with
  | nil => exact .nil
  | cons character text induction => exact .cons (escapeChar_written character) induction

/-! ## Numbers -/

theorem decimal_of_lt {number : Nat} (small : number < 10) : decimal number = [number] := by
  have value : ∀ digit < 10, (Nat.digitChar digit).toNat - 48 = digit := by decide
  rw [decimal, Nat.toDigits_of_lt_base small, List.map_singleton, value number small]

theorem decimal_of_le {number : Nat} (large : 10 ≤ number) :
    decimal number = decimal (number / 10) ++ [number % 10] := by
  have last := decimal_of_lt (Nat.mod_lt number (by decide : 0 < 10))
  rw [decimal, Nat.toDigits_of_lt_base (Nat.mod_lt number (by decide))] at last
  rw [decimal, Nat.toDigits_of_base_le (by decide) large, List.map_append, last, decimal]

/-- The digits of a positive number start with one that is not zero. -/
theorem exists_decimal_eq_cons (number : Nat) :
    0 < number → ∃ first rest, decimal number = first :: rest ∧ first ≠ 0 := by
  induction number using Nat.strongRecOn with
  | ind number induction =>
      intro positive
      -- The last digit is taken off until a single one is left.
      by_cases small : number < 10
      · exact ⟨number, [], decimal_of_lt small, by omega⟩
      · rcases induction (number / 10) (by omega) (by omega) with ⟨first, rest, digits, nonzero⟩
        refine ⟨first, rest ++ [number % 10], ?_, nonzero⟩
        rw [decimal_of_le (by omega), digits, List.cons_append]

theorem decimal_head? (number : Nat) : (decimal number).head? = some 0 → decimal number = [0] := by
  rcases Nat.eq_zero_or_pos number with rfl | positive
  · intro _
    rfl
  · rcases exists_decimal_eq_cons number positive with ⟨first, others, spelled, nonzero⟩
    rw [spelled]
    intro zero
    exact absurd (Option.some.inj zero) nonzero

theorem decimal_spells (number : Nat) :
    (∀ digit ∈ decimal number, digit < 10) ∧
      digitsText (decimal number) = Nat.toDigits 10 number := by
  induction number using Nat.strongRecOn with
  | ind number induction =>
      by_cases small : number < 10
      · rw [decimal_of_lt small, Nat.toDigits_of_lt_base small]
        exact ⟨by simpa using small, rfl⟩
      · rcases induction (number / 10) (by omega) with ⟨bounded, spelled⟩
        have last : number % 10 < 10 := Nat.mod_lt number (by decide)
        rw [decimal_of_le (by omega), Nat.toDigits_of_base_le (by decide) (by omega),
          ← spelled, digitsText, digitsText, List.map_append]
        refine ⟨?_, rfl⟩
        rw [List.forall_mem_append]
        exact ⟨bounded, by simpa using last⟩

theorem areDigits_decimal (number : Nat) : AreDigits (decimal number) := by
  rcases decimal_spells number with ⟨bounded, spelled⟩
  refine ⟨?_, bounded⟩
  intro none
  rw [none] at spelled
  exact Nat.toDigits_ne_nil spelled.symm

/-- The numeral of a number in decimal digits. -/
def numeralOf (number : Int) : Numeral :=
  { negative := decide (number < 0), whole := decimal number.natAbs
    fraction := none, exponent := none }

/-- A number is written in decimal digits. -/
theorem numeral_written (number : Int) :
    (numeralOf number).Written (toString number).toList := by
  have digits (number : Nat) : (Nat.repr number).toList = digitsText (decimal number) := by
    rw [Nat.repr_eq_ofList_toDigits, String.toList_ofList, (decimal_spells number).2]
  cases number with
  | ofNat number =>
      have written : (numeralOf number).Written (digitsText (decimal number) ++ ([] ++ [])) :=
        .intro (areDigits_decimal number) (decimal_head? number) .absent .absent
      have text : (toString (Int.ofNat number)).toList = digitsText (decimal number) :=
        digits number
      rw [text]
      simpa using written
  | negSucc number =>
      have negative : decide (Int.negSucc number < 0) = true := by simp
      have written :
          (numeralOf (Int.negSucc number)).Written
            (['-'] ++ (digitsText (decimal (number + 1)) ++ ([] ++ []))) := by
        rw [numeralOf, negative]
        exact .intro (areDigits_decimal (number + 1)) (decimal_head? (number + 1)) .absent .absent
      have text :
          (toString (Int.negSucc number)).toList = '-' :: digitsText (decimal (number + 1)) := by
        rw [← digits]
        exact String.toList_append
      rw [text]
      simpa using written

/-! ## Texts -/

/--
Which text a spelled string denotes: a character is spelled as itself or by its
code in one unit or, if it is too large for one, in a pair of them.
-/
inductive Denotes : List Spelled → List Char → Prop where
  | nil : Denotes [] []
  | char {character : Char} {spelled : List Spelled} {text : List Char}
      (rest : Denotes spelled text) :
      Denotes (.char character :: spelled) (character :: text)
  | unit {character : Char} {spelled : List Spelled} {text : List Char}
      (small : character.toNat < 0x10000) (rest : Denotes spelled text) :
      Denotes (.unit character.toNat :: spelled) (character :: text)
  | pair {character : Char} {spelled : List Spelled} {text : List Char}
      (large : 0x10000 ≤ character.toNat) (rest : Denotes spelled text) :
      Denotes
        (.unit (0xd800 + (character.toNat - 0x10000) / 0x400) ::
          .unit (0xdc00 + (character.toNat - 0x10000) % 0x400) :: spelled)
        (character :: text)

/-- A unit that is half of no pair denotes its character. -/
theorem resolveUnits_unit
    {unit : Nat} (noLeading : isLeading unit = false) (noTrailing : isTrailing unit = false)
    (rest : List Spelled) :
    resolveUnits (.unit unit :: rest) =
      (resolveUnits rest).map (some (Char.ofNat unit) :: ·) := by
  cases rest with
  | nil => simp [resolveUnits, noLeading, noTrailing]
  | cons element rest => cases element <;> simp [resolveUnits, noLeading, noTrailing]

theorem resolveUnits_pair
    {leading trailing : Nat} (isLeading : isLeading leading = true)
    (isTrailing : isTrailing trailing = true) (noTrailing : Json.isTrailing leading = false)
    (rest : List Spelled) :
    resolveUnits (.unit leading :: .unit trailing :: rest) =
      (resolveUnits rest).map (some (pairChar leading trailing) :: ·) := by
  simp [resolveUnits, isLeading, isTrailing, noTrailing]

/-- No character has the code of half a pair. -/
theorem noHalf (character : Char) :
    isLeading character.toNat = false ∧ isTrailing character.toNat = false := by
  have valid : character.toNat.isValidChar := character.valid
  simp only [Nat.isValidChar] at valid
  constructor
  · simp [isLeading]
    omega
  · simp [isTrailing]
    omega

theorem resolveUnits_of_denotes
    {spelled : List Spelled} {text : List Char} (denotes : Denotes spelled text) :
    resolveUnits spelled = .ok (text.map some) := by
  induction denotes with
  | nil => rfl
  | char rest induction =>
      rw [resolveUnits, induction]
      rfl
  | @unit character _ _ small rest induction =>
      rcases noHalf character with ⟨noLeading, noTrailing⟩
      rw [resolveUnits_unit noLeading noTrailing, induction, Char.ofNat_toNat]
      rfl
  | @pair character _ _ large rest induction =>
      have bounded : character.toNat < 0x110000 := by
        have valid : character.toNat.isValidChar := character.valid
        simp only [Nat.isValidChar] at valid
        omega
      have whole :
          pairChar (0xd800 + (character.toNat - 0x10000) / 0x400)
            (0xdc00 + (character.toNat - 0x10000) % 0x400) = character := by
        have code :
            0x10000 + (0xd800 + (character.toNat - 0x10000) / 0x400 - 0xd800) * 0x400 +
                (0xdc00 + (character.toNat - 0x10000) % 0x400 - 0xdc00) =
              character.toNat := by
          omega
        rw [pairChar, code, Char.ofNat_toNat]
      rw [resolveUnits_pair (by simp [isLeading]; omega) (by simp [isTrailing]; omega)
        (by simp [isTrailing]; omega), induction, whole]
      rfl

/-- Characters are all there exactly if none of their places is without one. -/
theorem mapM_id_eq_some_iff {places : List (Option Char)} {characters : List Char} :
    places.mapM id = some characters ↔ places = characters.map some := by
  induction places generalizing characters with
  | nil => cases characters <;> simp
  | cons place places induction =>
      cases place with
      | none => cases characters <;> simp
      | some character =>
          cases characters with
          | nil => simp [Option.bind_eq_some_iff]
          | cons first others => simp [Option.bind_eq_some_iff, induction, and_comm]

theorem textOf_of_denotes
    {spelled : List Spelled} {text : String} (denotes : Denotes spelled text.toList) :
    textOf spelled = .ok text := by
  have whole : (text.toList.map some).mapM id = some text.toList := mapM_id_eq_some_iff.2 rfl
  simp only [textOf, resolveUnits_of_denotes denotes, whole, String.ofList_toList]

theorem denotes_spelled (text : List Char) : Denotes (text.map spelledChar) text := by
  induction text with
  | nil => exact .nil
  | cons character text induction =>
      rw [List.map_cons, spelledChar]
      split
      next control => exact .unit (by omega) induction
      next => exact .char induction

/-- A spelled text denotes that text. -/
theorem textOf_spelledText (text : String) : textOf (spelledText text) = .ok text :=
  textOf_of_denotes (denotes_spelled text.toList)

end PhaseAssertions.Json
