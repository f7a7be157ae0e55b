import Mathlib.Data.List.TakeWhile
import Mathlib.Tactic.SplitIfs
import PhaseAssertions.Trace.Load

/-!
# Checksums

A checksum spells the digest of a file in hexadecimal digits.  Read without
regard to the case of its letters it stands for exactly one list of bytes, so
the comparison of spellings by which a file is accepted is a comparison of
digests: a text is the checksum of a file exactly if it spells the digest of
the file with white space around it, and every other digest is told apart.
-/

namespace PhaseAssertions

/-! ## White space around a text -/

/-- Trimming takes off the white space around a text and nothing of the text. -/
theorem Text.trimChars_surrounded
    {before core after : List Char}
    (blankBefore : ∀ character ∈ before, isBlank character = true)
    (shown : ∀ character ∈ core, isBlank character = false)
    (blankAfter : ∀ character ∈ after, isBlank character = true) :
    trimChars (before ++ core ++ after) = core := by
  rw [trimChars, List.append_assoc, List.dropWhile_append_of_pos blankBefore]
  cases core with
  | nil => simp [List.dropWhile_eq_nil_iff.2 blankAfter]
  | cons first rest =>
      have leading :
          (first :: rest ++ after).dropWhile isBlank = first :: rest ++ after :=
        List.dropWhile_cons_of_neg (by simp [shown first])
      have trailing :
          (first :: rest).reverse.dropWhile isBlank = (first :: rest).reverse :=
        List.dropWhile_eq_self_iff.2 fun inside =>
          Bool.eq_false_iff.1 (shown _ (List.mem_reverse.1 (List.getElem_mem inside)))
      rw [leading, List.reverse_append,
        List.dropWhile_append_of_pos (by simpa using blankAfter), trailing,
        List.reverse_reverse]

/-! ## Hexadecimal digits -/

namespace Digest

theorem toNat_toLower (character : Char) :
    character.toLower.toNat =
      if 65 ≤ character.toNat ∧ character.toNat ≤ 90 then character.toNat + 32
      else character.toNat := by
  have isUpper :
      ('A'.val ≤ character.val ∧ character.val ≤ 'Z'.val) ↔
        65 ≤ character.toNat ∧ character.toNat ≤ 90 := by
    simp [UInt32.le_iff_toNat_le]
  by_cases upper : 'A'.val ≤ character.val ∧ character.val ≤ 'Z'.val
  · have lowered : character.toLower.val = character.val + 32 :=
      congrArg Char.val (dif_pos upper)
    have codes := isUpper.1 upper
    rw [if_pos codes, ← Char.toNat_val, lowered]
    change (character.toNat + 32) % 2 ^ 32 = character.toNat + 32
    omega
  · have kept : character.toLower = character := dif_neg upper
    rw [kept, if_neg fun codes => upper (isUpper.2 codes)]

theorem toNat_digitChar :
    ∀ value < 16,
      (Nat.digitChar value).toNat = if value < 10 then 48 + value else 87 + value := by
  decide

theorem hexDigit?_eq_some_iff_code {digit : Char} {value : Nat} :
    Yaml.hexDigit? digit = some value ↔
      48 ≤ digit.toNat ∧ digit.toNat ≤ 57 ∧ digit.toNat - 48 = value ∨
        97 ≤ digit.toNat ∧ digit.toNat ≤ 102 ∧ digit.toNat - 87 = value ∨
        65 ≤ digit.toNat ∧ digit.toNat ≤ 70 ∧ digit.toNat - 55 = value := by
  simp [Yaml.hexDigit?, Char.isDigit, UInt32.le_iff_toNat_le]
  split_ifs <;> simp <;> omega

/-- A hexadecimal digit in either case has the value whose lower-case digit it is. -/
theorem hexDigit?_eq_some_iff {digit : Char} {value : Nat} :
    Yaml.hexDigit? digit = some value ↔
      value < 16 ∧ digit.toLower = Nat.digitChar value := by
  have lower : value < 16 →
      (digit.toLower = Nat.digitChar value ↔
        (if 65 ≤ digit.toNat ∧ digit.toNat ≤ 90 then digit.toNat + 32 else digit.toNat) =
          if value < 10 then 48 + value else 87 + value) := by
    intro small
    rw [← Char.toNat_inj, toNat_toLower, toNat_digitChar value small]
  rw [hexDigit?_eq_some_iff_code]
  constructor
  · intro codes
    refine ⟨by omega, (lower (by omega)).2 ?_⟩
    split_ifs <;> omega
  · rintro ⟨small, same⟩
    have codes := (lower small).1 same
    split_ifs at codes <;> omega

/-- The bytes that a list of hexadecimal digits spells, two digits for each. -/
def decode? : List Char → Option (List UInt8)
  | [] => some []
  | [_] => none
  | high :: low :: rest => do
    let high ← Yaml.hexDigit? high
    let low ← Yaml.hexDigit? low
    let bytes ← decode? rest
    return UInt8.ofNat (16 * high + low) :: bytes

theorem hexByte_ofNat {high low : Nat} (highSmall : high < 16) (lowSmall : low < 16) :
    hexByte (UInt8.ofNat (16 * high + low)) = [Nat.digitChar high, Nat.digitChar low] := by
  have value : (UInt8.ofNat (16 * high + low)).toNat = 16 * high + low := by
    rw [UInt8.toNat_ofNat']
    omega
  rw [hexByte, value, show (16 * high + low) / 16 = high by omega,
    show (16 * high + low) % 16 = low by omega]

theorem ofNat_halves (byte : UInt8) :
    UInt8.ofNat (16 * (byte.toNat / 16) + byte.toNat % 16) = byte := by
  rw [Nat.div_add_mod, UInt8.ofNat_toNat]

/-- Digits spell exactly those bytes whose hexadecimal form they are in lower case. -/
theorem decode?_eq_some_iff {digits : List Char} {bytes : List UInt8} :
    decode? digits = some bytes ↔ digits.map Char.toLower = bytes.flatMap hexByte := by
  -- The cases are those of the reader, which takes the digits in pairs.
  induction digits using decode?.induct generalizing bytes with
  | case1 =>
      cases bytes with
      | nil => simp [decode?]
      | cons byte rest => simp [decode?, hexByte]
  | case2 digit =>
      cases bytes with
      | nil => simp [decode?]
      | cons byte rest => simp [decode?, hexByte]
  | case3 high low rest ih =>
      constructor
      · intro decoded
        simp only [decode?, bind, Option.bind_eq_some_iff] at decoded
        rcases decoded with ⟨first, readHigh, second, readLow, others, readRest, made⟩
        cases made
        rcases hexDigit?_eq_some_iff.1 readHigh with ⟨highSmall, highLower⟩
        rcases hexDigit?_eq_some_iff.1 readLow with ⟨lowSmall, lowLower⟩
        rw [List.flatMap_cons, hexByte_ofNat highSmall lowSmall, ← ih.1 readRest]
        simp [highLower, lowLower]
      · intro spelled
        cases bytes with
        | nil => simp at spelled
        | cons byte others =>
            simp only [List.map_cons, List.flatMap_cons, hexByte, List.cons_append,
              List.nil_append, List.cons.injEq] at spelled
            rcases spelled with ⟨highLower, lowLower, restLower⟩
            have small := byte.toNat_lt
            have readHigh := hexDigit?_eq_some_iff.2 ⟨by omega, highLower⟩
            have readLow := hexDigit?_eq_some_iff.2 ⟨by omega, lowLower⟩
            rw [decode?, readHigh, readLow, ih.2 restLower]
            exact congrArg (fun byte => some (byte :: others)) (ofNat_halves byte)

/-- The hexadecimal form of bytes is in lower case. -/
theorem map_toLower_hexForm (bytes : List UInt8) :
    (bytes.flatMap hexByte).map Char.toLower = bytes.flatMap hexByte := by
  have lower : ∀ value < 16, (Nat.digitChar value).toLower = Nat.digitChar value := by decide
  induction bytes with
  | nil => rfl
  | cons byte rest ih =>
      have small := byte.toNat_lt
      rw [List.flatMap_cons, List.map_append, ih, hexByte]
      simp only [List.map_cons, List.map_nil, lower (byte.toNat / 16) (by omega),
        lower (byte.toNat % 16) (by omega)]

theorem decode?_hexForm (bytes : List UInt8) :
    decode? (bytes.flatMap hexByte) = some bytes :=
  decode?_eq_some_iff.2 (map_toLower_hexForm bytes)

/-- Different bytes have different hexadecimal forms. -/
theorem hexForm_inj {left right : List UInt8} :
    left.flatMap hexByte = right.flatMap hexByte ↔ left = right := by
  constructor
  · intro same
    have decoded := decode?_hexForm left
    rw [same, decode?_hexForm right] at decoded
    exact (Option.some.inj decoded).symm
  · rintro rfl
    rfl

theorem length_hexForm (bytes : List UInt8) :
    (bytes.flatMap hexByte).length = 2 * bytes.length := by
  induction bytes with
  | nil => rfl
  | cons byte rest ih =>
      rw [List.flatMap_cons, List.length_append, ih, List.length_cons, hexByte]
      simp only [List.length_cons, List.length_nil]
      omega

/-- A digest has 32 bytes, whatever the length of its input. -/
theorem length_sha256 (bytes : List UInt8) : (sha256 bytes).length = 32 := by
  simp [sha256, State.toList, bigEndian]

theorem toList_sha256Hex (bytes : List UInt8) :
    (sha256Hex bytes).toList = (sha256 bytes).flatMap hexByte := by
  rw [sha256Hex, String.toList_ofList]

theorem length_sha256Hex (bytes : List UInt8) : (sha256Hex bytes).length = 64 := by
  rw [← String.length_toList, toList_sha256Hex, length_hexForm, length_sha256]

/-! ## What counts as the checksum of a file -/

theorem isBlank_eq_false_of_hexDigit?
    {digit : Char} {value : Nat} (read : Yaml.hexDigit? digit = some value) :
    Text.isBlank digit = false := by
  have codes := hexDigit?_eq_some_iff_code.1 read
  simp [Text.isBlank]
  omega

/-- There is no white space among the digits of bytes. -/
theorem isBlank_eq_false_of_decode?
    {digits : List Char} {bytes : List UInt8} (decoded : decode? digits = some bytes) :
    ∀ digit ∈ digits, Text.isBlank digit = false := by
  intro digit found
  have lower : digit.toLower ∈ bytes.flatMap hexByte := by
    rw [← decode?_eq_some_iff.1 decoded]
    exact List.mem_map_of_mem found
  rcases List.mem_flatMap.1 lower with ⟨byte, _, spelled⟩
  have small := byte.toNat_lt
  simp only [hexByte, List.mem_cons, List.not_mem_nil, or_false] at spelled
  rcases spelled with high | low
  · exact isBlank_eq_false_of_hexDigit? (hexDigit?_eq_some_iff.2 ⟨by omega, high⟩)
  · exact isBlank_eq_false_of_hexDigit? (hexDigit?_eq_some_iff.2 ⟨by omega, low⟩)

end Digest

namespace Trace

open Digest

/-- A text is accepted if its lower-case form is that of the digest. -/
theorem isChecksum_sha256Hex_iff {expected : String} {bytes : List UInt8} :
    isChecksum expected (sha256Hex bytes) = true ↔
      (Text.trimChars expected.toList).map Char.toLower = (sha256Hex bytes).toList := by
  simp [isChecksum, toList_sha256Hex, map_toLower_hexForm]

end Trace

end PhaseAssertions
