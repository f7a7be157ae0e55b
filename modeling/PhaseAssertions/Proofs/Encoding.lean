import Mathlib.Data.List.Basic
import PhaseAssertions.Text.Utf8

/-!
# Texts and their bytes

Reading UTF-8 is the inverse of writing it.  A list of bytes starts with a
character exactly if it starts with the sequence that the character is written
in, and what the reader leaves behind stands after that sequence.  So a list of
bytes is read as a text exactly if it is that text, written; bytes that no text
is written in are read as none.
-/

namespace PhaseAssertions.Text.Utf8

/-! ## Parts of a sequence -/

theorem continuation?_eq_some_iff {byte : UInt8} {bits : Nat} :
    continuation? byte = some bits ↔ bits < 64 ∧ byte.toNat = 0x80 + bits := by
  have bounded := byte.toNat_lt
  simp only [continuation?, Bool.and_eq_true, decide_eq_true_eq, UInt8.le_iff_toNat_le,
    UInt8.lt_iff_toNat_lt, Option.ite_none_right_eq_some, Option.some.injEq, UInt8.reduceToNat]
  omega

theorem toNat_ofNat_of_isValidChar {code : Nat} (valid : code.isValidChar) :
    (Char.ofNat code).toNat = code := by
  rw [Char.ofNat, dif_pos valid]
  rfl

theorem character?_eq_some_iff {least code : Nat} {character : Char} :
    character? least code = some character ↔ least ≤ code ∧ character.toNat = code := by
  simp only [character?, Bool.and_eq_true, decide_eq_true_eq, Option.ite_none_right_eq_some,
    Option.some.injEq]
  constructor
  · rintro ⟨⟨above, valid⟩, rfl⟩
    exact ⟨above, toNat_ofNat_of_isValidChar valid⟩
  · rintro ⟨above, rfl⟩
    exact ⟨⟨above, character.valid⟩, Char.ofNat_toNat character⟩

theorem toNat_lt (character : Char) : character.toNat < 0x110000 := by
  have valid : character.toNat.isValidChar := character.valid
  rcases valid with below | ⟨_, below⟩
  · omega
  · exact below

/-! ## Sequences -/

/-- The sequence of bytes that a character is written in, by the size of its code. -/
inductive Sequence (character : Char) : List UInt8 → Prop where
  | one {b₀ : UInt8}
      (below : character.toNat < 0x80)
      (lead : b₀.toNat = character.toNat) :
      Sequence character [b₀]
  | two {b₀ b₁ : UInt8}
      (above : 0x80 ≤ character.toNat) (below : character.toNat < 0x800)
      (lead : b₀.toNat = 0xc0 + character.toNat / 64)
      (last : b₁.toNat = 0x80 + character.toNat % 64) :
      Sequence character [b₀, b₁]
  | three {b₀ b₁ b₂ : UInt8}
      (above : 0x800 ≤ character.toNat) (below : character.toNat < 0x10000)
      (lead : b₀.toNat = 0xe0 + character.toNat / 64 / 64)
      (middle : b₁.toNat = 0x80 + character.toNat / 64 % 64)
      (last : b₂.toNat = 0x80 + character.toNat % 64) :
      Sequence character [b₀, b₁, b₂]
  | four {b₀ b₁ b₂ b₃ : UInt8}
      (above : 0x10000 ≤ character.toNat)
      (lead : b₀.toNat = 0xf0 + character.toNat / 64 / 64 / 64)
      (second : b₁.toNat = 0x80 + character.toNat / 64 / 64 % 64)
      (third : b₂.toNat = 0x80 + character.toNat / 64 % 64)
      (last : b₃.toNat = 0x80 + character.toNat % 64) :
      Sequence character [b₀, b₁, b₂, b₃]

theorem eq_ofNat {byte : UInt8} {code : Nat} (same : byte.toNat = code) :
    byte = UInt8.ofNat code := by
  rw [← same, UInt8.ofNat_toNat]

theorem toNat_ofNat {code : Nat} (bounded : code < 256) : (UInt8.ofNat code).toNat = code :=
  UInt8.toNat_ofNat_of_lt' bounded

/-- Each character is written in one sequence. -/
theorem sequence_iff {character : Char} {bytes : List UInt8} :
    Sequence character bytes ↔ bytes = String.utf8EncodeChar character := by
  have bounded := toNat_lt character
  have code : character.val.toNat = character.toNat := rfl
  simp only [String.utf8EncodeChar, code]
  constructor
  · intro sequence
    cases sequence with
    | one below lead =>
        rw [if_pos (by omega), eq_ofNat lead]
    | two above below lead last =>
        rw [if_neg (by omega), if_pos (by omega)]
        simp only [List.cons.injEq, and_true]
        exact ⟨eq_ofNat (by omega), eq_ofNat (by omega)⟩
    | three above below lead middle last =>
        rw [if_neg (by omega), if_neg (by omega), if_pos (by omega)]
        simp only [List.cons.injEq, and_true]
        exact ⟨eq_ofNat (by omega), eq_ofNat (by omega), eq_ofNat (by omega)⟩
    | four above lead second third last =>
        rw [if_neg (by omega), if_neg (by omega), if_neg (by omega)]
        simp only [List.cons.injEq, and_true]
        exact
          ⟨eq_ofNat (by omega), eq_ofNat (by omega), eq_ofNat (by omega), eq_ofNat (by omega)⟩
  · rintro rfl
    split
    · exact .one (by omega) (toNat_ofNat (by omega))
    · split
      · refine .two (by omega) (by omega) ?_ ?_ <;> rw [toNat_ofNat] <;> omega
      · split
        · refine .three (by omega) (by omega) ?_ ?_ ?_ <;> rw [toNat_ofNat] <;> omega
        · refine .four (by omega) ?_ ?_ ?_ ?_ <;> rw [toNat_ofNat] <;> omega

/-- A character is read from the front of the sequence that it is written in. -/
theorem Sequence.first?_append
    {character : Char} {sequence : List UInt8}
    (written : Sequence character sequence) (rest : List UInt8) :
    first? (sequence ++ rest) = some (character, rest) := by
  have bounded := toNat_lt character
  cases written with
  | @one b₀ below lead =>
      simp [first?, below, lead]
  | @two b₀ b₁ above below lead last =>
      have bits : continuation? b₁ = some (character.toNat % 64) :=
        continuation?_eq_some_iff.2 ⟨by omega, last⟩
      have whole :
          character? 0x80 (b₀.toNat % 32 * 64 + character.toNat % 64) = some character :=
        character?_eq_some_iff.2 ⟨by omega, by omega⟩
      simp only [first?, List.cons_append, List.nil_append]
      rw [if_neg (by omega), if_neg (by omega), if_pos (by omega)]
      simp only [bits, Option.bind_eq_bind, Option.bind_some, whole]
      rfl
  | @three b₀ b₁ b₂ above below lead middle last =>
      have middleBits : continuation? b₁ = some (character.toNat / 64 % 64) :=
        continuation?_eq_some_iff.2 ⟨by omega, middle⟩
      have lastBits : continuation? b₂ = some (character.toNat % 64) :=
        continuation?_eq_some_iff.2 ⟨by omega, last⟩
      have whole :
          character? 0x800
              ((b₀.toNat % 16 * 64 + character.toNat / 64 % 64) * 64 + character.toNat % 64) =
            some character :=
        character?_eq_some_iff.2 ⟨by omega, by omega⟩
      simp only [first?, List.cons_append, List.nil_append]
      rw [if_neg (by omega), if_neg (by omega), if_neg (by omega), if_pos (by omega)]
      simp only [middleBits, lastBits, Option.bind_eq_bind, Option.bind_some, whole]
      rfl
  | @four b₀ b₁ b₂ b₃ above lead second third last =>
      have secondBits : continuation? b₁ = some (character.toNat / 64 / 64 % 64) :=
        continuation?_eq_some_iff.2 ⟨by omega, second⟩
      have thirdBits : continuation? b₂ = some (character.toNat / 64 % 64) :=
        continuation?_eq_some_iff.2 ⟨by omega, third⟩
      have lastBits : continuation? b₃ = some (character.toNat % 64) :=
        continuation?_eq_some_iff.2 ⟨by omega, last⟩
      have whole :
          character? 0x10000
              (((b₀.toNat % 8 * 64 + character.toNat / 64 / 64 % 64) * 64 +
                character.toNat / 64 % 64) * 64 + character.toNat % 64) =
            some character :=
        character?_eq_some_iff.2 ⟨by omega, by omega⟩
      simp only [first?, List.cons_append, List.nil_append]
      rw [if_neg (by omega), if_neg (by omega), if_neg (by omega), if_neg (by omega),
        if_pos (by omega)]
      simp only [secondBits, thirdBits, lastBits, Option.bind_eq_bind, Option.bind_some, whole]
      rfl

/-- What is read from the front of some bytes is written in a sequence that they start with. -/
theorem exists_sequence_of_first?
    {character : Char} {bytes rest : List UInt8}
    (found : first? bytes = some (character, rest)) :
    ∃ sequence, Sequence character sequence ∧ bytes = sequence ++ rest := by
  revert found
  -- The number of continuing bytes depends on the lead; each has to be one.
  fun_cases first? bytes with
  | case2 b₀ tail lead below =>
      rintro ⟨⟩
      have code : (Char.ofNat lead).toNat = lead :=
        toNat_ofNat_of_isValidChar (.inl (by omega))
      exact ⟨[b₀], .one (by omega) code.symm, rfl⟩
  | case4 b₀ lead _ _ below b₁ tail =>
      simp only [Option.bind_eq_bind, Option.bind_eq_some_iff, Option.pure_def,
        Option.some.injEq, Prod.mk.injEq, continuation?_eq_some_iff, character?_eq_some_iff]
      rintro ⟨last, ⟨_, isLast⟩, _, ⟨least, code⟩, rfl, rfl⟩
      exact ⟨[b₀, b₁], .two (by omega) (by omega) (by omega) (by omega), rfl⟩
  | case6 b₀ lead _ _ _ below b₁ b₂ tail =>
      simp only [Option.bind_eq_bind, Option.bind_eq_some_iff, Option.pure_def,
        Option.some.injEq, Prod.mk.injEq, continuation?_eq_some_iff, character?_eq_some_iff]
      rintro ⟨middle, ⟨_, isMiddle⟩, last, ⟨_, isLast⟩, _, ⟨least, code⟩, rfl, rfl⟩
      exact ⟨[b₀, b₁, b₂], .three (by omega) (by omega) (by omega) (by omega) (by omega), rfl⟩
  | case8 b₀ lead _ _ _ _ below b₁ b₂ b₃ tail =>
      simp only [Option.bind_eq_bind, Option.bind_eq_some_iff, Option.pure_def,
        Option.some.injEq, Prod.mk.injEq, continuation?_eq_some_iff, character?_eq_some_iff]
      rintro
        ⟨second, ⟨_, isSecond⟩, third, ⟨_, isThird⟩, last, ⟨_, isLast⟩, _, ⟨least, code⟩, rfl, rfl⟩
      exact
        ⟨[b₀, b₁, b₂, b₃], .four (by omega) (by omega) (by omega) (by omega) (by omega), rfl⟩
  | _ => rintro ⟨⟩

/-- The first character of some bytes is the one in whose sequence they start. -/
theorem first?_eq_some_iff {character : Char} {bytes rest : List UInt8} :
    first? bytes = some (character, rest) ↔
      bytes = String.utf8EncodeChar character ++ rest := by
  constructor
  · intro found
    obtain ⟨sequence, written, split⟩ := exists_sequence_of_first? found
    rw [split, sequence_iff.1 written]
  · rintro rfl
    exact (sequence_iff.2 rfl).first?_append rest

/-! ## Texts -/

/-- Bytes that some characters are written in start with the first of these. -/
theorem eq_flatMap_iff {bytes : List UInt8} {characters : List Char} (given : bytes ≠ []) :
    bytes = characters.flatMap String.utf8EncodeChar ↔
      ∃ character others,
        characters = character :: others ∧
          first? bytes = some (character, others.flatMap String.utf8EncodeChar) := by
  simp only [first?_eq_some_iff]
  cases characters with
  | nil => simpa using given
  | cons character others => simp

/-- With enough steps, exactly the bytes that some characters are written in are read as these. -/
theorem mapM_decodeSteps_eq_some_iff
    {count : Nat} {bytes : List UInt8} {characters : List Char}
    (enough : bytes.length ≤ count) :
    (decodeSteps count bytes).mapM id = some characters ↔
      bytes = characters.flatMap String.utf8EncodeChar := by
  induction count generalizing bytes characters with
  | zero =>
      obtain rfl := List.eq_nil_of_length_eq_zero (Nat.le_zero.1 enough)
      cases characters <;> simp [decodeSteps]
  | succ count induction =>
      cases bytes with
      | nil => cases characters <;> simp [decodeSteps]
      | cons byte tail =>
          rw [decodeSteps, eq_flatMap_iff (List.cons_ne_nil byte tail)]
          cases found : first? (byte :: tail) with
          | none => simp
          | some front =>
              obtain ⟨character, rest⟩ := front
              have shorter : rest.length ≤ count := by
                have length := congrArg List.length (first?_eq_some_iff.1 found)
                have positive := character.utf8Size_pos
                simp only [List.length_append, String.length_utf8EncodeChar] at length
                simp only [List.length_cons] at length enough
                omega
              simp only [List.mapM_cons, id_eq, Option.bind_eq_bind, Option.bind_some,
                Option.bind_eq_some_iff, induction shorter, Option.pure_def, Option.some.injEq,
                Prod.mk.injEq]
              constructor
              · rintro ⟨others, written, rfl⟩
                exact ⟨character, others, rfl, rfl, written⟩
              · rintro ⟨_, others, rfl, rfl, written⟩
                exact ⟨others, written, rfl⟩

theorem toList_loop (bytes : ByteArray) (index : Nat) (read : List UInt8) :
    ByteArray.toList.loop bytes index read = read.reverse ++ bytes.data.toList.drop index := by
  fun_induction ByteArray.toList.loop bytes index read with
  | case1 index read inside induction =>
      have bounded : index < bytes.data.toList.length := by simpa using inside
      rw [induction, List.drop_eq_getElem_cons bounded]
      simp [ByteArray.get!, inside]
  | case2 index read outside =>
      have past : bytes.data.toList.length ≤ index := by simpa using outside
      rw [List.drop_eq_nil_of_le past, List.append_nil]

/-- A text is written character by character. -/
theorem encode_eq_flatMap (text : String) :
    encode text = text.toList.flatMap String.utf8EncodeChar := by
  have characters : text.toByteArray = (text.toList.flatMap String.utf8EncodeChar).toByteArray :=
    String.utf8Encode_toList.symm
  rw [encode, String.toUTF8_eq_toByteArray, characters, ByteArray.toList, toList_loop,
    List.toList_data_toByteArray]
  rfl

/-- Bytes are read as a text exactly if they are that text, written. -/
theorem text?_eq_some_iff {bytes : List UInt8} {text : String} :
    text? bytes = some text ↔ encode text = bytes := by
  rw [encode_eq_flatMap, @eq_comm _ _ bytes,
    ← mapM_decodeSteps_eq_some_iff (Nat.le_refl bytes.length), text?, decode,
    Option.map_eq_some_iff]
  constructor
  · rintro ⟨characters, read, rfl⟩
    rw [read, String.toList_ofList]
  · intro read
    exact ⟨text.toList, read, String.ofList_toList⟩

theorem text?_eq_none_iff {bytes : List UInt8} :
    text? bytes = none ↔ ∀ text, encode text ≠ bytes := by
  simp only [Option.eq_none_iff_forall_ne_some, ne_eq, text?_eq_some_iff]

end PhaseAssertions.Text.Utf8
