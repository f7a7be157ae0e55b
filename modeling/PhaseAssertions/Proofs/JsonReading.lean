import Mathlib.Data.List.TakeWhile
import PhaseAssertions.Proofs.JsonGrammar

/-!
# Reading JSON

The grammar allows no more than what is read: whatever a reader takes off the
front of a text is written by the rule of the grammar that it stands for, and
what it leaves is the rest of the text.  So a text is read as a document exactly
if it is one of the texts of the document.
-/

namespace PhaseAssertions.Json.Document

/-- Whether something is left of a text behind a part of a certain kind. -/
def Leaves (IsTaken : List Char → Prop) (text : List Char) (rest : Input) : Prop :=
  ∃ taken behind, text = taken ++ behind ∧ rest = behind.map some ∧ IsTaken taken

/-! ## White space and digits -/

theorem leaves_skipSpace (text : List Char) :
    Leaves IsGap text (skipSpace (text.map some)) := by
  refine ⟨text.takeWhile (isSpace ∘ some), text.dropWhile (isSpace ∘ some),
    List.takeWhile_append_dropWhile.symm, List.dropWhile_map, ?_⟩
  intro character found
  simpa [isSpace, or_assoc] using List.mem_takeWhile_imp found

theorem digit?_eq_some_iff {character : Char} {value : Nat} :
    digit? (some character) = some value ↔ value < 10 ∧ character = Nat.digitChar value := by
  constructor
  · intro read
    simp only [digit?, Option.ite_none_right_eq_some, Option.some.injEq] at read
    rcases read with ⟨isDigit, rfl⟩
    have codes : 48 ≤ character.toNat ∧ character.toNat ≤ 57 := by
      simpa [Char.isDigit, UInt32.le_iff_toNat_le] using isDigit
    have small : character.toNat - 48 < 10 := by omega
    refine ⟨small, Char.toNat_inj.1 ?_⟩
    rw [Nat.toNat_digitChar_of_lt_ten small]
    omega
  · rintro ⟨small, rfl⟩
    exact digit?_digitChar value small

theorem leaves_digits
    {text : List Char} {values : List Nat} {rest : Input}
    (read : digits (text.map some) = (values, rest)) :
    Leaves (fun taken => (∀ digit ∈ values, digit < 10) ∧ taken = digitsText values) text rest := by
  induction text generalizing values rest with
  | nil =>
      cases read
      exact ⟨[], [], rfl, rfl, by simp, rfl⟩
  | cons character text induction =>
      rw [List.map_cons, digits] at read
      cases found : digit? (some character) with
      | none =>
          rw [found] at read
          cases read
          exact ⟨[], character :: text, rfl, rfl, by simp, rfl⟩
      | some value =>
          rcases digit?_eq_some_iff.1 found with ⟨small, rfl⟩
          rw [found] at read
          cases later : digits (text.map some) with
          | mk others behind =>
              rw [later] at read
              cases read
              rcases induction later with ⟨taken, left, rfl, leftover, bounded, rfl⟩
              refine ⟨digitsText (value :: others), left, rfl, leftover, ?_, rfl⟩
              exact List.forall_mem_cons.2 ⟨small, bounded⟩

theorem leaves_someDigits
    {text : List Char} {values : List Nat} {rest : Input}
    (read : someDigits (text.map some) = some (values, rest)) :
    Leaves (fun taken => AreDigits values ∧ taken = digitsText values) text rest := by
  cases found : digits (text.map some) with
  | mk others behind =>
      rw [someDigits, found] at read
      cases others with
      | nil => cases read
      | cons first others =>
          cases read
          rcases leaves_digits found with ⟨taken, left, split, leftover, bounded, spelled⟩
          exact ⟨taken, left, split, leftover, ⟨List.cons_ne_nil _ _, bounded⟩, spelled⟩

theorem leaves_wholePart
    {text : List Char} {values : List Nat} {rest : Input}
    (read : wholePart (text.map some) = some (values, rest)) :
    Leaves
      (fun taken => AreDigits values ∧ (values.head? = some 0 → values = [0]) ∧
        taken = digitsText values)
      text rest := by
  cases found : digits (text.map some) with
  | mk others behind =>
      rcases leaves_digits found with ⟨taken, left, split, leftover, bounded, spelled⟩
      rw [wholePart, found] at read
      cases others with
      | nil => cases read
      | cons first others =>
          have result : values = first :: others ∧ rest = behind ∧ (first = 0 → others = []) := by
            cases first with
            | succ first =>
                cases read
                simp
            | zero =>
                cases others with
                | nil =>
                    cases read
                    simp
                | cons second others => cases read
          rcases result with ⟨rfl, rfl, leading⟩
          refine ⟨taken, left, split, leftover, ⟨List.cons_ne_nil _ _, bounded⟩, ?_, spelled⟩
          intro zero
          obtain rfl : first = 0 := Option.some.inj zero
          rw [leading rfl]

theorem leaves_fractionPart
    {text : List Char} {fraction : Option (List Nat)} {rest : Input}
    (read : fractionPart (text.map some) = some (fraction, rest)) :
    Leaves (FractionWritten fraction) text rest := by
  cases text with
  | nil =>
      cases read
      exact ⟨[], [], rfl, rfl, .absent⟩
  | cons first text =>
      by_cases point : first = '.'
      · rw [point] at read ⊢
        simp only [List.map_cons, fractionPart, Option.bind_eq_bind, Option.bind_eq_some_iff,
          Prod.exists, Option.pure_def, Option.some.injEq, Prod.mk.injEq] at read
        rcases read with ⟨values, behind, digitsRead, rfl, rfl⟩
        rcases leaves_someDigits digitsRead with ⟨taken, left, rfl, rfl, areDigits, rfl⟩
        exact ⟨'.' :: digitsText values, left, rfl, rfl, .present areDigits⟩
      · have absent :
            fractionPart ((first :: text).map some) = some (none, (first :: text).map some) := by
          rw [List.map_cons, fractionPart]
          simpa using point
        rw [absent] at read
        cases read
        exact ⟨[], first :: text, rfl, rfl, .absent⟩

theorem leaves_exponentSign (text : List Char) :
    Leaves (SignWritten (exponentSign (text.map some)).1) text
      (exponentSign (text.map some)).2 := by
  cases text with
  | nil => exact ⟨[], [], rfl, rfl, .omitted⟩
  | cons first text =>
      by_cases minus : first = '-'
      · rw [minus]
        exact ⟨['-'], text, rfl, rfl, .minus⟩
      · by_cases plus : first = '+'
        · rw [plus]
          exact ⟨['+'], text, rfl, rfl, .plus⟩
        · have omitted :
              exponentSign ((first :: text).map some) = (false, (first :: text).map some) := by
            apply exponentSign.eq_3
            · simpa using minus
            · simpa using plus
          rw [omitted]
          exact ⟨[], first :: text, rfl, rfl, .omitted⟩

theorem exponentPart_mark {mark : Char} (known : mark = 'e' ∨ mark = 'E') (rest : Input) :
    exponentPart (some mark :: rest) =
      (someDigits (exponentSign rest).2).map fun read =>
        (some ((exponentSign rest).1, read.1), read.2) := by
  rcases known with rfl | rfl <;>
    cases read : someDigits (exponentSign rest).2 <;>
      simp [exponentPart, read]

theorem leaves_exponentPart
    {text : List Char} {exponent : Option (Bool × List Nat)} {rest : Input}
    (read : exponentPart (text.map some) = some (exponent, rest)) :
    Leaves (ExponentWritten exponent) text rest := by
  cases text with
  | nil =>
      cases read
      exact ⟨[], [], rfl, rfl, .absent⟩
  | cons first text =>
      by_cases mark : first = 'e' ∨ first = 'E'
      · have signRead := leaves_exponentSign text
        rw [List.map_cons, exponentPart_mark mark] at read
        simp only [Option.map_eq_some_iff, Prod.exists, Prod.mk.injEq] at read
        rcases read with ⟨values, behind, digitsRead, rfl, rfl⟩
        rcases signRead with ⟨sign, unsigned, rfl, leftover, signed⟩
        rw [leftover] at digitsRead
        rcases leaves_someDigits digitsRead with ⟨taken, left, rfl, rfl, areDigits, rfl⟩
        refine ⟨first :: (sign ++ digitsText values), left, by simp, rfl, ?_⟩
        exact .present mark signed areDigits
      · have absent :
            exponentPart ((first :: text).map some) = some (none, (first :: text).map some) := by
          rw [not_or] at mark
          rw [List.map_cons, exponentPart]
          · simpa using mark.1
          · simpa using mark.2
        rw [absent] at read
        cases read
        exact ⟨[], first :: text, rfl, rfl, .absent⟩

/-- A number is taken off behind its sign. -/
theorem leaves_numeral
    {negative : Bool} {text : List Char} {literal : Numeral} {rest : Input}
    (read : numeral negative (text.map some) = some (literal, rest)) :
    Leaves (fun taken => literal.Written ((if negative then ['-'] else []) ++ taken)) text
      rest := by
  simp only [numeral, Option.bind_eq_bind, Option.bind_eq_some_iff, Prod.exists, Option.pure_def,
    Option.some.injEq, Prod.mk.injEq] at read
  rcases read with
    ⟨whole, behindWhole, wholeRead, fraction, behindFraction, fractionRead, exponent,
      behindExponent, exponentRead, rfl, rfl⟩
  rcases leaves_wholePart wholeRead with ⟨_, left, rfl, rfl, areDigits, leading, rfl⟩
  rcases leaves_fractionPart fractionRead with ⟨fractionText, left, rfl, rfl, fractional⟩
  rcases leaves_exponentPart exponentRead with ⟨exponentText, left, rfl, rfl, scaled⟩
  refine ⟨digitsText whole ++ (fractionText ++ exponentText), left, by simp, rfl, ?_⟩
  exact .intro areDigits leading fractional scaled

/-! ## Strings -/

theorem isHexDigit_of_hexDigit? {digit : Char} {value : Nat}
    (read : hexDigit? (some digit) = some value) : IsHexDigit value digit := by
  have lower : ∀ value < 16, 10 ≤ value → (Nat.digitChar value).toNat = 87 + value := by decide
  have upper : ∀ value < 16, 10 ≤ value → (Nat.digitChar value).toUpper.toNat = 55 + value := by
    decide
  simp only [hexDigit?] at read
  split at read
  · next isDigit =>
      have decimal : digit? (some digit) = some value := by rwa [digit?, if_pos isDigit]
      rcases digit?_eq_some_iff.1 decimal with ⟨small, same⟩
      exact ⟨by omega, .inl same⟩
  · split at read
    · next isLower =>
        simp only [Bool.and_eq_true, decide_eq_true_eq] at isLower
        cases read
        have small : digit.toNat - 87 < 16 := by omega
        refine ⟨small, .inl (Char.toNat_inj.1 ?_)⟩
        rw [lower _ small (by omega)]
        omega
    · split at read
      · next isUpper =>
          simp only [Bool.and_eq_true, decide_eq_true_eq] at isUpper
          cases read
          have small : digit.toNat - 55 < 16 := by omega
          refine ⟨small, .inr (Char.toNat_inj.1 ?_)⟩
          rw [upper _ small (by omega)]
          omega
      · cases read

theorem unit?_eq_some {digit₀ digit₁ digit₂ digit₃ : Char} {code : Nat}
    (read : unit? (some digit₀) (some digit₁) (some digit₂) (some digit₃) = some code) :
    (Spelled.unit code).Written ['\\', 'u', digit₀, digit₁, digit₂, digit₃] := by
  simp only [unit?, Option.bind_eq_bind, Option.bind_eq_some_iff, Option.pure_def,
    Option.some.injEq] at read
  rcases read with ⟨_, first, _, second, _, third, _, last, rfl⟩
  exact .unit (isHexDigit_of_hexDigit? first) (isHexDigit_of_hexDigit? second)
    (isHexDigit_of_hexDigit? third) (isHexDigit_of_hexDigit? last)

theorem mem_of_shortEscape? {escape character : Char}
    (read : shortEscape? (some escape) = some character) :
    (escape, character) ∈ shortEscapes := by
  unfold shortEscape? at read
  split at read
  case h_9 => cases read
  all_goals
    next same =>
      cases same
      cases read
      decide

/-- Whether a string was taken off with its closing quote. -/
def LeavesString (spelled : List Spelled) : List Char → Input → Prop :=
  Leaves fun taken => ∃ string, StringWritten spelled string ∧ taken = string ++ ['"']

theorem LeavesString.behind
    {element : Spelled} {piece : List Char} (written : element.Written piece)
    {spelled : List Spelled} {text : List Char} {rest : Input}
    (leaves : LeavesString spelled text rest) :
    LeavesString (element :: spelled) (piece ++ text) rest := by
  rcases leaves with ⟨_, behind, rfl, rfl, string, others, rfl⟩
  exact ⟨piece ++ string ++ ['"'], behind, by simp, rfl, piece ++ string, .cons written others, rfl⟩

theorem leaves_stringRest
    {input : Input} {text : List Char} (whole : input = text.map some)
    {spelled : List Spelled} {rest : Input} (read : stringRest input = some (spelled, rest)) :
    LeavesString spelled text rest := by
  fun_induction stringRest input generalizing text spelled rest with
  | case1 behind =>
      cases read
      obtain ⟨_, left, rfl, same, rfl⟩ := List.map_eq_cons_iff.1 whole.symm
      cases same
      exact ⟨['"'], left, rfl, rfl, [], .nil, rfl⟩
  | case2 _ _ _ _ behind induction =>
      simp only [Option.bind_eq_bind, Option.bind_eq_some_iff, Prod.exists, Option.pure_def,
        Option.some.injEq, Prod.mk.injEq] at read
      rcases read with ⟨code, digits, others, _, later, rfl, rfl⟩
      rw [eq_comm] at whole
      simp only [List.map_eq_cons_iff] at whole
      rcases whole with
        ⟨_, _, rfl, slash, _, _, rfl, letter, _, _, rfl, rfl, _, _, rfl, rfl, _, _, rfl, rfl, _, _,
          rfl, rfl, rfl⟩
      cases slash
      cases letter
      exact (induction rfl later).behind (unit?_eq_some digits)
  | case3 escape behind noUnit induction =>
      simp only [Option.bind_eq_bind, Option.bind_eq_some_iff, Prod.exists, Option.pure_def,
        Option.some.injEq, Prod.mk.injEq] at read
      rcases read with ⟨character, short, others, _, later, rfl, rfl⟩
      obtain ⟨_, _, rfl, same, tail⟩ := List.map_eq_cons_iff.1 whole.symm
      obtain ⟨_, left, rfl, rfl, rfl⟩ := List.map_eq_cons_iff.1 tail
      cases same
      exact (induction rfl later).behind (.short (mem_of_shortEscape? short))
  | case4 => cases read
  | case5 character behind unquoted _ _ printable induction =>
      simp only [Option.bind_eq_bind, Option.bind_eq_some_iff, Prod.exists, Option.pure_def,
        Option.some.injEq, Prod.mk.injEq] at read
      rcases read with ⟨others, _, later, rfl, rfl⟩
      obtain ⟨_, left, rfl, same, rfl⟩ := List.map_eq_cons_iff.1 whole.symm
      cases same
      simp only [Bool.or_eq_true, decide_eq_true_eq, not_or, Nat.not_lt] at printable
      exact (induction rfl later).behind (.plain printable.1 unquoted printable.2)
  | case6 behind induction =>
      obtain ⟨_, _, _, same, _⟩ := List.map_eq_cons_iff.1 whole.symm
      cases same
  | case7 => cases read

/-! ## Documents -/

theorem leaves_word
    {expected text : List Char} {result document : Document} {rest : Input}
    (read : word expected result (text.map some) = some (document, rest)) :
    document = result ∧ Leaves (· = expected) text rest := by
  simp only [word, Option.ite_none_right_eq_some, Option.some.injEq, Prod.mk.injEq,
    List.isPrefixOf_iff_prefix] at read
  rcases read with ⟨⟨tail, whole⟩, rfl, rfl⟩
  obtain ⟨taken, behind, rfl, same, rfl⟩ := List.append_eq_map_iff.1 whole
  obtain rfl := List.map_injective_iff.2 (fun _ _ => Option.some.inj) same
  exact ⟨rfl, taken, behind, rfl, by simp, rfl⟩

theorem eq_cons_of_map_some {text : List Char} {first : Char} {rest : Input}
    (same : text.map some = some first :: rest) :
    ∃ behind, text = first :: behind ∧ rest = behind.map some := by
  obtain ⟨_, behind, rfl, head, rfl⟩ := List.map_eq_cons_iff.1 same
  cases head
  exact ⟨behind, rfl, rfl⟩

theorem exists_gap_of_skipSpace {text : List Char} {first : Char} {rest : Input}
    (found : skipSpace (text.map some) = some first :: rest) :
    ∃ gap behind, text = gap ++ first :: behind ∧ rest = behind.map some ∧ IsGap gap := by
  rcases leaves_skipSpace text with ⟨gap, left, rfl, skipped, isGap⟩
  obtain ⟨behind, rfl, rfl⟩ := eq_cons_of_map_some (skipped ▸ found)
  exact ⟨gap, behind, rfl, rfl, isGap⟩

theorem items_behind_gap {gap text : List Char} (isGap : IsGap gap) {documents : List Document}
    (written : Phrase.Written (.items documents) text) :
    Phrase.Written (.items documents) (gap ++ text) := by
  cases written with
  | lastItem gapBefore item gapAfter =>
      rw [← List.append_assoc]
      exact .lastItem (isGap.append gapBefore) item gapAfter
  | item gapBefore item gapAfter others =>
      rw [← List.append_assoc]
      exact .item (isGap.append gapBefore) item gapAfter others

theorem members_behind_gap
    {gap text : List Char} (isGap : IsGap gap) {written : List (List Spelled × Document)}
    (phrase : Phrase.Written (.members written) text) :
    Phrase.Written (.members written) (gap ++ text) := by
  cases phrase with
  | lastMember gapBefore named gapName gapColon value gapAfter =>
      rw [← List.append_assoc]
      exact .lastMember (isGap.append gapBefore) named gapName gapColon value gapAfter
  | member gapBefore named gapName gapColon value gapAfter others =>
      rw [← List.append_assoc]
      exact .member (isGap.append gapBefore) named gapName gapColon value gapAfter others

/-- Whether the inside of two brackets was taken off with the closing one. -/
def LeavesBracketed (phrase : Phrase) (closing : Char) : List Char → Input → Prop :=
  Leaves fun taken => ∃ body, phrase.Written body ∧ taken = body ++ [closing]

theorem LeavesBracketed.behind
    {phrase other : Phrase} {closing : Char} {piece text : List Char} {rest : Input}
    (leaves : LeavesBracketed phrase closing text rest)
    (written : ∀ body, phrase.Written body → other.Written (piece ++ body)) :
    LeavesBracketed other closing (piece ++ text) rest := by
  rcases leaves with ⟨_, behind, rfl, rfl, body, phrase, rfl⟩
  exact ⟨piece ++ body ++ [closing], behind, by simp, rfl, piece ++ body, written body phrase, rfl⟩

/-- Whether phrases of each kind are taken off texts by readers with some fuel. -/
structure Takes (fuel : Nat) : Prop where
  value {text : List Char} {document : Document} {rest : Input}
    (read : Document.value fuel (text.map some) = some (document, rest)) :
    Leaves (Phrase.Written (.value document)) text rest
  items {text : List Char} {documents : List Document} {rest : Input}
    (read : Document.items fuel (text.map some) = some (documents, rest)) :
    LeavesBracketed (.items documents) ']' text rest
  members {text : List Char} {members : List (List Spelled × Document)} {rest : Input}
    (read : Document.members fuel (text.map some) = some (members, rest)) :
    LeavesBracketed (.members members) '\x7d' text rest

section Phrases

variable {fuel : Nat} (takes : Takes fuel)

include takes

theorem Takes.items_behind
    {text : List Char} {documents : List Document} {rest : Input}
    (read : Document.items fuel (skipSpace (text.map some)) = some (documents, rest)) :
    LeavesBracketed (.items documents) ']' text rest := by
  rcases leaves_skipSpace text with ⟨gap, left, rfl, skipped, isGap⟩
  rw [skipped] at read
  exact (takes.items read).behind fun _ => items_behind_gap isGap

theorem Takes.members_behind
    {text : List Char} {written : List (List Spelled × Document)} {rest : Input}
    (read : Document.members fuel (skipSpace (text.map some)) = some (written, rest)) :
    LeavesBracketed (.members written) '\x7d' text rest := by
  rcases leaves_skipSpace text with ⟨gap, left, rfl, skipped, isGap⟩
  rw [skipped] at read
  exact (takes.members read).behind fun _ => members_behind_gap isGap

theorem Takes.leaves_items
    {text : List Char} {documents : List Document} {rest : Input}
    (read : Document.items (fuel + 1) (text.map some) = some (documents, rest)) :
    LeavesBracketed (.items documents) ']' text rest := by
  rw [Document.items] at read
  split at read
  next => cases read
  next first left found =>
    rcases takes.value found with ⟨item, tail, rfl, rfl, written⟩
    split at read
    next behind closing =>
      cases read
      rcases exists_gap_of_skipSpace closing with ⟨gap, behind, rfl, rfl, isGap⟩
      exact ⟨item ++ gap ++ [']'], behind, by simp, rfl, item ++ gap,
        .lastItem isGap_nil written isGap, rfl⟩
    next behind comma =>
      rcases exists_gap_of_skipSpace comma with ⟨gap, behind, rfl, rfl, isGap⟩
      simp only [Option.map_eq_some_iff, Prod.exists, Prod.mk.injEq] at read
      rcases read with ⟨others, behind, othersRead, rfl, rfl⟩
      rcases takes.items_behind othersRead with ⟨_, behind, rfl, rfl, body, others, rfl⟩
      exact ⟨item ++ (gap ++ ',' :: body) ++ [']'], behind, by simp, rfl,
        item ++ (gap ++ ',' :: body), .item isGap_nil written isGap others, rfl⟩
    next => cases read

theorem Takes.leaves_members
    {text : List Char} {written : List (List Spelled × Document)} {rest : Input}
    (read : Document.members (fuel + 1) (text.map some) = some (written, rest)) :
    LeavesBracketed (.members written) '\x7d' text rest := by
  unfold Document.members at read
  split at read
  next named quoted =>
    rcases eq_cons_of_map_some quoted with ⟨named, rfl, rfl⟩
    split at read
    next => cases read
    next name left found =>
      rcases leaves_stringRest rfl found with ⟨_, valued, rfl, rfl, string, spelled, rfl⟩
      split at read
      next left colon =>
        rcases exists_gap_of_skipSpace colon with ⟨gap₁, valued, rfl, rfl, gapName⟩
        split at read
        next => cases read
        next first left found =>
          rcases leaves_skipSpace valued with ⟨gap₂, valued, rfl, skipped, gapColon⟩
          rw [skipped] at found
          rcases takes.value found with ⟨item, tail, rfl, rfl, value⟩
          split at read
          next behind closing =>
            cases read
            rcases exists_gap_of_skipSpace closing with ⟨gap, behind, rfl, rfl, isGap⟩
            refine ⟨memberText string gap₁ gap₂ item ++ gap ++ ['\x7d'], behind,
              by simp [memberText], rfl, memberText string gap₁ gap₂ item ++ gap, ?_, rfl⟩
            exact .lastMember isGap_nil spelled gapName gapColon value isGap
          next behind comma =>
            rcases exists_gap_of_skipSpace comma with ⟨gap, behind, rfl, rfl, isGap⟩
            simp only [Option.map_eq_some_iff, Prod.exists, Prod.mk.injEq] at read
            rcases read with ⟨others, behind, othersRead, rfl, rfl⟩
            rcases takes.members_behind othersRead with ⟨_, behind, rfl, rfl, body, others, rfl⟩
            refine ⟨memberText string gap₁ gap₂ item ++ (gap ++ ',' :: body) ++ ['\x7d'], behind,
              by simp [memberText], rfl,
              memberText string gap₁ gap₂ item ++ (gap ++ ',' :: body), ?_, rfl⟩
            exact .member isGap_nil spelled gapName gapColon value isGap others
          next => cases read
      next => cases read
  next => cases read

theorem Takes.leaves_array
    {text : List Char} {document : Document} {rest : Input}
    (read :
      (match skipSpace (text.map some) with
        | some ']' :: rest => some (.array [], rest)
        | rest => (Document.items fuel rest).map fun (values, rest) => (.array values, rest)) =
        some (document, rest)) :
    Leaves (Phrase.Written (.value document)) ('[' :: text) rest := by
  split at read
  next behind closing =>
    cases read
    rcases exists_gap_of_skipSpace closing with ⟨gap, behind, rfl, rfl, isGap⟩
    exact ⟨'[' :: (gap ++ [']']), behind, by simp, rfl, .emptyArray isGap⟩
  next =>
    simp only [Option.map_eq_some_iff, Prod.exists, Prod.mk.injEq] at read
    rcases read with ⟨documents, behind, itemsRead, rfl, rfl⟩
    rcases takes.items_behind itemsRead with ⟨_, behind, rfl, rfl, body, written, rfl⟩
    exact ⟨'[' :: (body ++ [']']), behind, rfl, rfl, .array written⟩

theorem Takes.leaves_object
    {text : List Char} {document : Document} {rest : Input}
    (read :
      (match skipSpace (text.map some) with
        | some '\x7d' :: rest => some (.object [], rest)
        | rest => (Document.members fuel rest).map fun (values, rest) => (.object values, rest)) =
        some (document, rest)) :
    Leaves (Phrase.Written (.value document)) ('\x7b' :: text) rest := by
  split at read
  next behind closing =>
    cases read
    rcases exists_gap_of_skipSpace closing with ⟨gap, behind, rfl, rfl, isGap⟩
    exact ⟨'\x7b' :: (gap ++ ['\x7d']), behind, by simp, rfl, .emptyObject isGap⟩
  next =>
    simp only [Option.map_eq_some_iff, Prod.exists, Prod.mk.injEq] at read
    rcases read with ⟨members, behind, membersRead, rfl, rfl⟩
    rcases takes.members_behind membersRead with ⟨_, behind, rfl, rfl, body, written, rfl⟩
    exact ⟨'\x7b' :: (body ++ ['\x7d']), behind, rfl, rfl, .object written⟩

theorem Takes.leaves_value
    {text : List Char} {document : Document} {rest : Input}
    (read : Document.value (fuel + 1) (text.map some) = some (document, rest)) :
    Leaves (Phrase.Written (.value document)) text rest := by
  unfold Document.value at read
  split at read
  next behind quoted =>
    rcases eq_cons_of_map_some quoted with ⟨text, rfl, rfl⟩
    simp only [Option.map_eq_some_iff, Prod.exists, Prod.mk.injEq] at read
    rcases read with ⟨spelled, behind, stringRead, rfl, rfl⟩
    rcases leaves_stringRest rfl stringRead with ⟨_, behind, rfl, rfl, string, written, rfl⟩
    exact ⟨'"' :: (string ++ ['"']), behind, rfl, rfl, .string written⟩
  next behind opening =>
    rcases eq_cons_of_map_some opening with ⟨text, rfl, rfl⟩
    exact takes.leaves_array read
  next behind opening =>
    rcases eq_cons_of_map_some opening with ⟨text, rfl, rfl⟩
    exact takes.leaves_object read
  next =>
    rcases leaves_word read with ⟨rfl, taken, behind, split, leftover, rfl⟩
    exact ⟨_, behind, split, leftover, .truth⟩
  next =>
    rcases leaves_word read with ⟨rfl, taken, behind, split, leftover, rfl⟩
    exact ⟨_, behind, split, leftover, .falsehood⟩
  next =>
    rcases leaves_word read with ⟨rfl, taken, behind, split, leftover, rfl⟩
    exact ⟨_, behind, split, leftover, .null⟩
  next behind minus =>
    rcases eq_cons_of_map_some minus with ⟨text, rfl, rfl⟩
    simp only [Option.map_eq_some_iff, Prod.exists, Prod.mk.injEq] at read
    rcases read with ⟨literal, behind, numeralRead, rfl, rfl⟩
    rcases leaves_numeral numeralRead with ⟨taken, behind, rfl, rfl, written⟩
    exact ⟨'-' :: taken, behind, rfl, rfl, .number written⟩
  next =>
    simp only [Option.map_eq_some_iff, Prod.exists, Prod.mk.injEq] at read
    rcases read with ⟨literal, behind, numeralRead, rfl, rfl⟩
    rcases leaves_numeral numeralRead with ⟨taken, behind, rfl, rfl, written⟩
    exact ⟨taken, behind, rfl, rfl, .number written⟩

end Phrases

/-- Whatever is taken off a text is written, however much fuel there is. -/
theorem takes (fuel : Nat) : Takes fuel := by
  induction fuel with
  | zero =>
      constructor
      all_goals
        intro _ _ _ read
        cases read
  | succ fuel induction =>
      exact
        { value := induction.leaves_value
          items := induction.leaves_items
          members := induction.leaves_members }

/-- A text is read as a document exactly if it is one of the texts of the document. -/
theorem parse?_eq_some_iff {text : List Char} {document : Document} :
    parse? (text.map some) = some document ↔ document.Written text := by
  refine ⟨?_, parse?_of_written⟩
  intro read
  unfold parse? at read
  rcases leaves_skipSpace text with ⟨before, left, rfl, skipped, gapBefore⟩
  rw [skipped] at read
  split at read
  next result rest found =>
    rcases (takes _).value found with ⟨taken, behind, rfl, rfl, written⟩
    rcases leaves_skipSpace behind with ⟨after, left, rfl, skipped, gapAfter⟩
    rw [skipped] at read
    cases left with
    | nil =>
        cases read
        exact ⟨before, taken, after, gapBefore, written, gapAfter, by simp⟩
    | cons next left => cases read
  next => cases read

end PhaseAssertions.Json.Document
