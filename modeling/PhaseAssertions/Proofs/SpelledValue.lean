import PhaseAssertions.Json.Format
import PhaseAssertions.Proofs.JsonTokens
import PhaseAssertions.Proofs.Resolution

/-!
# Values in any spelling

A string gives a text by whatever spells its characters, a number gives a
timestamp by its decimal digits, and an array gives a list item by item.

An object gives a record by members in any order: one for a part of the record,
if it is there at all, and any others between them.  The draft of the record
depends only on which parts were read so far.  So all such objects are read as
the same record, and one with others is refused for the first of them if the
record is closed.
-/

namespace PhaseAssertions.Json

open Schema (Fault Record)

/-! ## Texts and numbers -/

/-- Whether a document is a string that denotes a text. -/
def IsText (text : String) (document : Document) : Prop :=
  ∃ spelled, document = .string spelled ∧ Denotes spelled text.toList

theorem Document.text_of_isText {text : String} {document : Document}
    (isText : IsText text document) : document.text = .ok text := by
  rcases isText with ⟨spelled, rfl, denotes⟩
  exact textOf_of_denotes denotes

namespace Number

/-- Digits that fit are taken whole, and those behind them are taken on top of them. -/
theorem absorb_append
    {significand total taken : Nat} {digits : List Nat}
    (fits : absorb significand digits = (total, taken, 0)) (others : List Nat) :
    absorb significand (digits ++ others) =
      ((absorb total others).1, taken + (absorb total others).2.1, (absorb total others).2.2) := by
  induction digits generalizing significand taken with
  | nil =>
      cases fits
      simp
  | cons digit digits induction =>
      rw [absorb] at fits
      split at fits
      · next small =>
          cases read : absorb (significand * 10 + digit) digits with
          | mk first rest =>
              rcases rest with ⟨count, left⟩
              simp only [read, Prod.mk.injEq] at fits
              rcases fits with ⟨rfl, rfl, rfl⟩
              rw [List.cons_append, absorb, if_pos small, induction read]
              simp only [Prod.mk.injEq, true_and, and_true]
              omega
      · simp at fits

/-- A number of 64 bits is taken whole from its digits. -/
theorem absorb_decimal (number : Nat) :
    number < UInt64.size → ∃ taken, absorb 0 (decimal number) = (number, taken, 0) := by
  induction number using Nat.strongRecOn with
  | ind number induction =>
      intro bounded
      by_cases small : number < 10
      · refine ⟨1, ?_⟩
        rw [decimal_of_lt small]
        simp [absorb, bounded]
      · rcases induction (number / 10) (by omega) (by omega) with ⟨taken, read⟩
        have whole : number / 10 * 10 + number % 10 = number := by omega
        refine ⟨taken + 1, ?_⟩
        rw [decimal_of_le (by omega), absorb_append read]
        simp [absorb, whole, bounded]

end Number

theorem value_numeralOf (timestamp : Int64) :
    (numeralOf timestamp.toInt).value = .ok (.integer timestamp.toInt) := by
  have above := timestamp.le_toInt
  have below := timestamp.toInt_lt
  generalize timestamp.toInt = number at above below ⊢
  have size : UInt64.size = 18446744073709551616 := rfl
  rcases Number.absorb_decimal number.natAbs (by omega) with ⟨taken, read⟩
  by_cases negative : number < 0
  · have signed : -(number.natAbs : Int) = number := by omega
    have nonzero : number.natAbs ≠ 0 := by omega
    have bound : Nat.pow 2 63 = 9223372036854775808 := rfl
    have fits : ¬Nat.pow 2 63 < number.natAbs := by omega
    simp only [Numeral.value, numeralOf, read, decide_eq_true negative, decide_eq_false nonzero,
      decide_eq_false fits, signed, ne_eq, not_true_eq_false, if_false, Bool.not_true,
      Bool.or_false, Bool.false_eq_true]
  · have unsigned : (number.natAbs : Int) = number := by omega
    simp only [Numeral.value, numeralOf, read, decide_eq_false negative, unsigned, ne_eq,
      not_true_eq_false, if_false, Bool.not_false, if_true]

/-- The decimal digits of a timestamp are read as the timestamp. -/
theorem Document.integer_numeralOf (timestamp : Int64) :
    Document.integer (.number (numeralOf timestamp.toInt)) = .ok timestamp := by
  have below : timestamp.toInt ≤ Int64.maxValue.toInt := timestamp.toInt_le
  simp only [Document.integer, value_numeralOf, bind, Except.bind, below, if_pos,
    Int64.ofInt_toInt]
  rfl

/-! ## Arrays -/

/-- Whether a document is an array with one item for each of some things. -/
def IsArrayOf {Item : Type} (IsItem : Item → Document → Prop) (items : List Item)
    (document : Document) : Prop :=
  ∃ documents, document = .array documents ∧ List.Forall₂ IsItem items documents

theorem Document.sequence_of_isArrayOf
    {Item : Type} {IsItem : Item → Document → Prop} {read : Document → Reading Item}
    (each : ∀ item document, IsItem item document → read document = .ok item)
    {items : List Item} {document : Document} (isArray : IsArrayOf IsItem items document) :
    Document.sequence read document = .ok items := by
  rcases isArray with ⟨documents, rfl, related⟩
  exact mapM_eq_ok_iff.2 (related.imp each).flip

/-! ## Objects -/

/-- A part of a record as a document gives it. -/
structure Part where
  name : String
  /-- Whether a value gives the part. -/
  IsValue : Document → Prop
  /-- Whether the part may be left out. -/
  Omissible : Prop

/--
Whether the members of an object give some parts, each of them once, and others
with the names that are listed, in whatever order.
-/
inductive Gives (parts : List Part) :
    (given others : List String) → List (List Spelled × Document) → Prop where
  | none : Gives parts [] [] []
  | part {part : Part} {given others : List String} {spelled : List Spelled}
      {content : Document} {members : List (List Spelled × Document)}
      (known : part ∈ parts) (fresh : part.name ∉ given)
      (named : Denotes spelled part.name.toList) (isValue : part.IsValue content)
      (rest : Gives parts given others members) :
      Gives parts (part.name :: given) others ((spelled, content) :: members)
  | other {name : String} {given others : List String} {spelled : List Spelled}
      {content : Document} {members : List (List Spelled × Document)}
      (unknown : ∀ part ∈ parts, part.name ≠ name) (named : Denotes spelled name.toList)
      (rest : Gives parts given others members) :
      Gives parts given (name :: others) ((spelled, content) :: members)

/-- Whether a document is an object that gives all parts but some that may be left out. -/
def IsObjectOf (parts : List Part) (others : List String) (document : Document) : Prop :=
  ∃ given members,
    document = .object members ∧ Gives parts given others members ∧
      ∀ part ∈ parts, part.name ∉ given → part.Omissible

variable {Draft Result : Type}

/--
Whether a record is drafted from its parts: there is one draft for each set of
parts that were read, and it is completed if what is missing may be left out.
-/
structure IsDraftedFrom (record : Record Reading Document Draft Result) (parts : List Part)
    (draft : List String → Draft) (result : Result) : Prop where
  start_eq : draft [] = record.start
  read_eq : ∀ part ∈ parts, ∀ read, part.name ∉ read → ∀ content, part.IsValue content →
    ∃ field,
      record.field? part.name = some field ∧ field.isFilled (draft read) = false ∧
        field.read (draft read) content = .ok (draft (part.name :: read))
  field?_eq_none : ∀ name, (∀ part ∈ parts, part.name ≠ name) → record.field? name = none
  finish_eq : ∀ read, (∀ part ∈ parts, part.name ∉ read → part.Omissible) →
    record.finish (draft read) = .ok result

theorem unread_cons
    {name : String} {given read : List String} (fresh : name ∉ given)
    (unread : ∀ later ∈ given, later ∉ read) : ∀ later ∈ given, later ∉ name :: read := by
  intro later found
  rw [List.mem_cons, not_or]
  exact ⟨fun same => fresh (same ▸ found), unread later found⟩

namespace Document

variable {record : Record Reading Document Draft Result} {parts : List Part}
variable {draft : List String → Draft} {result : Result}
variable (drafted : IsDraftedFrom record parts draft result)

include drafted

/-- One member that gives a part is read into the draft. -/
theorem readMembers_part
    {part : Part} (known : part ∈ parts) {read : List String} (unread : part.name ∉ read)
    {spelled : List Spelled} (named : Denotes spelled part.name.toList) {content : Document}
    (isValue : part.IsValue content) (members : List (List Spelled × Document)) :
    readMembers record (draft read) ((spelled, content) :: members) =
      readMembers record (draft (part.name :: read)) members := by
  rcases drafted.read_eq part known read unread content isValue with
    ⟨field, found, unfilled, taken⟩
  simp only [readMembers, textOf_of_denotes named, bind, Except.bind, found, unfilled,
    Bool.false_eq_true, if_false, taken]

/-- One member that gives no part is passed over or refused. -/
theorem readMembers_other
    {name : String} (unknown : ∀ part ∈ parts, part.name ≠ name) {spelled : List Spelled}
    (named : Denotes spelled name.toList) (read : List String) (content : Document)
    (members : List (List Spelled × Document)) :
    readMembers record (draft read) ((spelled, content) :: members) =
      if record.closed then .error (.unknownField name record.fieldNames)
      else readMembers record (draft read) members := by
  simp only [readMembers, textOf_of_denotes named, bind, Except.bind,
    drafted.field?_eq_none name unknown]
  cases record.closed <;> rfl

/-- The members of an object are read into the draft of the parts that they give. -/
theorem readMembers_of_gives
    {given others : List String} {members : List (List Spelled × Document)}
    (gives : Gives parts given others members) (accepted : record.closed = false ∨ others = [])
    {read : List String} (unread : ∀ name ∈ given, name ∉ read) :
    readMembers record (draft read) members = .ok (draft (given.reverse ++ read)) := by
  induction gives generalizing read with
  | none => rfl
  | part known fresh named isValue rest induction =>
      rw [List.forall_mem_cons] at unread
      have unreadLater := unread_cons fresh unread.2
      rw [readMembers_part drafted known unread.1 named isValue, induction accepted unreadLater,
        List.reverse_cons, List.append_assoc, List.singleton_append]
  | other unknown named rest induction =>
      have passed := accepted.resolve_right (List.cons_ne_nil _ _)
      rw [readMembers_other drafted unknown named, passed, if_neg Bool.false_ne_true,
        induction (.inl passed) unread]

/-- A closed record is refused for the first member that gives no part. -/
theorem readMembers_of_closed
    {given others : List String} {members : List (List Spelled × Document)}
    (gives : Gives parts given others members) (closed : record.closed = true)
    {name : String} (first : others.head? = some name)
    {read : List String} (unread : ∀ name ∈ given, name ∉ read) :
    readMembers record (draft read) members =
      .error (.unknownField name record.fieldNames) := by
  induction gives generalizing read with
  | none => cases first
  | part known fresh named isValue rest induction =>
      rw [List.forall_mem_cons] at unread
      have unreadLater := unread_cons fresh unread.2
      rw [readMembers_part drafted known unread.1 named isValue, induction first unreadLater]
  | other unknown named rest induction =>
      cases first
      rw [readMembers_other drafted unknown named, closed, if_pos rfl]

/-- However an object gives its parts, it is read as the same record. -/
theorem record_of_isObjectOf
    {others : List String} {document : Document} (isObject : IsObjectOf parts others document)
    (accepted : record.closed = false ∨ others = []) :
    Document.record record document = .ok result := by
  rcases isObject with ⟨given, members, rfl, gives, complete⟩
  have read := readMembers_of_gives drafted gives accepted (fun _ _ => List.not_mem_nil)
  rw [drafted.start_eq] at read
  have finished := drafted.finish_eq (given.reverse ++ []) (by simpa using complete)
  simp only [Document.record, bind, Except.bind, read, finished]

theorem record_of_closed
    {others : List String} {document : Document} (isObject : IsObjectOf parts others document)
    (closed : record.closed = true) {name : String} (first : others.head? = some name) :
    Document.record record document = .error (.unknownField name record.fieldNames) := by
  rcases isObject with ⟨given, members, rfl, gives, complete⟩
  have refused := readMembers_of_closed drafted gives closed first (fun _ _ => List.not_mem_nil)
  rw [drafted.start_eq] at refused
  simp only [Document.record, bind, Except.bind, refused]

end Document

end PhaseAssertions.Json
