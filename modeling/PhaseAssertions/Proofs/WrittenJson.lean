import PhaseAssertions.Proofs.JsonTokens

/-!
# Written JSON reads back

What is written of a value in its indented form is a JSON document, and reading
it leads back to that value: scalars by their spelling, arrays item by item and
objects member by member.  Names in the document denote the names in the value,
so a member of an object is found there under its name.
-/

namespace PhaseAssertions.Json

/-! ## The documents of values -/

namespace Value

mutual

/-- The document that a value is written as. -/
def document : Value → Document
  | .null => .null
  | .bool value => .bool value
  | .int value =>
    .number
      { negative := decide (value < 0), whole := decimal value.natAbs
        fraction := none, exponent := none }
  | .str value => .string (spelledText value)
  | .array items => .array (documents items)
  | .object members => .object (memberDocuments members)

def documents : List Value → List Document
  | [] => []
  | item :: rest => document item :: documents rest

def memberDocuments : List (String × Value) → List (List Spelled × Document)
  | [] => []
  | (name, value) :: rest => (spelledText name, document value) :: memberDocuments rest

end

theorem documents_eq_map (items : List Value) : documents items = items.map document := by
  induction items with
  | nil => rfl
  | cons item rest induction => rw [documents, induction, List.map_cons]

end Value

namespace Value

/-! ## Lines -/

theorem isGap_newline (level : Nat) : IsGap (newline level).toList := by
  simp [IsGap, newline]

/-- Lines with commas between them, the way they stand in brackets. -/
def joined (level : Nat) (lines : List String) : String :=
  ("," ++ newline level).intercalate lines

theorem joined_singleton (level : Nat) (line : String) : joined level [line] = line := by
  simp [joined]

theorem toList_joined_cons_cons (level : Nat) (line next : String) (lines : List String) :
    (joined level (line :: next :: lines)).toList =
      line.toList ++
        ',' :: ((newline level).toList ++ (joined level (next :: lines)).toList) := by
  rw [joined, String.intercalate_cons_cons]
  simp only [String.toList_append, List.append_assoc]
  rfl

/-- Lines between two brackets, with a line break on either side. -/
theorem toList_bracketed
    (opening closing : String) (level : Nat) (line : String) (lines : List String) :
    (bracketed opening closing level (line :: lines)).toList =
      opening.toList ++
        (((newline (level + 1)).toList ++
            ((joined (level + 1) (line :: lines)).toList ++ (newline level).toList)) ++
          closing.toList) := by
  simp [bracketed, joined]

/-! ## Items and members -/

/-- Items are written with a line break in front of each, and one behind the last. -/
theorem items_written
    {level : Nat} {gap : List Char} (isGap : IsGap gap) {first : Value} {others : List Value}
    (written : ∀ item ∈ first :: others,
      Phrase.Written (.value item.document) (indented level item).toList) :
    Phrase.Written (.items (documents (first :: others)))
      ((newline level).toList ++
        ((joined level (indentedItems level (first :: others))).toList ++ gap)) := by
  induction others generalizing first with
  | nil =>
      rw [indentedItems, indentedItems, joined_singleton]
      exact .lastItem (isGap_newline level) (written first (by simp)) isGap
  | cons next others induction =>
      rw [List.forall_mem_cons] at written
      have item :=
        Phrase.Written.item (isGap_newline level) written.1 isGap_nil
          (induction written.2)
      simpa [indentedItems, toList_joined_cons_cons, documents] using item

/-- Members are written like items, with a space behind the colon of each. -/
theorem members_written
    {level : Nat} {gap : List Char} (isGap : IsGap gap) {first : String × Value}
    {others : List (String × Value)}
    (written : ∀ member ∈ first :: others,
      Phrase.Written (.value member.2.document) (indented level member.2).toList) :
    Phrase.Written (.members (memberDocuments (first :: others)))
      ((newline level).toList ++
        ((joined level (indentedMembers level (first :: others))).toList ++ gap)) := by
  have isSpace : IsGap [' '] := by simp [IsGap]
  induction others generalizing first with
  | nil =>
      have member :=
        Phrase.Written.lastMember (isGap_newline level) (stringWritten_escaped first.1.toList)
          isGap_nil isSpace (written first (by simp)) isGap
      simpa [indentedMembers, joined_singleton, memberText, writeString, memberDocuments,
        spelledText] using member
  | cons next others induction =>
      rw [List.forall_mem_cons] at written
      have member :=
        Phrase.Written.member (isGap_newline level) (stringWritten_escaped first.1.toList)
          isGap_nil isSpace written.1 isGap_nil (induction written.2)
      simpa [indentedMembers, toList_joined_cons_cons, memberText, writeString, memberDocuments,
        spelledText] using member

/-! ## Values -/

theorem scalar_written
    {value : Value} (noArray : ∀ items, value ≠ .array items)
    (noObject : ∀ members, value ≠ .object members) :
    Phrase.Written (.value value.document) value.writeScalar.toList := by
  cases value with
  | null => exact .null
  | bool value =>
      cases value with
      | true => exact .truth
      | false => exact .falsehood
  | int number => exact .number (numeral_written number)
  | str text =>
      have string := Phrase.Written.string (stringWritten_escaped text.toList)
      simpa [writeScalar, writeString, document, spelledText] using string
  | array items => exact absurd rfl (noArray items)
  | object members => exact absurd rfl (noObject members)

theorem array_written
    (level : Nat) {items : List Value}
    (written : ∀ item ∈ items,
      Phrase.Written (.value item.document) (indented (level + 1) item).toList) :
    Phrase.Written (.value (document (.array items))) (indented level (.array items)).toList := by
  cases items with
  | nil =>
      have brackets := Phrase.Written.emptyArray isGap_nil
      simpa [indented, indentedItems, bracketed, document, documents] using brackets
  | cons first others =>
      rw [indented, indentedItems, toList_bracketed, ← indentedItems]
      exact .array (items_written (isGap_newline level) written)

theorem object_written
    (level : Nat) {members : List (String × Value)}
    (written : ∀ member ∈ members,
      Phrase.Written (.value member.2.document) (indented (level + 1) member.2).toList) :
    Phrase.Written (.value (document (.object members)))
      (indented level (.object members)).toList := by
  cases members with
  | nil =>
      have braces := Phrase.Written.emptyObject isGap_nil
      simpa [indented, indentedMembers, bracketed, document, memberDocuments] using braces
  | cons first others =>
      rw [indented, indentedMembers, toList_bracketed, ← indentedMembers]
      exact .object (members_written (isGap_newline level) written)

mutual

/-- The indented form of a value is one of the texts of its document. -/
theorem indented_written :
    ∀ (value : Value) (level : Nat),
      Phrase.Written (.value value.document) (indented level value).toList
  | .null, level | .bool _, level | .int _, level | .str _, level => by
      rw [indented]
      · exact scalar_written (by simp) (by simp)
      all_goals simp
  | .array items, level => array_written level (items_indented_written items (level + 1))
  | .object members, level => object_written level (members_indented_written members (level + 1))

theorem items_indented_written :
    ∀ (items : List Value) (level : Nat), ∀ item ∈ items,
      Phrase.Written (.value item.document) (indented level item).toList
  | [], _, item, member => absurd member List.not_mem_nil
  | first :: others, level, item, member => by
      rcases List.mem_cons.1 member with same | later
      · rw [same]
        exact indented_written first level
      · exact items_indented_written others level item later

theorem members_indented_written :
    ∀ (members : List (String × Value)) (level : Nat), ∀ member ∈ members,
      Phrase.Written (.value member.2.document) (indented level member.2).toList
  | [], _, member, found => absurd found List.not_mem_nil
  | (_, first) :: others, level, member, found => by
      rcases List.mem_cons.1 found with same | later
      · rw [same]
        exact indented_written first level
      · exact members_indented_written others level member later

end

end Value

/-- A written value, with the line break behind it, reads back as its document. -/
theorem Document.parse?_pretty (written : Value) :
    parse? (chars (written.pretty ++ "\n")) = some written.document := by
  refine parse?_of_written
    ⟨[], written.pretty.toList, ['\n'], isGap_nil, written.indented_written 0, ?_, ?_⟩
  · simp [IsGap]
  · rw [String.toList_append]
    rfl

/-! ## Members -/

/-- The value of a member of an object. -/
def Value.member? (name : String) : Value → Option Value
  | .object members => members.lookup name
  | .null | .bool _ | .int _ | .str _ | .array _ => none

/-- The value of the first member of an object whose name denotes the given one. -/
def Document.member? (name : String) : Document → Option Document
  | .object members =>
    (members.find? fun member => (textOf member.1).toOption = some name).map Prod.snd
  | .null | .bool _ | .number _ | .string _ | .array _ => none

/-- A member of a value is found in its document under the same name. -/
theorem Value.member?_document (name : String) (value : Value) :
    value.document.member? name = (value.member? name).map document := by
  cases value with
  | object members =>
      induction members with
      | nil => rfl
      | cons member members induction =>
          rcases member with ⟨other, value⟩
          have denoted : (textOf (spelledText other)).toOption = some other := by
            rw [textOf_spelledText]
            rfl
          simp only [document, memberDocuments, Document.member?, member?, List.find?_cons,
            List.lookup_cons, denoted, Option.some.injEq] at induction ⊢
          by_cases same : other = name
          · simp [same]
          · have differs : (name == other) = false := beq_eq_false_iff_ne.2 (Ne.symm same)
            simp [same, differs, induction]
  | _ => rfl

end PhaseAssertions.Json
