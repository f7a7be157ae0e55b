import PhaseAssertions.Proofs.Chronology
import PhaseAssertions.Proofs.Encoding
import PhaseAssertions.Proofs.JsonReading
import PhaseAssertions.Proofs.SpelledValue

/-!
# Traces in any spelling

A trace can be spelled in many ways: the members of a window, of an entry and
of the document itself stand in any order, a visibility or a list is left out
where its default is meant, and windows and entries have other members among
these.  The document is written by the grammar of JSON, and its bytes may start
with a mark of the byte order.

All of these are read back as the same trace.  Only the top level of the
document is closed to other members.
-/

namespace PhaseAssertions.Trace.Schema

open PhaseAssertions.Schema
open Json (Document Part IsText IsObjectOf IsArrayOf IsDraftedFrom)

/-! ## Windows -/

def windowParts (window : WindowState) : List Part :=
  [ { name := "title", IsValue := IsText window.title, Omissible := False },
    { name := "kind", IsValue := IsText window.kind.name, Omissible := False },
    { name := "visible"
      IsValue := fun document => document = .bool window.visible
      Omissible := window.visible = false } ]

/-- Whether a document spells a window; other members may have any names and values. -/
def SpellsWindow (window : WindowState) (document : Document) : Prop :=
  ∃ others, IsObjectOf (windowParts window) others document

/-- The draft of a window when the given fields were read. -/
def windowDraft (window : WindowState) (read : List String) : WindowDraft :=
  { title := if "title" ∈ read then some window.title else none
    kind := if "kind" ∈ read then some window.kind else none
    visible := if "visible" ∈ read then some window.visible else none }

theorem choice_kindNames {kind : WindowKind} {document : Document}
    (isText : IsText kind.name document) :
    Document.choice kindNames document = .ok kind := by
  rcases isText with ⟨spelled, rfl, denotes⟩
  have chosen : Document.choose kindNames kind.name = .ok kind := by
    cases kind <;> rfl
  simp only [Document.choice, Json.textOf_of_denotes denotes, bind, Except.bind, chosen]

theorem isDraftedFrom_window (window : WindowState) :
    IsDraftedFrom (windowRecord Json.format) (windowParts window) (windowDraft window) window where
  start_eq := by simp [windowDraft, windowRecord]
  read_eq := by
    intro part known read unread content isValue
    simp only [windowParts, List.mem_cons, List.not_mem_nil, or_false] at known
    rcases known with rfl | rfl | rfl
    · have text := Document.text_of_isText isValue
      refine ⟨_, rfl, ?_, ?_⟩
      · simp [windowDraft, unread]
      · simp [windowDraft, Json.format, text, bind, Except.bind, pure, Except.pure]
    · have kind := choice_kindNames isValue
      refine ⟨_, rfl, ?_, ?_⟩
      · simp [windowDraft, unread]
      · simp [windowDraft, Json.format, kind, bind, Except.bind, pure, Except.pure]
    · cases isValue
      refine ⟨_, rfl, ?_, ?_⟩
      · simp [windowDraft, unread]
      · simp [windowDraft, Json.format, Document.truth, bind, Except.bind, pure, Except.pure]
  field?_eq_none := by
    intro name unknown
    simpa [windowParts, windowRecord, Record.field?] using unknown
  finish_eq := by
    intro read complete
    simp only [windowParts, List.forall_mem_cons] at complete
    rcases complete with ⟨title, kind, visible, _⟩
    have titleDraft : (windowDraft window read).title = some window.title :=
      if_pos (Classical.byContradiction title)
    have kindDraft : (windowDraft window read).kind = some window.kind :=
      if_pos (Classical.byContradiction kind)
    have visibleDraft : (windowDraft window read).visible.getD false = window.visible := by
      by_cases given : "visible" ∈ read
      · simp [windowDraft, given]
      · simp [windowDraft, given, visible given]
    simp only [windowRecord, WindowDraft.finish, titleDraft, kindDraft, visibleDraft, required,
      bind, Except.bind]
    rfl

theorem record_of_spellsWindow {window : WindowState} {document : Document}
    (spells : SpellsWindow window document) :
    Document.record (windowRecord Json.format) document = .ok window := by
  rcases spells with ⟨others, isObject⟩
  exact Document.record_of_isObjectOf (isDraftedFrom_window window) isObject (.inl rfl)

/-! ## Entries -/

def entryParts (entry : WindowManagerEntry) : List Part :=
  [ { name := "timestamp"
      IsValue := fun document => document = .number (Json.numeralOf entry.timestamp.toInt)
      Omissible := False },
    { name := "windows"
      IsValue := IsArrayOf SpellsWindow entry.windows
      Omissible := entry.windows = [] } ]

/-- Whether a document spells an entry; other members may have any names and values. -/
def SpellsEntry (entry : WindowManagerEntry) (document : Document) : Prop :=
  ∃ others, IsObjectOf (entryParts entry) others document

/-- The draft of an entry when the given fields were read. -/
def entryDraft (entry : WindowManagerEntry) (read : List String) : EntryDraft :=
  { timestamp := if "timestamp" ∈ read then some entry.timestamp else none
    windows := if "windows" ∈ read then some entry.windows else none }

theorem isDraftedFrom_entry (entry : WindowManagerEntry) :
    IsDraftedFrom (entryRecord Json.format) (entryParts entry) (entryDraft entry) entry where
  start_eq := by simp [entryDraft, entryRecord]
  read_eq := by
    intro part known read unread content isValue
    simp only [entryParts, List.mem_cons, List.not_mem_nil, or_false] at known
    rcases known with rfl | rfl
    · cases isValue
      have timestamp := Document.integer_numeralOf entry.timestamp
      refine ⟨_, rfl, ?_, ?_⟩
      · simp [entryDraft, unread]
      · simp [entryDraft, Json.format, timestamp, bind, Except.bind, pure, Except.pure]
    · have windows :
          Json.format.sequence (Json.format.record (windowRecord Json.format)) content =
            .ok entry.windows :=
        Document.sequence_of_isArrayOf (fun _ _ spells => record_of_spellsWindow spells) isValue
      refine ⟨_, rfl, ?_, ?_⟩
      · simp [entryDraft, unread]
      · simp [entryDraft, windows, bind, Except.bind, pure, Except.pure]
  field?_eq_none := by
    intro name unknown
    simpa [entryParts, entryRecord, Record.field?] using unknown
  finish_eq := by
    intro read complete
    simp only [entryParts, List.forall_mem_cons] at complete
    rcases complete with ⟨timestamp, windows, _⟩
    have timestampDraft : (entryDraft entry read).timestamp = some entry.timestamp :=
      if_pos (Classical.byContradiction timestamp)
    have windowsDraft : (entryDraft entry read).windows.getD [] = entry.windows := by
      by_cases given : "windows" ∈ read
      · simp [entryDraft, given]
      · simp [entryDraft, given, windows given]
    simp only [entryRecord, EntryDraft.finish, timestampDraft, windowsDraft, required, bind,
      Except.bind]
    rfl

theorem record_of_spellsEntry {entry : WindowManagerEntry} {document : Document}
    (spells : SpellsEntry entry document) :
    Document.record (entryRecord Json.format) document = .ok entry := by
  rcases spells with ⟨others, isObject⟩
  exact Document.record_of_isObjectOf (isDraftedFrom_entry entry) isObject (.inl rfl)

/-! ## Documents -/

def traceParts (entries : List WindowManagerEntry) : List Part :=
  [ { name := "entries"
      IsValue := IsArrayOf SpellsEntry entries
      Omissible := entries = [] } ]

/-- Whether a document spells a trace, with others of the given names at its top level. -/
def SpellsTrace (entries : List WindowManagerEntry) (others : List String)
    (document : Document) : Prop :=
  IsObjectOf (traceParts entries) others document

/-- The draft of a document when the given fields were read. -/
def documentDraft (entries : List WindowManagerEntry) (read : List String) : DocumentDraft :=
  { entries := if "entries" ∈ read then some entries else none }

theorem isDraftedFrom_document (entries : List WindowManagerEntry) :
    IsDraftedFrom (documentRecord Json.format) (traceParts entries) (documentDraft entries)
      entries where
  start_eq := by simp [documentDraft, documentRecord]
  read_eq := by
    intro part known read unread content isValue
    simp only [traceParts, List.mem_singleton] at known
    cases known
    have items :
        Json.format.sequence (Json.format.record (entryRecord Json.format)) content =
          .ok entries :=
      Document.sequence_of_isArrayOf (fun _ _ spells => record_of_spellsEntry spells) isValue
    refine ⟨_, rfl, ?_, ?_⟩
    · simp [documentDraft, unread]
    · simp [documentDraft, items, bind, Except.bind, pure, Except.pure]
  field?_eq_none := by
    intro name unknown
    simpa [traceParts, documentRecord, Record.field?] using unknown
  finish_eq := by
    intro read complete
    simp only [traceParts, List.forall_mem_singleton] at complete
    by_cases given : "entries" ∈ read
    · simp [documentRecord, documentDraft, given]
    · simp [documentRecord, documentDraft, given, complete given]

end PhaseAssertions.Trace.Schema

namespace PhaseAssertions.Trace

open PhaseAssertions.Schema (Fault)
open PhaseAssertions.Trace.Schema (SpellsWindow SpellsEntry SpellsTrace)
open Text.Utf8 (encode withoutMark)
open Json (Phrase spelledText numeralOf denotes_spelled isGap_nil numeral_written
  stringWritten_escaped)

/-! ## Bytes -/

theorem decode_encode (text : String) :
    Text.Utf8.decode (encode text) = text.toList.map some := by
  refine Json.mapM_id_eq_some_iff.1 ?_
  exact (Text.Utf8.mapM_decodeSteps_eq_some_iff (Nat.le_refl _)).2
    (Text.Utf8.encode_eq_flatMap text)

/-- No written object starts with the mark of the byte order. -/
theorem withoutMark_encode
    {members : List (List Json.Spelled × Json.Document)} {text : String}
    (written : (Json.Document.object members).Written text.toList) :
    withoutMark (encode text) = encode text := by
  rcases Json.exists_first_of_written written with ⟨first, rest, characters, known⟩
  rw [Text.Utf8.encode_eq_flatMap, characters, List.flatMap_cons]
  simp only [List.mem_cons, List.not_mem_nil, or_false] at known
  rcases known with rfl | rfl | rfl | rfl | rfl <;> rfl

/-- Whether bytes encode a text, with or without a mark of the byte order in front of it. -/
def Encodes (bytes : List UInt8) (text : String) : Prop :=
  bytes = encode text ∨ bytes = 0xef :: 0xbb :: 0xbf :: encode text

/-- A written object is judged by the schema alone. -/
theorem decode_of_written
    {members : List (List Json.Spelled × Json.Document)} {text : String}
    (written : (Json.Document.object members).Written text.toList)
    {bytes : List UInt8} (encodes : Encodes bytes text) :
    decode .json bytes =
      (Schema.entries Json.format (.object members)).mapError fun fault =>
        .unexpected fault.message none := by
  have unmarked : withoutMark bytes = encode text := by
    rcases encodes with rfl | rfl
    · exact withoutMark_encode written
    · rfl
  simp only [decode, unmarked, Json.decode, decode_encode,
    Json.Document.parse?_eq_some_iff.2 written]
  cases Schema.entries Json.format (.object members) with
  | ok entries => rfl
  | error fault => rfl

/--
Entries in the order of their timestamps are read back from every document that
spells them, however it is written: with members in any order and other members
among them, with a member left out where its default is meant, with any escapes
in its strings and any white space between its parts.  At the top level no
other members are allowed; the first of them is the one it is refused for.
-/
theorem parse_spelled
    {entries : List WindowManagerEntry}
    (inOrder : entries.Pairwise fun earlier later => earlier.timestamp ≤ later.timestamp)
    {others : List String} {document : Json.Document}
    (spells : SpellsTrace entries others document)
    {text : String} (written : document.Written text.toList)
    {bytes : List UInt8} (encodes : Encodes bytes text) (label : String) :
    (others = [] →
      ∃ trace, (parse .json label bytes).result = .ok trace ∧ trace.entries = entries) ∧
    ∀ first later, others = first :: later →
      (parse .json label bytes).result =
        .error (.undecodable label
          (.unexpected (Fault.unknownField first ["entries"]).message none)) := by
  have drafted := Schema.isDraftedFrom_document entries
  rcases id spells with ⟨given, members, rfl, gives, complete⟩
  have decoded := decode_of_written written encodes
  constructor
  · intro none
    have read : Schema.entries Json.format (.object members) = .ok entries :=
      Json.Document.record_of_isObjectOf drafted spells (.inr none)
    rw [read] at decoded
    have ordered : InOrder entries := inOrder_iff_pairwise.2 inOrder
    refine ⟨{ entries, inOrder := ordered }, ?_, rfl⟩
    rw [parse_of_decoded decoded, ofEntries_of_inOrder ordered]
    rfl
  · rintro first later rfl
    have read :
        Schema.entries Json.format (.object members) = .error (.unknownField first ["entries"]) :=
      Json.Document.record_of_closed drafted spells rfl rfl
    rw [read] at decoded
    simp only [parse, decoded, Except.mapError]

/-- A window whose members are not in their usual order, with a note and no visibility. -/
def smilingWindow : Json.Document :=
  .object
    [ (spelledText "kind", .string (spelledText "app")),
      (spelledText "note",
        .array [.number { negative := false, whole := [1], fraction := none,
                          exponent := some (false, [3]) }]),
      (spelledText "title", .string [.unit 0xd83d, .unit 0xde00, .char '/']) ]

def smilingEntry : Json.Document :=
  .object
    [ (spelledText "windows", .array [smilingWindow]),
      (spelledText "timestamp", .number (numeralOf (-5))) ]

/-- Two entries, the second of which has no windows. -/
def smilingDocument : Json.Document :=
  .object
    [ (spelledText "entries",
        .array [smilingEntry, .object [(spelledText "timestamp", .number (numeralOf 7))]]) ]

theorem smilingWindow_spells :
    SpellsWindow { title := "😀/", kind := .app } smilingWindow := by
  have title : Json.IsText "😀/" (.string [.unit 0xd83d, .unit 0xde00, .char '/']) :=
    ⟨_, rfl, @Json.Denotes.pair '😀' _ _ (by decide) (.char .nil)⟩
  have kind : Json.IsText "app" (.string (spelledText "app")) := ⟨_, rfl, denotes_spelled _⟩
  refine ⟨["note"], ["kind", "title"], _, rfl, ?_, by simp [Schema.windowParts]⟩
  refine .part (.tail _ (.head _)) (by decide) (denotes_spelled _) kind ?_
  refine .other (by decide) (denotes_spelled _) ?_
  exact .part (.head _) (by decide) (denotes_spelled _) title .none

theorem smilingEntry_spells :
    SpellsEntry { timestamp := -5, windows := [{ title := "😀/", kind := .app }] }
      smilingEntry := by
  refine ⟨[], ["windows", "timestamp"], _, rfl, ?_, by simp [Schema.entryParts]⟩
  refine .part (.tail _ (.head _)) (by decide) (denotes_spelled _)
    ⟨_, rfl, .cons smilingWindow_spells .nil⟩ ?_
  exact .part (.head _) (by decide) (denotes_spelled _) rfl .none

theorem smilingWindow_written :
    Phrase.Written (.value smilingWindow)
      "\x7b\"kind\":\"app\",\"note\":[1E+3],\"title\":\"\\ud83D\\uDE00\\/\"\x7d".toList := by
  have name (text : String) := stringWritten_escaped text.toList
  have thousand :
      Json.Numeral.Written
        { negative := false, whole := [1], fraction := none, exponent := some (false, [3]) }
        ['1', 'E', '+', '3'] :=
    .intro (by decide) (by decide) .absent (.present (.inr rfl) .plus (by decide))
  have note := Phrase.Written.array (.lastItem isGap_nil (.number thousand) isGap_nil)
  have high : (Json.Spelled.unit 0xd83d).Written ['\\', 'u', 'd', '8', '3', 'D'] :=
    @Json.Spelled.Written.unit 13 8 3 13 _ _ _ _ (by decide) (by decide) (by decide) (by decide)
  have low : (Json.Spelled.unit 0xde00).Written ['\\', 'u', 'D', 'E', '0', '0'] :=
    @Json.Spelled.Written.unit 13 14 0 0 _ _ _ _ (by decide) (by decide) (by decide) (by decide)
  have slash : (Json.Spelled.char '/').Written ['\\', '/'] := .short (by decide)
  have title := Json.StringWritten.cons high (.cons low (.cons slash .nil))
  have written := Phrase.Written.object (.member isGap_nil (name "kind") isGap_nil isGap_nil
    (.string (name "app")) isGap_nil
    (.member isGap_nil (name "note") isGap_nil isGap_nil note isGap_nil
      (.lastMember isGap_nil (name "title") isGap_nil isGap_nil (.string title) isGap_nil)))
  exact written

def smilingEntries : List WindowManagerEntry :=
  [ { timestamp := -5, windows := [{ title := "😀/", kind := .app }] }, { timestamp := 7 } ]

theorem smilingDocument_spells : SpellsTrace smilingEntries [] smilingDocument := by
  have last :
      SpellsEntry { timestamp := 7 }
        (.object [(spelledText "timestamp", .number (numeralOf 7))]) := by
    refine ⟨[], ["timestamp"], _, rfl, ?_, by simp [Schema.entryParts]⟩
    exact .part (.head _) (by decide) (denotes_spelled _) rfl .none
  refine ⟨["entries"], _, rfl, ?_, by simp [Schema.traceParts]⟩
  exact .part (.head _) (by decide) (denotes_spelled _)
    ⟨_, rfl, .cons smilingEntry_spells (.cons last .nil)⟩ .none

def smilingText : String :=
  "\x7b \"entries\":[\x7b\"windows\":[\x7b\"kind\":\"app\",\"note\":[1E+3]," ++
    "\"title\":\"\\ud83D\\uDE00\\/\"\x7d],\"timestamp\":-5\x7d," ++
    "\x7b\"timestamp\":7\x7d]\n\x7d"

theorem smilingDocument_written : smilingDocument.Written smilingText.toList := by
  have name (text : String) := stringWritten_escaped text.toList
  have number (value : Int) := Phrase.Written.number (numeral_written value)
  have windows := Phrase.Written.array (.lastItem isGap_nil smilingWindow_written isGap_nil)
  have first := Phrase.Written.object
    (.member isGap_nil (name "windows") isGap_nil isGap_nil windows isGap_nil
      (.lastMember isGap_nil (name "timestamp") isGap_nil isGap_nil (number (-5)) isGap_nil))
  have last := Phrase.Written.object
    (.lastMember isGap_nil (name "timestamp") isGap_nil isGap_nil (number 7) isGap_nil)
  have entries := Phrase.Written.array
    (.item isGap_nil first isGap_nil (.lastItem isGap_nil last isGap_nil))
  have space : Json.IsGap [' '] := by simp [Json.IsGap]
  have line : Json.IsGap ['\n'] := by simp [Json.IsGap]
  have written := Phrase.Written.object
    (.lastMember space (name "entries") isGap_nil isGap_nil entries line)
  exact ⟨[], _, [], isGap_nil, written, isGap_nil, by decide +kernel⟩

/-- The document behind a mark of the byte order, and one with a member that is not allowed. -/
theorem smilingText_parsed :
    (∃ trace,
      (parse .json "smiling" (0xef :: 0xbb :: 0xbf :: encode smilingText)).result = .ok trace ∧
        trace.entries = smilingEntries) ∧
    (parse .json "more" (encode "\x7b\"more\":null\x7d")).result =
      .error (.undecodable "more"
        (.unexpected (Fault.unknownField "more" ["entries"]).message none)) := by
  have spells : SpellsTrace [] ["more"] (.object [(spelledText "more", .null)]) :=
    ⟨[], _, rfl, .other (by decide) (denotes_spelled _) .none, by simp [Schema.traceParts]⟩
  have object := Phrase.Written.object
    (.lastMember isGap_nil (stringWritten_escaped "more".toList) isGap_nil isGap_nil .null
      isGap_nil)
  have written :
      (Json.Document.object [(spelledText "more", .null)]).Written
        "\x7b\"more\":null\x7d".toList :=
    ⟨[], _, [], isGap_nil, object, isGap_nil, rfl⟩
  have inOrder :
      smilingEntries.Pairwise fun earlier later => earlier.timestamp ≤ later.timestamp := by
    decide
  exact
    ⟨(parse_spelled inOrder smilingDocument_spells smilingDocument_written (.inr rfl) _).1 rfl,
      (parse_spelled .nil spells written (.inl rfl) _).2 _ _ rfl⟩

end PhaseAssertions.Trace
