import PhaseAssertions.Proofs.Checksum

/-!
# How a trace is loaded

Three stages decide about a file that can be read: its size, its checksum and
its contents, in this order.  A file that is too large is refused without
regard to the other two, and one with another checksum without regard to what
it spells.  The checksum is that of all bytes of the file, a byte order mark
included, which the contents are read without.
-/

namespace PhaseAssertions

/-- Whether a text is `core` with white space around it. -/
def Text.Pads (text : String) (core : List Char) : Prop :=
  ∃ before after : List Char,
    (∀ character ∈ before, isBlank character = true) ∧
      (∀ character ∈ after, isBlank character = true) ∧
      text.toList = before ++ core ++ after

namespace Trace

open Digest

variable {files : Files} {limits : Limits} {path : String} {bytes : List UInt8}
variable {expected : Option String}

/-! ## Contents -/

/-- Contents are refused because they do not decode or because of their order. -/
theorem parse_error
    {format : DocumentFormat} {label : String} {cause : TraceError}
    (refused : (parse format label bytes).result = .error cause) :
    (∃ fault, cause = .undecodable label fault) ∨ ∃ disorder, cause = .unordered disorder := by
  unfold parse at refused
  cases decoded : decode format bytes with
  | error fault =>
      simp only [decoded, Except.error.injEq] at refused
      exact .inl ⟨fault, refused.symm⟩
  | ok entries =>
      cases ordered : ofEntries entries with
      | error disorder =>
          simp only [decoded, ordered, Except.mapError, Except.error.injEq] at refused
          exact .inr ⟨disorder, refused.symm⟩
      | ok trace => simp [decoded, ordered, Except.mapError] at refused

/-! ## Stages -/

/-- Whether a file with these bytes has the expected checksum, if one is expected. -/
def Accepts (expected : Option String) (bytes : List UInt8) : Prop :=
  ∀ given ∈ expected,
    (Text.trimChars given.toList).map Char.toLower = (sha256Hex bytes).toList

theorem accepts_iff_isChecksum :
    Accepts expected bytes ↔
      ∀ given ∈ expected, isChecksum given (sha256Hex bytes) = true := by
  simp only [Accepts, isChecksum_sha256Hex_iff]

/-- The stages of loading a file, one of which decides the result. -/
inductive LoadStage (limits : Limits) (expected : Option String) (bytes : List UInt8) : Prop
  | size (exceeds : limits.maxTraceSize < bytes.length)
  | checksum (fits : bytes.length ≤ limits.maxTraceSize) (given : String)
      (asked : expected = some given) (differs : isChecksum given (sha256Hex bytes) = false)
  | contents (fits : bytes.length ≤ limits.maxTraceSize) (accepts : Accepts expected bytes)

theorem loadStage (limits : Limits) (expected : Option String) (bytes : List UInt8) :
    LoadStage limits expected bytes := by
  by_cases exceeds : limits.maxTraceSize < bytes.length
  · exact .size exceeds
  · have fits : bytes.length ≤ limits.maxTraceSize := by omega
    cases expected with
    | none => exact .contents fits (by simp [Accepts])
    | some given =>
        cases checked : isChecksum given (sha256Hex bytes) with
        | false => exact .checksum fits given rfl checked
        | true => exact .contents fits (accepts_iff_isChecksum.2 (by simp [checked]))

theorem load_of_exceeds
    (found : files.find path = .ok (.file bytes))
    (exceeds : limits.maxTraceSize < bytes.length) :
    (load files limits path expected).result =
      .error (.tooLarge path bytes.length limits.maxTraceSize) := by
  simp [load, found, FileEntry.size, exceeds]

/-- A file that is not too large is judged by its contents. -/
theorem load_of_fits
    (found : files.find path = .ok (.file bytes))
    (fits : bytes.length ≤ limits.maxTraceSize) :
    load files limits path expected = ofContents files path expected bytes := by
  simp [load, found, FileEntry.size, FileEntry.read, Nat.not_lt.2 fits]

theorem load_of_differs
    (found : files.find path = .ok (.file bytes))
    (fits : bytes.length ≤ limits.maxTraceSize)
    {given : String} (differs : isChecksum given (sha256Hex bytes) = false) :
    (load files limits path (some given)).result =
      .error (.checksumMismatch path given (sha256Hex bytes)) := by
  rw [load_of_fits found fits]
  simp [ofContents, Option.filter, differs]

/-- An accepted checksum has no influence on how the contents are read. -/
theorem ofContents_of_accepts (accepts : Accepts expected bytes) :
    ofContents files path expected bytes = ofContents files path none bytes := by
  have unopposed :
      expected.filter (fun given => !isChecksum given (sha256Hex bytes)) = none := by
    cases expected with
    | none => rfl
    | some given =>
        have checked := accepts_iff_isChecksum.1 accepts given rfl
        simp [Option.filter, checked]
  simp only [ofContents, unopposed, Option.filter_none]

theorem load_of_accepts
    (found : files.find path = .ok (.file bytes))
    (fits : bytes.length ≤ limits.maxTraceSize) (accepts : Accepts expected bytes) :
    (load files limits path expected).result =
      (parse (.ofPath path) path bytes).result.map
        (loadedFrom files path (sha256Hex bytes)) := by
  rw [load_of_fits found fits, ofContents_of_accepts accepts]
  cases parsed : (parse (.ofPath path) path bytes).result with
  | error cause => simp [ofContents, parsed, Except.map]
  | ok trace => simp [ofContents, parsed, Except.map]

theorem load_error_of_accepts
    (found : files.find path = .ok (.file bytes))
    (fits : bytes.length ≤ limits.maxTraceSize) (accepts : Accepts expected bytes)
    {cause : TraceError} (refused : (load files limits path expected).result = .error cause) :
    (∃ fault, cause = .undecodable path fault) ∨ ∃ disorder, cause = .unordered disorder := by
  rw [load_of_accepts found fits accepts] at refused
  cases parsed : (parse (.ofPath path) path bytes).result with
  | ok trace => simp [parsed, Except.map] at refused
  | error fault =>
      simp only [parsed, Except.map, Except.error.injEq] at refused
      exact parse_error (refused ▸ parsed)

/-! ## Results -/

/-- What counts is the size alone, whatever is expected and whatever the file holds. -/
theorem load_eq_tooLarge_iff
    (found : files.find path = .ok (.file bytes)) {place : String} {size limit : Nat} :
    (load files limits path expected).result = .error (.tooLarge place size limit) ↔
      limits.maxTraceSize < bytes.length ∧
        place = path ∧ size = bytes.length ∧ limit = limits.maxTraceSize := by
  cases loadStage limits expected bytes with
  | size exceeds =>
      rw [load_of_exceeds found exceeds]
      simp [exceeds, eq_comm]
  | checksum fits given asked differs =>
      rw [asked, load_of_differs found fits differs]
      simp [Nat.not_lt.2 fits]
  | contents fits accepts =>
      constructor
      · -- Only the contents or their order can be at fault at this stage.
        intro refused
        rcases load_error_of_accepts found fits accepts refused with
          ⟨fault, other⟩ | ⟨disorder, other⟩ <;> cases other
      · rintro ⟨exceeds, _⟩
        omega

/-- A checksum is looked at once the size fits, and before the contents are. -/
theorem load_eq_checksumMismatch_iff
    (found : files.find path = .ok (.file bytes)) {place given computed : String} :
    (load files limits path expected).result =
        .error (.checksumMismatch place given computed) ↔
      bytes.length ≤ limits.maxTraceSize ∧ expected = some given ∧
        (Text.trimChars given.toList).map Char.toLower ≠ (sha256Hex bytes).toList ∧
        place = path ∧ computed = sha256Hex bytes := by
  cases loadStage limits expected bytes with
  | size exceeds =>
      rw [load_of_exceeds found exceeds]
      simp [Nat.not_le.2 exceeds]
  | checksum fits asked expects differs =>
      rw [expects, load_of_differs found fits differs]
      have unequal :
          (Text.trimChars asked.toList).map Char.toLower ≠ (sha256Hex bytes).toList := by
        rw [Ne, ← isChecksum_sha256Hex_iff, differs]
        exact Bool.false_ne_true
      constructor
      · intro refused
        cases refused
        exact ⟨fits, rfl, unequal, rfl, rfl⟩
      · rintro ⟨_, same, _, rfl, rfl⟩
        cases same
        rfl
  | contents fits accepts =>
      constructor
      · intro refused
        rcases load_error_of_accepts found fits accepts refused with
          ⟨fault, other⟩ | ⟨disorder, other⟩ <;> cases other
      · rintro ⟨_, asked, differs, _⟩
        exact absurd (accepts given asked) differs

theorem fits_of_load_ok
    (found : files.find path = .ok (.file bytes)) {trace : Trace WindowManagerEntry}
    (loaded : (load files limits path expected).result = .ok trace) :
    bytes.length ≤ limits.maxTraceSize ∧ Accepts expected bytes := by
  cases loadStage limits expected bytes with
  | size exceeds =>
      rw [load_of_exceeds found exceeds] at loaded
      cases loaded
  | checksum fits given asked differs =>
      rw [asked, load_of_differs found fits differs] at loaded
      cases loaded
  | contents fits accepts => exact ⟨fits, accepts⟩

/-- Any two checksums that are accepted lead to the same loading. -/
theorem load_congr_of_accepts
    (found : files.find path = .ok (.file bytes))
    (fits : bytes.length ≤ limits.maxTraceSize)
    {other : Option String}
    (accepts : Accepts expected bytes) (acceptsOther : Accepts other bytes) :
    load files limits path other = load files limits path expected := by
  rw [load_of_fits found fits, load_of_fits found fits, ofContents_of_accepts accepts,
    ofContents_of_accepts acceptsOther]

/-- Padded digits are accepted exactly if they spell the digest. -/
theorem accepts_pads_iff
    {given : String} {digits : List Char} (pads : Text.Pads given digits)
    {other : List UInt8} (spelled : decode? digits = some other) :
    Accepts (some given) bytes ↔ other = sha256 bytes := by
  rcases pads with ⟨before, after, blankBefore, blankAfter, text⟩
  have trimmed : Text.trimChars given.toList = digits := by
    rw [text]
    exact Text.trimChars_surrounded blankBefore (isBlank_eq_false_of_decode? spelled) blankAfter
  simp only [Accepts, Option.mem_some_iff, forall_eq', trimmed, toList_sha256Hex]
  rw [decode?_eq_some_iff.1 spelled, hexForm_inj]

/--
A file is refused for its size exactly if it exceeds the limit, and otherwise
for its checksum exactly if the expected one, without the white space around it
and in lower case, is not the hexadecimal form of the digest of its bytes.
Otherwise the result is that of parsing the bytes, and a trace records the path
and the digest.  A recorded checksum is accepted again in either case of its
letters and with white space around it, and the digits of another digest are
not.
-/
theorem load_file
    (found : files.find path = .ok (.file bytes)) (limits : Limits)
    (expected : Option String) :
    (∀ place size limit,
      (load files limits path expected).result = .error (.tooLarge place size limit) ↔
        limits.maxTraceSize < bytes.length ∧
          place = path ∧ size = bytes.length ∧ limit = limits.maxTraceSize) ∧
    (∀ place given computed,
      (load files limits path expected).result =
          .error (.checksumMismatch place given computed) ↔
        bytes.length ≤ limits.maxTraceSize ∧ expected = some given ∧
          (Text.trimChars given.toList).map Char.toLower ≠ (sha256Hex bytes).toList ∧
          place = path ∧ computed = sha256Hex bytes) ∧
    (bytes.length ≤ limits.maxTraceSize →
      (∀ given ∈ expected,
        (Text.trimChars given.toList).map Char.toLower = (sha256Hex bytes).toList) →
      (load files limits path expected).result =
        (parse (.ofPath path) path bytes).result.map fun trace =>
          trace.withProvenance
            { source := path, directory := files.directory
              checksum := some (sha256Hex bytes) }) ∧
    ((sha256 bytes).length = 32 ∧ (sha256Hex bytes).length = 64 ∧
      (sha256Hex bytes).toList.map Char.toLower = (sha256Hex bytes).toList ∧
      decode? (sha256Hex bytes).toList = some (sha256 bytes)) ∧
    (∀ trace, (load files limits path expected).result = .ok trace →
      trace.provenance =
          some
            { source := path, directory := files.directory
              checksum := some (sha256Hex bytes) } ∧
        ∀ given digits, Text.Pads given digits →
          digits.map Char.toLower = (sha256Hex bytes).toList →
            load files limits path (some given) = load files limits path expected) ∧
    (∀ given digits other, Text.Pads given digits → decode? digits = some other →
      other ≠ sha256 bytes → bytes.length ≤ limits.maxTraceSize →
        (load files limits path (some given)).result =
          .error (.checksumMismatch path given (sha256Hex bytes))) := by
  refine ⟨fun place size limit => load_eq_tooLarge_iff found,
    fun place given computed => load_eq_checksumMismatch_iff found,
    fun fits accepts => load_of_accepts found fits accepts,
    ⟨length_sha256 bytes, length_sha256Hex bytes, ?_, ?_⟩, ?_, ?_⟩
  · rw [toList_sha256Hex, map_toLower_hexForm]
  · rw [toList_sha256Hex, decode?_hexForm]
  · intro trace loaded
    rcases fits_of_load_ok found loaded with ⟨fits, accepts⟩
    rw [load_of_accepts found fits accepts] at loaded
    constructor
    · cases parsed : (parse (.ofPath path) path bytes).result with
      | error cause => simp [parsed, Except.map] at loaded
      | ok contents =>
          simp only [parsed, Except.map, Except.ok.injEq] at loaded
          rw [← loaded]
          rfl
    · intro given digits pads lower
      rw [toList_sha256Hex] at lower
      have acceptsGiven : Accepts (some given) bytes :=
        (accepts_pads_iff pads (decode?_eq_some_iff.2 lower)).2 rfl
      exact load_congr_of_accepts found fits accepts acceptsGiven
  · intro given digits other pads spelled differs fits
    have refused : ¬Accepts (some given) bytes := fun accepts =>
      differs ((accepts_pads_iff pads spelled).1 accepts)
    refine (load_eq_checksumMismatch_iff found).2 ⟨fits, rfl, fun same => refused ?_, rfl, rfl⟩
    simpa [Accepts] using same

/-- An empty trace. -/
def bareBytes : List UInt8 :=
  Text.Utf8.encode "\x7b\"entries\":[]\x7d"

/-- An empty trace behind a byte order mark. -/
def markedBytes : List UInt8 :=
  0xef :: 0xbb :: 0xbf :: bareBytes

def markedFiles : Files :=
  { directory := "/"
    find := fun path => if path = "trace.json" then .ok (.file markedBytes) else .error .notFound }

/-- The digest of the file in upper case, on a line of its own. -/
def markedChecksum : String :=
  "C4C6F28CF876B2D4FA829DBCCD7B6F52C10A9D39E7F9A7DB2D93F3258276807D\n"

theorem markedFiles_load :
    markedFiles.find "trace.json" = .ok (.file markedBytes) ∧
    (load markedFiles { maxTraceSize := 8 } "trace.json" (some markedChecksum)).result =
      .error (.tooLarge "trace.json" 17 8) ∧
    (load markedFiles {} "trace.json" (some (sha256Hex bareBytes))).result =
      .error (.checksumMismatch "trace.json" (sha256Hex bareBytes) (sha256Hex markedBytes)) ∧
    ∃ trace,
      (load markedFiles {} "trace.json" none).result = .ok trace ∧
        trace.entries.length = 0 ∧
        load markedFiles {} "trace.json" (some markedChecksum) =
          load markedFiles {} "trace.json" none := by
  have found : markedFiles.find "trace.json" = .ok (.file markedBytes) := rfl
  have length : markedBytes.length = 17 := by decide +kernel
  have fits : markedBytes.length ≤ ({} : Limits).maxTraceSize := by
    rw [length]
    decide
  have bareSpelled : decode? (sha256Hex bareBytes).toList = some (sha256 bareBytes) := by
    rw [toList_sha256Hex, decode?_hexForm]
  have differs : sha256 bareBytes ≠ sha256 markedBytes := by decide +kernel
  have lower :
      (markedChecksum.toList.take 64).map Char.toLower = (sha256Hex markedBytes).toList := by
    decide +kernel
  have entries :
      (load markedFiles {} "trace.json" none).result.map (fun trace => trace.entries.length) =
        .ok 0 := by
    decide +kernel
  rcases load_file found { maxTraceSize := 8 } (some markedChecksum) with ⟨tooLarge, _⟩
  rcases load_file found {} none with ⟨_, _, _, _, repeats, refuses⟩
  refine
    ⟨found, (tooLarge _ _ _).2 ⟨by rw [length]; decide, rfl, length.symm, rfl⟩,
      refuses _ _ _ ⟨[], [], by simp, by simp, by simp⟩ bareSpelled differs fits, ?_⟩
  cases loaded : (load markedFiles {} "trace.json" none).result with
  | error cause =>
      rw [loaded] at entries
      cases entries
  | ok trace =>
      rw [loaded] at entries
      rcases repeats trace loaded with ⟨_, again⟩
      refine ⟨trace, rfl, Except.ok.inj entries, ?_⟩
      exact again _ _ ⟨[], ['\n'], by simp, by simp [Text.isBlank], by decide +kernel⟩ lower

end Trace

end PhaseAssertions
