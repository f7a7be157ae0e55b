import PhaseAssertions.Proofs.RangeWindow
import PhaseAssertions.Proofs.TraceLoading

/-!
# The order of a trace

Entries become a trace by a comparison of neighbours.  This settles how any two
of them relate, so ranges, spans and walks can rely on it wherever a trace comes
from.

Entries that do not become a trace are refused for one disorder, the first.
What stands before it would be a trace, and nothing that is put behind it makes
one of it or changes what it is refused for.  Contents and files of contents are
judged in the same way, by the entries that they decode to.
-/

namespace PhaseAssertions

universe u v

variable {Entry : Type u} [Snapshot Entry]

/-! ## Disorders -/

namespace Disorder

/--
Whether a disorder is one of some entries: its times are those of the entry at
its position and of the one just before it, and they decrease.
-/
@[mk_iff]
structure OccursIn (disorder : Disorder) (entries : List Entry) : Prop where
  positive : 1 ≤ disorder.index
  previous_eq :
    entries[disorder.index - 1]?.map Snapshot.timestamp = some disorder.previous
  timestamp_eq : entries[disorder.index]?.map Snapshot.timestamp = some disorder.timestamp
  decreases : disorder.timestamp < disorder.previous

/-- Whether a disorder is the one of some entries with the least position. -/
structure IsFirst (disorder : Disorder) (entries : List Entry) : Prop where
  occurs : disorder.OccursIn entries
  least : ∀ other : Disorder, other.OccursIn entries → disorder.index ≤ other.index

variable {disorder other : Disorder} {entries : List Entry}

theorem OccursIn.index_lt (occurs : disorder.OccursIn entries) :
    disorder.index < entries.length := by
  obtain ⟨entry, found, _⟩ := Option.map_eq_some_iff.1 occurs.timestamp_eq
  exact (List.getElem?_eq_some_iff.1 found).1

/-- The position of a disorder settles its times. -/
theorem OccursIn.unique
    (occurs : disorder.OccursIn entries) (otherOccurs : other.OccursIn entries)
    (same : other.index = disorder.index) :
    other = disorder := by
  have previous := otherOccurs.previous_eq
  have timestamp := otherOccurs.timestamp_eq
  rw [same, occurs.previous_eq, Option.some.injEq] at previous
  rw [same, occurs.timestamp_eq, Option.some.injEq] at timestamp
  cases disorder
  cases other
  simp_all

theorem IsFirst.unique
    (isFirst : disorder.IsFirst entries) (otherIsFirst : other.IsFirst entries) :
    other = disorder :=
  isFirst.occurs.unique otherIsFirst.occurs
    (Nat.le_antisymm (otherIsFirst.least _ isFirst.occurs)
      (isFirst.least _ otherIsFirst.occurs))

/-- What stands behind a disorder does not count. -/
theorem occursIn_take_append_iff
    {count : Nat} (bounded : count ≤ entries.length) (inside : disorder.index < count)
    (more : List Entry) :
    disorder.OccursIn (entries.take count ++ more) ↔ disorder.OccursIn entries := by
  have kept :
      ∀ position < count, (entries.take count ++ more)[position]? = entries[position]? := by
    intro position before
    have taken : position < (entries.take count).length := by
      rw [List.length_take]
      omega
    rw [List.getElem?_append_left taken, List.getElem?_take_of_lt before]
  rw [occursIn_iff, occursIn_iff, kept _ inside, kept _ (by omega)]

theorem occursIn_one_iff
    {first second : Entry} {rest : List Entry} {previous timestamp : Int64} :
    OccursIn ⟨1, previous, timestamp⟩ (first :: second :: rest) ↔
      Snapshot.timestamp first = previous ∧ Snapshot.timestamp second = timestamp ∧
        timestamp < previous := by
  simp [occursIn_iff]

theorem occursIn_succ_iff
    {first : Entry} {rest : List Entry} {position : Nat} {previous timestamp : Int64} :
    OccursIn ⟨position + 2, previous, timestamp⟩ (first :: rest) ↔
      OccursIn ⟨position + 1, previous, timestamp⟩ rest := by
  simp [occursIn_iff]

/-- An entry in front that is not later than the next one moves the first disorder on by one. -/
theorem IsFirst.cons
    {first second : Entry} {rest : List Entry}
    (isFirst : disorder.IsFirst (second :: rest))
    (ordered : Snapshot.timestamp first ≤ Snapshot.timestamp second) :
    IsFirst { disorder with index := disorder.index + 1 } (first :: second :: rest) := by
  obtain ⟨_ | position, previous, timestamp⟩ := disorder
  · exact absurd isFirst.occurs.positive (by simp)
  · refine ⟨occursIn_succ_iff.2 isFirst.occurs, ?_⟩
    rintro ⟨_ | _ | otherPosition, otherPrevious, otherTimestamp⟩ occurs
    · exact absurd occurs.positive (by simp)
    · obtain ⟨rfl, rfl, decreases⟩ := occursIn_one_iff.1 occurs
      exact absurd decreases (Int64.not_lt.2 ordered)
    · exact Nat.succ_le_succ (isFirst.least _ (occursIn_succ_iff.1 occurs))

end Disorder

/-! ## The search for a disorder -/

theorem InOrder.not_occursIn
    {entries : List Entry} (inOrder : InOrder entries) (disorder : Disorder) :
    ¬ disorder.OccursIn entries := by
  intro occurs
  obtain ⟨earlier, atEarlier, previous⟩ := Option.map_eq_some_iff.1 occurs.previous_eq
  obtain ⟨later, atLater, timestamp⟩ := Option.map_eq_some_iff.1 occurs.timestamp_eq
  have ordered := inOrder.timestamp_le (Nat.sub_le disorder.index 1) atEarlier atLater
  rw [previous, timestamp] at ordered
  exact Int64.not_lt.2 ordered occurs.decreases

/-- The search finds the first disorder, and counts from where the entries begin. -/
theorem exists_isFirst_of_disorder?
    {entries : List Entry} {start : Nat} {disorder : Disorder}
    (found : disorder? start entries = some disorder) :
    ∃ first : Disorder,
      first.IsFirst entries ∧ disorder = { first with index := start + first.index } := by
  induction entries generalizing start with
  | nil => cases found
  | cons first rest induction =>
      cases rest with
      | nil => cases found
      | cons second rest =>
          simp only [disorder?] at found
          split at found
          · next decreases =>
              obtain rfl := Option.some.inj found
              exact
                ⟨⟨1, _, _⟩,
                  ⟨Disorder.occursIn_one_iff.2 ⟨rfl, rfl, decreases⟩,
                    fun _ occurs => occurs.positive⟩,
                  rfl⟩
          · next ordered =>
              obtain ⟨later, isFirst, rfl⟩ := induction found
              refine ⟨_, isFirst.cons (Int64.not_lt.1 ordered), ?_⟩
              rw [Nat.add_right_comm, Nat.add_assoc]

theorem inOrder_or_exists_isFirst (entries : List Entry) :
    InOrder entries ∨ ∃ disorder : Disorder, disorder.IsFirst entries := by
  cases found : disorder? 0 entries with
  | none => exact .inl (inOrder_of_disorder?_eq_none entries 0 found)
  | some disorder =>
      obtain ⟨first, isFirst, _⟩ := exists_isFirst_of_disorder? found
      exact .inr ⟨first, isFirst⟩

theorem inOrder_iff_pairwise {entries : List Entry} :
    InOrder entries ↔
      entries.Pairwise fun earlier later =>
        Snapshot.timestamp earlier ≤ Snapshot.timestamp later := by
  constructor
  · exact InOrder.pairwise
  · intro sorted
    induction sorted with
    | nil => trivial
    | @cons first rest least _ induction =>
        cases rest with
        | nil => trivial
        | cons second rest => exact ⟨least second List.mem_cons_self, induction⟩

namespace Disorder.IsFirst

variable {disorder : Disorder} {entries : List Entry}

/-- The entries before the first disorder are in order. -/
theorem inOrder_take (isFirst : disorder.IsFirst entries) :
    InOrder (entries.take disorder.index) := by
  refine (inOrder_or_exists_isFirst (entries.take disorder.index)).resolve_right ?_
  rintro ⟨other, otherIsFirst⟩
  have bounded := isFirst.occurs.index_lt
  have inside := otherIsFirst.occurs.index_lt
  rw [List.length_take, Nat.min_eq_left bounded.le] at inside
  have occurs : other.OccursIn entries := by
    rw [← Disorder.occursIn_take_append_iff bounded.le inside [], List.append_nil]
    exact otherIsFirst.occurs
  exact Nat.not_lt.2 (isFirst.least other occurs) inside

/-- Entries that go on otherwise behind their first disorder have the same. -/
theorem extend (isFirst : disorder.IsFirst entries) (more : List Entry) :
    disorder.IsFirst (entries.take (disorder.index + 1) ++ more) := by
  have bounded := isFirst.occurs.index_lt
  refine
    ⟨(Disorder.occursIn_take_append_iff bounded (Nat.lt_succ_self _) more).2 isFirst.occurs, ?_⟩
  intro other occurs
  rcases Nat.lt_or_ge other.index (disorder.index + 1) with inside | beyond
  · exact isFirst.least other ((Disorder.occursIn_take_append_iff bounded inside more).1 occurs)
  · exact (Nat.lt_of_succ_le beyond).le

end Disorder.IsFirst

/-! ## Judgements -/

namespace Trace

/--
Whether a result is the judgement of some entries.  They are accepted as they
are if none is earlier than any before it.  Otherwise they are refused for their
first disorder.
-/
structure Judges {Error : Type v} (entries : List Entry) (refuse : Disorder → Error)
    (result : Except Error (Trace Entry)) : Prop where
  accepted_iff :
    (∃ trace, result = .ok trace) ↔
      entries.Pairwise fun earlier later =>
        Snapshot.timestamp earlier ≤ Snapshot.timestamp later
  entries_eq : ∀ trace, result = .ok trace → trace.entries = entries
  refused_iff :
    ∀ cause, result = .error cause ↔
      ∃ disorder : Disorder, disorder.IsFirst entries ∧ cause = refuse disorder

/-- Entries are either in order or have a first disorder, so these are the two cases. -/
theorem Judges.of_cases
    {Error : Type v} {entries : List Entry} {refuse : Disorder → Error}
    {result : Except Error (Trace Entry)}
    (accepts : InOrder entries → ∃ trace, result = .ok trace ∧ trace.entries = entries)
    (refuses : ∀ disorder : Disorder, disorder.IsFirst entries →
      result = .error (refuse disorder)) :
    Judges entries refuse result := by
  rcases inOrder_or_exists_isFirst entries with inOrder | ⟨disorder, isFirst⟩
  · obtain ⟨trace, rfl, same⟩ := accepts inOrder
    refine ⟨iff_of_true ⟨trace, rfl⟩ inOrder.pairwise, ?_, ?_⟩
    · rintro _ ⟨⟩
      exact same
    · intro cause
      refine iff_of_false (by simp) ?_
      rintro ⟨disorder, isFirst, _⟩
      exact inOrder.not_occursIn disorder isFirst.occurs
  · obtain rfl := refuses disorder isFirst
    refine ⟨iff_of_false (by simp) ?_, by simp, ?_⟩
    · intro sorted
      exact (inOrder_iff_pairwise.2 sorted).not_occursIn disorder isFirst.occurs
    · intro cause
      constructor
      · rintro ⟨⟩
        exact ⟨disorder, isFirst, rfl⟩
      · rintro ⟨other, otherIsFirst, rfl⟩
        rw [isFirst.unique otherIsFirst]

theorem ofEntries_of_inOrder {entries : List Entry} (inOrder : InOrder entries) :
    ofEntries entries = .ok { entries, inOrder } := by
  unfold ofEntries
  split
  · next disorder found =>
      obtain ⟨first, isFirst, _⟩ := exists_isFirst_of_disorder? found
      exact absurd isFirst.occurs (inOrder.not_occursIn first)
  · rfl

theorem ofEntries_of_isFirst
    {entries : List Entry} {disorder : Disorder} (isFirst : disorder.IsFirst entries) :
    ofEntries entries = .error disorder := by
  unfold ofEntries
  split
  · next found =>
      obtain ⟨first, otherIsFirst, rfl⟩ := exists_isFirst_of_disorder? found
      rw [Nat.zero_add, isFirst.unique otherIsFirst]
  · next found =>
      exact absurd isFirst.occurs ((inOrder_of_disorder?_eq_none entries 0 found).not_occursIn _)

theorem judges_ofEntries (entries : List Entry) : Judges entries id (ofEntries entries) :=
  .of_cases (fun inOrder => ⟨_, ofEntries_of_inOrder inOrder, rfl⟩) fun _ => ofEntries_of_isFirst

/-! ## Contents and files -/

variable {format : DocumentFormat} {label : String} {bytes : List UInt8}
variable {files : Files} {limits : Limits} {path : String} {expected : Option String}
variable {entries : List WindowManagerEntry}

theorem parse_of_decoded (decoded : decode format bytes = .ok entries) :
    (parse format label bytes).result = (ofEntries entries).mapError .unordered := by
  simp only [parse, decoded]

theorem judges_parse (decoded : decode format bytes = .ok entries) :
    Judges entries .unordered (parse format label bytes).result := by
  rw [parse_of_decoded decoded]
  refine .of_cases (fun inOrder => ?_) fun disorder isFirst => ?_
  · rw [ofEntries_of_inOrder inOrder]
    exact ⟨_, rfl, rfl⟩
  · rw [ofEntries_of_isFirst isFirst]
    rfl

/-- Whether the file at a path is decoded to these entries before their order is looked at. -/
structure DecodesFile (files : Files) (limits : Limits) (path : String)
    (expected : Option String) (bytes : List UInt8) (entries : List WindowManagerEntry) :
    Prop where
  found : files.find path = .ok (.file bytes)
  fits : bytes.length ≤ limits.maxTraceSize
  accepts : Accepts expected bytes
  decoded : decode (.ofPath path) bytes = .ok entries

theorem judges_load (decodes : DecodesFile files limits path expected bytes entries) :
    Judges entries .unordered (load files limits path expected).result := by
  have judges : Judges entries .unordered (parse (.ofPath path) path bytes).result :=
    judges_parse decodes.decoded
  rw [load_of_accepts decodes.found decodes.fits decodes.accepts]
  refine .of_cases (fun inOrder => ?_) fun disorder isFirst => ?_
  · obtain ⟨trace, parsed⟩ := judges.accepted_iff.2 inOrder.pairwise
    rw [parsed]
    exact ⟨_, rfl, judges.entries_eq trace parsed⟩
  · rw [(judges.refused_iff _).2 ⟨disorder, isFirst, rfl⟩]
    rfl

/-- Whether a result is a trace, or an error about the order of entries. -/
inductive AboutOrder : Except TraceError (Trace WindowManagerEntry) → Prop where
  | accepted (trace : Trace WindowManagerEntry) : AboutOrder (.ok trace)
  | refused (disorder : Disorder) : AboutOrder (.error (.unordered disorder))

theorem Judges.aboutOrder
    {result : Except TraceError (Trace WindowManagerEntry)}
    (judges : Judges entries .unordered result) : AboutOrder result := by
  cases result with
  | ok trace => exact .accepted trace
  | error cause =>
      obtain ⟨disorder, _, rfl⟩ := (judges.refused_iff cause).1 rfl
      exact .refused disorder

theorem aboutOrder_parse_iff :
    AboutOrder (parse format label bytes).result ↔
      ∃ entries, decode format bytes = .ok entries := by
  constructor
  · intro aboutOrder
    cases decoded : decode format bytes with
    | ok entries => exact ⟨entries, rfl⟩
    | error cause =>
        simp only [parse, decoded] at aboutOrder
        cases aboutOrder
  · rintro ⟨entries, decoded⟩
    exact (judges_parse decoded).aboutOrder

theorem exists_file_of_aboutOrder
    (aboutOrder : AboutOrder (load files limits path expected).result) :
    ∃ bytes, files.find path = .ok (.file bytes) := by
  unfold load at aboutOrder
  split at aboutOrder
  · cases aboutOrder
  · next entry found =>
      cases entry with
      | file bytes => exact ⟨bytes, found⟩
      | directory size =>
          split at aboutOrder <;> cases aboutOrder

theorem aboutOrder_load_iff :
    AboutOrder (load files limits path expected).result ↔
      ∃ bytes entries, DecodesFile files limits path expected bytes entries := by
  constructor
  · intro aboutOrder
    obtain ⟨bytes, found⟩ := exists_file_of_aboutOrder aboutOrder
    cases loadStage limits expected bytes with
    | size exceeds =>
        rw [load_of_exceeds found exceeds] at aboutOrder
        cases aboutOrder
    | checksum fits given asked differs =>
        rw [asked, load_of_differs found fits differs] at aboutOrder
        cases aboutOrder
    | contents fits accepts =>
        cases decoded : decode (.ofPath path) bytes with
        | ok entries => exact ⟨bytes, entries, found, fits, accepts, decoded⟩
        | error cause =>
            rw [load_of_accepts found fits accepts] at aboutOrder
            simp only [parse, decoded, Except.map] at aboutOrder
            cases aboutOrder
  · rintro ⟨bytes, entries, decodes⟩
    exact (judges_load decodes).aboutOrder

/--
Every trace is in the order of time, for any two of its entries.  Entries become
a trace, which holds just them, exactly if they are in this order, and otherwise
they are refused for their first disorder.  The entries before it would become a
trace, and none that go on from it do.  Contents and files of contents are
judged so by the entries that they decode to, and a trace or an error about the
order comes from nothing else.
-/
theorem chronology :
    (∀ {Entry : Type u} [Snapshot Entry],
      (∀ trace : Trace Entry,
        trace.entries.Pairwise fun earlier later =>
          Snapshot.timestamp earlier ≤ Snapshot.timestamp later) ∧
      ∀ entries : List Entry,
        Judges entries id (ofEntries entries) ∧
        ∀ disorder, ofEntries entries = .error disorder →
          (∃ trace, ofEntries (entries.take disorder.index) = .ok trace) ∧
          ∀ more, ofEntries (entries.take (disorder.index + 1) ++ more) = .error disorder) ∧
    (∀ format label bytes,
      (AboutOrder (parse format label bytes).result ↔
        ∃ entries, decode format bytes = .ok entries) ∧
      ∀ entries, decode format bytes = .ok entries →
        Judges entries .unordered (parse format label bytes).result) ∧
    ∀ files limits path expected,
      (AboutOrder (load files limits path expected).result ↔
        ∃ bytes entries, DecodesFile files limits path expected bytes entries) ∧
      ∀ bytes entries, DecodesFile files limits path expected bytes entries →
        Judges entries .unordered (load files limits path expected).result := by
  refine ⟨?_, ?_, ?_⟩
  · intro Entry _
    refine ⟨fun trace => trace.inOrder.pairwise, fun entries => ⟨judges_ofEntries entries, ?_⟩⟩
    intro disorder refused
    obtain ⟨_, isFirst, rfl⟩ := ((judges_ofEntries entries).refused_iff disorder).1 refused
    exact
      ⟨⟨_, ofEntries_of_inOrder isFirst.inOrder_take⟩,
        fun more => ofEntries_of_isFirst (isFirst.extend more)⟩
  · intro format label bytes
    exact ⟨aboutOrder_parse_iff, fun entries => judges_parse⟩
  · intro files limits path expected
    exact ⟨aboutOrder_load_iff, fun bytes entries => judges_load⟩

/-- Entries of which the second and the third are at the same time, and the fourth is earlier. -/
def scrambled : List WindowManagerEntry :=
  [⟨1, []⟩, ⟨4, []⟩, ⟨4, []⟩, ⟨2, []⟩, ⟨3, []⟩]

/-- A document of these entries. -/
def scrambledBytes : List UInt8 :=
  Text.Utf8.encode
    ("\x7b\"entries\":[\x7b\"timestamp\":1\x7d,\x7b\"timestamp\":4\x7d,\x7b\"timestamp\":4\x7d," ++
      "\x7b\"timestamp\":2\x7d,\x7b\"timestamp\":3\x7d]\x7d")

def scrambledFiles : Files :=
  { directory := "/"
    find := fun path =>
      if path = "trace.json" then .ok (.file scrambledBytes) else .error .notFound }

theorem scrambled_refused :
    ofEntries scrambled = .error ⟨3, 4, 2⟩ ∧
      (∃ trace, ofEntries (scrambled.take 3) = .ok trace) ∧
      ofEntries (scrambled.take 4 ++ [⟨9, []⟩]) = .error ⟨3, 4, 2⟩ ∧
      decode .json scrambledBytes = .ok scrambled ∧
      (parse .json "entries" scrambledBytes).result = .error (.unordered ⟨3, 4, 2⟩) ∧
      DecodesFile scrambledFiles {} "trace.json" none scrambledBytes scrambled ∧
      (load scrambledFiles {} "trace.json" none).result = .error (.unordered ⟨3, 4, 2⟩) := by
  obtain ⟨traces, parses, loads⟩ := chronology
  have refused : ofEntries scrambled = .error ⟨3, 4, 2⟩ := rfl
  have decoded : decode .json scrambledBytes = .ok scrambled := by decide +kernel
  have fits : scrambledBytes.length ≤ ({} : Limits).maxTraceSize := by decide +kernel
  have decodes : DecodesFile scrambledFiles {} "trace.json" none scrambledBytes scrambled :=
    ⟨rfl, fits, by simp [Accepts], decoded⟩
  obtain ⟨judged, refusedAlike⟩ := traces.2 scrambled
  obtain ⟨accepted, continued⟩ := refusedAlike _ refused
  obtain ⟨_, isFirst, rfl⟩ := (judged.refused_iff _).1 refused
  exact
    ⟨refused, accepted, continued _, decoded,
      (((parses .json "entries" scrambledBytes).2 scrambled decoded).refused_iff _).2
        ⟨_, isFirst, rfl⟩,
      decodes,
      (((loads scrambledFiles {} "trace.json" none).2 _ scrambled decodes).refused_iff _).2
        ⟨_, isFirst, rfl⟩⟩

end Trace

end PhaseAssertions
