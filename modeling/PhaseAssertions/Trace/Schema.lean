import PhaseAssertions.Schema.Record
import PhaseAssertions.Window.Basic

/-!
# The schema of trace documents

A trace document is a record whose only field is the list of entries.  An
entry has a timestamp and a list of windows, a window has a title, a layer and
a visibility.  Lists that are left out are empty and windows are hidden unless
they say otherwise.  Entries and windows may have further fields; the document
itself may not.
-/

namespace PhaseAssertions.Trace.Schema

open PhaseAssertions.Schema

variable {Reading : Type → Type} [Monad Reading] {Value : Type}

/-- The fields of a window read so far. -/
structure WindowDraft where
  title : Option String := none
  kind : Option WindowKind := none
  visible : Option Bool := none

def WindowDraft.finish (draft : WindowDraft) : Except Fault WindowState := do
  let title ← required "title" draft.title
  let kind ← required "kind" draft.kind
  return { title, kind, visible := draft.visible.getD false }

def kindNames : List (String × WindowKind) :=
  WindowKind.all.map fun kind => (kind.name, kind)

def windowRecord (format : Format Reading Value) :
    Record Reading Value WindowDraft WindowState where
  name := "struct WindowState"
  fields :=
    [ { name := "title"
        required := true
        isFilled := fun draft => draft.title.isSome
        read := fun draft value => do
          return { draft with title := some (← format.text value) } },
      { name := "kind"
        required := true
        isFilled := fun draft => draft.kind.isSome
        read := fun draft value => do
          return { draft with kind := some (← format.choice kindNames value) } },
      { name := "visible"
        required := false
        isFilled := fun draft => draft.visible.isSome
        read := fun draft value => do
          return { draft with visible := some (← format.truth value) } } ]
  closed := false
  start := {}
  finish := WindowDraft.finish

/-- The fields of an entry read so far. -/
structure EntryDraft where
  timestamp : Option Int64 := none
  windows : Option (List WindowState) := none

def EntryDraft.finish (draft : EntryDraft) : Except Fault WindowManagerEntry := do
  let timestamp ← required "timestamp" draft.timestamp
  return { timestamp, windows := draft.windows.getD [] }

def entryRecord (format : Format Reading Value) :
    Record Reading Value EntryDraft WindowManagerEntry where
  name := "struct WindowManagerEntry"
  fields :=
    [ { name := "timestamp"
        required := true
        isFilled := fun draft => draft.timestamp.isSome
        read := fun draft value => do
          return { draft with timestamp := some (← format.integer value) } },
      { name := "windows"
        required := false
        isFilled := fun draft => draft.windows.isSome
        read := fun draft value => do
          let windows ← format.sequence (format.record (windowRecord format)) value
          return { draft with windows := some windows } } ]
  closed := false
  start := {}
  finish := EntryDraft.finish

/-- The entries of a document, if they were read already. -/
structure DocumentDraft where
  entries : Option (List WindowManagerEntry) := none

/-- The record of a trace document; its result are the entries. -/
def documentRecord (format : Format Reading Value) :
    Record Reading Value DocumentDraft (List WindowManagerEntry) where
  name := "struct TraceDocument"
  fields :=
    [ { name := "entries"
        required := false
        isFilled := fun draft => draft.entries.isSome
        read := fun _ value => do
          let entries ← format.sequence (format.record (entryRecord format)) value
          return { entries := some entries } } ]
  closed := true
  start := {}
  finish := fun draft => .ok (draft.entries.getD [])

/-- The entries of a trace document. -/
def entries (format : Format Reading Value) (value : Value) :
    Reading (List WindowManagerEntry) :=
  format.record (documentRecord format) value

end PhaseAssertions.Trace.Schema
