import PhaseAssertions.Path
import PhaseAssertions.Timestamp

/-!
# Traces

A trace is a list of snapshots whose timestamps never decrease; equal
timestamps are allowed and the order of the list then counts.  Only
neighbours are compared when a trace is built, which is enough because the
order of timestamps is transitive.  A trace may remember where it came from.
-/

namespace PhaseAssertions

universe u

/-- Where a trace came from. -/
structure Provenance where
  /-- The path of the file that it was read from, as it was given. -/
  source : String
  /-- The directory from which that path is taken if it is relative. -/
  directory : String
  /-- The checksum of that file in hexadecimal digits, if it is known. -/
  checksum : Option String := none
deriving DecidableEq

def Provenance.absoluteSource (provenance : Provenance) : String :=
  Path.absolute provenance.directory provenance.source

/-- Two neighbours in a list of snapshots whose timestamps decrease. -/
structure Disorder where
  /-- The position of the later of the two. -/
  index : Nat
  previous : Int64
  timestamp : Int64
deriving DecidableEq

def Disorder.message (disorder : Disorder) : String :=
  "entry " ++ toString disorder.index ++
    " has timestamp " ++ toString disorder.timestamp.toInt ++
    ", earlier than the previous entry (" ++ toString disorder.previous.toInt ++ ")"

/-- Whether the timestamps of neighbours never decrease. -/
def InOrder {Entry : Type u} [Snapshot Entry] : List Entry → Prop
  | first :: second :: rest =>
    Snapshot.timestamp first ≤ Snapshot.timestamp second ∧ InOrder (second :: rest)
  | _ => True

/--
The first pair of neighbours whose timestamps decrease, in a list whose first
snapshot stands at `index`.
-/
def disorder? {Entry : Type u} [Snapshot Entry] (index : Nat) :
    List Entry → Option Disorder
  | first :: second :: rest =>
    let previous := Snapshot.timestamp first
    let timestamp := Snapshot.timestamp second
    if timestamp < previous then
      some { index := index + 1, previous, timestamp }
    else
      disorder? (index + 1) (second :: rest)
  | _ => none

/-- A list without a disorder is in order. -/
theorem inOrder_of_disorder?_eq_none {Entry : Type u} [Snapshot Entry]
    (entries : List Entry) :
    ∀ index, disorder? index entries = none → InOrder entries := by
  induction entries with
  | nil => intro _ _; trivial
  | cons first rest ih =>
    intro index found
    cases rest with
    | nil => trivial
    | cons second rest =>
      simp only [disorder?] at found
      split at found
      · contradiction
      · rename_i ordered
        exact ⟨Int64.not_lt.mp ordered, ih _ found⟩

/-- Snapshots in the order of their timestamps. -/
structure Trace (Entry : Type u) [Snapshot Entry] where
  entries : List Entry
  provenance : Option Provenance := none
  inOrder : InOrder entries

namespace Trace

variable {Entry : Type u} [Snapshot Entry]

/-- The trace of the given snapshots, or the first disorder among them. -/
def ofEntries (entries : List Entry) : Except Disorder (Trace Entry) :=
  match found : disorder? 0 entries with
  | some disorder => .error disorder
  | none =>
    .ok { entries, inOrder := inOrder_of_disorder?_eq_none entries 0 found }

def withProvenance (trace : Trace Entry) (provenance : Provenance) : Trace Entry :=
  { trace with provenance := some provenance }

/-- The trace in a few words: how many entries it has and which times it spans. -/
def text (trace : Trace Entry) : String :=
  match trace.entries with
  | [] => "Trace(empty)"
  | first :: rest =>
    let last := rest.getLast?.getD first
    "Trace(" ++ toString (rest.length + 1) ++ " entries, " ++
      toString (Snapshot.timestamp first).toInt ++ ".." ++
      toString (Snapshot.timestamp last).toInt ++ ")"

end Trace

end PhaseAssertions
