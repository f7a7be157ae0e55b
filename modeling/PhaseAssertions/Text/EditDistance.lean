/-!
# Edit distance

The least number of edits that lead from one text to another, where an edit
inserts a character, deletes one, replaces one by another or exchanges two
neighbours, and where exchanged neighbours may be edited further.

The distances are computed row by row.  The row of a beginning of the source
holds its distances to all beginnings of the target.  An exchange reaches back
to the last place in the source that has the current character of the target,
so for each character of the source the row before its last place is kept.
-/

namespace PhaseAssertions.Text

namespace EditDistance

/-- The last place of a character in the source read so far. -/
structure Occurrence where
  character : Char
  /-- The number of characters before its last place. -/
  position : Nat
  /-- The row of the beginning that ends before that place. -/
  row : List Nat

/-- The table after a beginning of the source was read. -/
structure Table where
  /-- The length of that beginning. -/
  length : Nat
  /-- The distances of that beginning to all beginnings of the target. -/
  row : List Nat
  /-- The last places of the characters read so far. -/
  occurrences : List Occurrence

def Table.start (target : List Char) : Table :=
  { length := 0, row := List.range (target.length + 1), occurrences := [] }

/--
The number of edits when the current characters of source and target are
exchanged with one another over what stands between them.  `matching` is the
number of target characters before the last one that equals the current source
character.
-/
def exchangeCost? (table : Table) (column : Nat) (character : Char)
    (matching : Option Nat) : Option Nat := do
  let occurrence ← table.occurrences.find? (·.character = character)
  let before ← matching
  let cost ← occurrence.row[before]?
  return cost + (table.length - occurrence.position - 1) + 1 + (column - before - 1)

/--
The distances of the beginning that ends with `source` to the beginnings of
the target that are longer than `column`.  `above` is the part of the previous
row from `column` on and `left` the distance to the beginning of length
`column`.
-/
def cells (table : Table) (source : Char) :
    (target : List Char) → (above : List Nat) → (left column : Nat) →
      (matching : Option Nat) → List Nat
  | character :: target, diagonal :: up :: above, left, column, matching =>
    let replaced := diagonal + (if source = character then 0 else 1)
    let plain := min (min (left + 1) (up + 1)) replaced
    let distance :=
      match exchangeCost? table column character matching with
      | some exchanged => min plain exchanged
      | none => plain
    let matching := if source = character then some column else matching
    distance :: cells table source target (up :: above) distance (column + 1) matching
  | _, _, _, _, _ => []

/-- The table after one more character of the source. -/
def Table.push (target : List Char) (table : Table) (source : Char) : Table :=
  { length := table.length + 1
    row :=
      (table.length + 1) ::
        cells table source target table.row (table.length + 1) 0 none
    occurrences :=
      { character := source, position := table.length, row := table.row } ::
        table.occurrences.filter (·.character ≠ source) }

def table (source target : List Char) : Table :=
  source.foldl (Table.push target) (Table.start target)

end EditDistance

/-- The least number of edits that lead from one text to the other. -/
def editDistance (source target : String) : Nat :=
  (EditDistance.table source.toList target.toList).row.getLast?.getD 0

end PhaseAssertions.Text
