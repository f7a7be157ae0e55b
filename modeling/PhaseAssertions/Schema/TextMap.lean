/-!
# Maps from texts to texts

A map keeps its keys in the order in which they were first given.  A key that
is given again keeps its place and takes the new value, so no key occurs twice.
-/

namespace PhaseAssertions

/-- A map from texts to texts in the order of its keys. -/
structure TextMap where
  pairs : List (String × String) := []
  distinct : (pairs.map Prod.fst).Nodup := by decide
deriving DecidableEq

namespace TextMap

def empty : TextMap :=
  {}

/-- A pair with another value, if it has the given key. -/
def replace (key value : String) (pair : String × String) : String × String :=
  if pair.1 = key then (key, value) else pair

theorem replace_fst (key value : String) (pair : String × String) :
    (replace key value pair).1 = pair.1 := by
  unfold replace
  split <;> simp_all

theorem map_fst_replace (key value : String) (pairs : List (String × String)) :
    (pairs.map (replace key value)).map Prod.fst = pairs.map Prod.fst := by
  simp [replace_fst]

def insert (map : TextMap) (key value : String) : TextMap :=
  if known : key ∈ map.pairs.map Prod.fst then
    { pairs := map.pairs.map (replace key value)
      distinct := by rw [map_fst_replace]; exact map.distinct }
  else
    { pairs := map.pairs ++ [(key, value)]
      distinct := by
        rw [List.map_append, List.nodup_append]
        refine ⟨map.distinct, by simp, ?_⟩
        intro other member last found same
        simp only [List.map_cons, List.map_nil, List.mem_singleton] at found
        exact known (found ▸ same ▸ member) }

/-- Whether two maps have the same pairs, in whatever order. -/
def agrees (map other : TextMap) : Bool :=
  map.pairs.length = other.pairs.length && map.pairs.all (other.pairs.contains ·)

end TextMap

end PhaseAssertions
