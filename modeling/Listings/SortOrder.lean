import Listings.Column

/-!
# Orders of rows

The order in which a listing gives its rows: by the keys of a list, the first one weighing most, or
at random.
-/

namespace Listings

/-- From the least value to the greatest, or the other way round. -/
inductive Direction where
  | ascending
  | descending
deriving DecidableEq

/-- A direction as it stands in a request. -/
def Direction.write : Direction → String
  | .ascending => "asc"
  | .descending => "desc"

/-- The direction that a word stands for. -/
def Direction.ofWord? (word : String) : Option Direction :=
  if word = "asc" then some .ascending
  else if word = "desc" then some .descending
  else none

theorem Direction.ofWord?_write (d : Direction) : ofWord? d.write = some d := by
  cases d <;> decide

theorem Direction.ofWord?_eq_some_iff {word : String} {d : Direction} :
    ofWord? word = some d ↔ word = d.write := by
  constructor
  · intro h
    unfold ofWord? at h
    split at h
    · next ascending =>
      cases h
      exact ascending
    · split at h
      · next descending =>
        cases h
        exact descending
      · cases h
  · rintro rfl
    exact d.ofWord?_write

/-- A column to order by. -/
structure SortKey where
  column : ColumnPath
  direction : Direction
deriving DecidableEq

/-- An order of rows. -/
inductive SortOrder where
  | random
  | byKeys (keys : List SortKey)
deriving DecidableEq

end Listings
