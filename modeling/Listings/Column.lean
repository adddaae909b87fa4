import Listings.Text.Split

/-!
# Columns

Where a field is stored and what it holds.

* `ColumnPath`: the name of a table or column, fixed by the program and never taken from a request.
* `ColumnPath.parts`: the table and the column that a path names.
* `ColumnPath.ofParts_parts`: a path is determined by them.
* `Column`: a path with the kind of value behind it and whether it may be null.
* `Association`: a table that links rows to the members of a set, such as tags.
-/

namespace Listings

/-- The name of a column or table: a table and a column divided by a dot, or a single name. -/
structure ColumnPath where
  text : String
deriving DecidableEq

/-- The table, if there is one, and the column: a path is divided at its first dot. -/
def ColumnPath.parts (path : ColumnPath) : Option String × String :=
  match Text.splitFirst '.' path.text.toList with
  | some (table, column) => (some (String.ofList table), String.ofList column)
  | none => (none, path.text)

/-- The path with the given parts. -/
def ColumnPath.ofParts : Option String × String → ColumnPath
  | (some table, column) => ⟨.ofList (table.toList ++ '.' :: column.toList)⟩
  | (none, column) => ⟨column⟩

theorem ColumnPath.ofParts_parts (path : ColumnPath) : ofParts path.parts = path := by
  unfold parts
  split
  · next found =>
    simp only [ofParts, String.toList_ofList]
    rw [← Text.eq_of_splitFirst found, String.ofList_toList]
  · rfl

/-- What a column holds. -/
inductive Kind where
  | string
  | number
  /-- A date stored as text: year, month and day with hyphens. -/
  | date
deriving DecidableEq

/-- The name of a kind. -/
def Kind.write : Kind → String
  | .string => "string"
  | .number => "number"
  | .date => "date"

/-- A stored field. -/
structure Column where
  kind : Kind
  path : ColumnPath
  nullable : Bool
deriving DecidableEq

namespace Column

/-- A column that is never null. -/
def required (kind : Kind) (path : String) : Column := ⟨kind, ⟨path⟩, false⟩

/-- A column that may be null. -/
def optional (kind : Kind) (path : String) : Column := ⟨kind, ⟨path⟩, true⟩

end Column

/-- A table of links: a row belongs to a member when its id stands in `row` beside the member's id
in `member`. -/
structure Association where
  table : ColumnPath
  row : ColumnPath
  member : ColumnPath
deriving DecidableEq

end Listings
