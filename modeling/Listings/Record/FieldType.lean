import Listings.FieldTable
import Listings.Record.Basic

/-!
# Types of fields

The type of a record's field says what its column holds, and whether it may be null.

* `readType`: the kind of a type, and whether values may be missing.
* `Lookup.column?`: the column of a name.
-/

namespace Listings.Record

/-- The types of single values. -/
def baseTypes : List (String × Kind) :=
  [("String", .string), ("&str", .string), ("NaiveDate", .date), ("bool", .number)]
    ++ ["i8", "u8", "i16", "u16", "i32", "u32", "i64", "u64", "f32", "f64"].map (·, .number)

/-- The kind of a type inside `depth` types for values that may be missing, which are closed at its
end. -/
def readTypeFrom : Nat → List Char → Option (Kind × Bool)
  | depth, 'O' :: 'p' :: 't' :: 'i' :: 'o' :: 'n' :: '<' :: rest => readTypeFrom (depth + 1) rest
  | depth, text =>
    (baseTypes.find? fun (name, _) => name.toList ++ List.replicate depth '>' == text).map
      fun (_, kind) => (kind, 0 < depth)

/-- The kind of a type, and whether values may be missing; nothing for other types. -/
def readType (type : String) : Option (Kind × Bool) := readTypeFrom 0 type.toList

/-- The column of an exposed field. `types` says of each type of which kind its values are, and whether
they may be missing. -/
def Field.column (types : String → Kind × Bool) (field : Field) : Column :=
  ⟨(types field.type).1, ⟨field.path⟩, (types field.type).2⟩

/-- The fields of a look-up by name, as they are tried. -/
def Lookup.table (types : String → Kind × Bool) (lookup : Lookup) : FieldTable :=
  lookup.fields.map fun field => (field.name, field.column types)

/-- The column of a name: the first field with the name counts. -/
def Lookup.column? (types : String → Kind × Bool) (lookup : Lookup) (name : String) : Option Column :=
  (lookup.table types).find? name

end Listings.Record
