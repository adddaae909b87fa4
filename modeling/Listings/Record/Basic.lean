import Listings.Record.Camel
import Listings.Record.Generics
import Listings.Record.Setting

/-!
# Field tables of records

The declaration of a record says which fields requests may name: each member of the record, under its
name in lower camel case or one of its own, in the column with the member's name in the record's table
or a column of its own.

* `Declaration.lookup`: the exposed fields in the order of their declaration, no two under one name, and
  the list of their names.
-/

namespace Listings.Record

/-- A member of a record as it is declared. -/
structure Member where
  name : String
  type : String
  attributes : List String

/-- A record as it is declared. -/
structure Declaration where
  name : String
  generics : String := ""
  attributes : List String := []
  /-- The members, if they have names. -/
  members : Option (List Member)

/-- An exposed field. -/
structure Field where
  name : String
  path : String
  /-- The type that says what the column holds. -/
  type : String
deriving DecidableEq

/-- A name without the mark that lets it be a word of the language. -/
def unmarked (name : String) : String :=
  match name.toList with
  | 'r' :: '#' :: rest => String.ofList rest
  | _ => name

/-- A type without its blanks. -/
def compactType (type : String) : String :=
  String.ofList (type.toList.filter (!Text.isBlank ·))

/-- Where a member is stored: in the column given for it, or under its name in the table of the
record. -/
def Settings.path (s : Settings) (table : Option String) (member : String) : Except Error String :=
  match s.column, table with
  | some path, _ => .ok path
  | none, some table => .ok (table ++ "." ++ member)
  | none, none => .error .noColumn

/-- The exposed field of a member, if it is exposed. -/
def Member.field (table : Option String) (m : Member) : Except Error (Option Field) := do
  let settings ← readAttributes Settings.fitField .tableOnField m.attributes
  if settings.excluded then return none
  let member := unmarked m.name
  let path ← settings.path table member
  return some ⟨settings.name.getD (camel member), path, compactType m.type⟩

/-- What is made of a record: the fields that are tried one after the other when a name is looked up,
and the list of the names. -/
structure Lookup where
  fields : List Field := []
  names : List String := []
deriving DecidableEq

namespace Lookup

/-- One more field. -/
def add (lookup : Lookup) (field : Field) : Lookup where
  fields := lookup.fields ++ [field]
  names := lookup.names ++ [field.name]

/-- The look-up with the exposed fields of more members, none under a name that is taken. -/
def extend (table : Option String) (taken : List String) (lookup : Lookup) :
    List Member → Except Error Lookup
  | [] => .ok lookup
  | m :: rest => do
    match ← m.field table with
    | none => lookup.extend table taken rest
    | some field =>
      if field.name ∈ taken then throw .duplicateName
      else (lookup.add field).extend table (field.name :: taken) rest

end Lookup

namespace Declaration

/-- The look-up of a record. -/
def lookup (d : Declaration) : Except Error Lookup := do
  let settings ← readAttributes Settings.fitRecord .fieldSettingOnRecord d.attributes
  match d.members with
  | none => throw .noNamedFields
  | some members => Lookup.extend settings.table [] {} members

/-- The exposed fields of a record. -/
def derive (d : Declaration) : Except Error (List Field) := Lookup.fields <$> d.lookup

/-- The type that a declaration declares. -/
def type (d : Declaration) : String := d.name ++ Generics.arguments d.generics

end Declaration

end Listings.Record
