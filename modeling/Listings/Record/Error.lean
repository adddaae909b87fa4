/-!
# Why a record has no field table
-/

namespace Listings.Record

/-- Why no field table can be made from a record. -/
inductive Error where
  /-- The attribute has no list of settings. -/
  | missingArguments
  /-- The attribute is given a value instead of a list of settings. -/
  | assignedArguments
  /-- Something else than a list of settings follows the name of the attribute. -/
  | noArguments
  /-- Something follows the list of settings. -/
  | afterArguments
  /-- A setting has to begin with a word. -/
  | expectedWord
  | unknownSetting
  | expectedEquals
  | expectedComma
  /-- The value of a setting has to be a text. -/
  | expectedText
  /-- The list ends where the value of a setting has to stand. -/
  | missingText
  /-- A table or column is given that is no path of words. -/
  | notAPath
  /-- A setting for fields is given for the record. -/
  | fieldSettingOnRecord
  /-- The setting for the record is given for a field. -/
  | tableOnField
  /-- The fields have no names. -/
  | noNamedFields
  /-- Neither the field nor the record says where the field is stored. -/
  | noColumn
  | duplicateName
deriving DecidableEq

/-- The reason in words. -/
def Error.message : Error → String
  | missingArguments => "expected attribute arguments in parentheses: #[query(...)]"
  | assignedArguments => "expected parentheses: #[query(...)]"
  | noArguments => "expected square brackets"
  | afterArguments => "unexpected token in attribute arguments"
  | expectedWord => "expected ident"
  | unknownSetting => "unsupported query attribute"
  | expectedEquals => "expected \x60=\x60"
  | expectedComma => "expected \x60,\x60"
  | expectedText => "expected string literal"
  | missingText => "unexpected end of input, expected string literal"
  | notAPath => "expected a dotted identifier such as \"media.title\""
  | fieldSettingOnRecord => "only \x60table\x60 can be given for a struct"
  | tableOnField => "\x60table\x60 can only be given for a struct"
  | noNamedFields => "Columns can only be derived for structs with named fields."
  | noColumn =>
    "no column for this field; add #[query(table = \"...\")] to the struct or "
      ++ "#[query(column = \"...\")] here"
  | duplicateName => "duplicate field name"

end Listings.Record
