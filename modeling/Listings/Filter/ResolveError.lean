import Listings.Filter.Expr

/-!
# Why a filter does not fit an entity
-/

namespace Listings

/-- Why an expression is no condition on an entity. -/
inductive ResolveError where
  /-- The entity has no such field. -/
  | unknownName (name : String)
  /-- There is no such function. -/
  | unknownFunction (function : String)
  /-- A field that is never null is compared with null. -/
  | notNullable (field : String)
  /-- Null is compared by order or with a pattern. -/
  | nullComparison (field : String) (op : Comparator)
  /-- The field does not allow the comparator. -/
  | operatorNotAllowed (field : String) (op : Comparator) (kind : Kind)
  /-- The expression is no constant of the field's kind. -/
  | typeMismatch (field : String) (expected : Kind) (found : Expr)
  /-- The text is no date. -/
  | invalidDate (field : String) (value : String)
  /-- The function is called without arguments. -/
  | missingArguments (function : String)
  /-- An argument has to be a text. -/
  | notText (function : String) (found : Expr)
  /-- The text names no member of the association. -/
  | noMember (function : String) (display : String) (association : String)
  /-- The entity has no ids or no table for the association. -/
  | unsupportedAssociation (association : String)
  /-- A field name has to stand here. -/
  | notAField (found : Expr)
  /-- A condition has to stand here. -/
  | notACondition (found : Expr)
  /-- The entity's own reason. -/
  | own (message : String)

/-- The reason in words. -/
def ResolveError.message : ResolveError → String
  | unknownName name => "unknown name '" ++ name ++ "'"
  | unknownFunction function => "unknown function '" ++ function ++ "'"
  | notNullable field => "'" ++ field ++ "' is not nullable"
  | nullComparison field op =>
    "'" ++ field ++ "' can only be compared with null using '==' or '!=', not '" ++ op.symbol ++ "'"
  | operatorNotAllowed field op kind =>
    "operator '" ++ op.symbol ++ "' cannot be used with " ++ kind.write ++ " field '" ++ field ++ "'"
  | typeMismatch field expected found =>
    "'" ++ field ++ "' is a " ++ expected.write ++ " field, found " ++ found.describe
  | invalidDate field value =>
    "'" ++ value ++ "' is not a date of the form YYYY-MM-DD, for field '" ++ field ++ "'"
  | missingArguments function => "'" ++ function ++ "' requires at least one argument"
  | notText function found =>
    "invalid argument to '" ++ function ++ "': expected a string, found " ++ found.describe
  | noMember function display association =>
    "invalid argument to '" ++ function ++ "': " ++ Text.quote display ++ " does not name any "
      ++ association
  | unsupportedAssociation association => "association '" ++ association ++ "' is not supported"
  | notAField found => "expected a field name, found " ++ found.describe
  | notACondition found => "expected a condition, found " ++ found.describe
  | own message => message

end Listings
