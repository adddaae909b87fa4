import Listings.Binary64.Written
import Listings.Filter.Operator
import Listings.Text.Quoted

/-!
# Filter expressions

What a filter says before it is known which entity it is about: names are just words, and a literal
is not yet compared with any column.

* `Expr.describe`: how an expression is called in a message.
-/

namespace Listings

/-- A number in a filter: whole when it is written without a point. -/
inductive Number where
  | integer (n : Int64)
  | real (x : Binary64)
deriving DecidableEq

/-- A constant in a filter. -/
inductive Literal where
  | text (s : String)
  | number (n : Number)
  | null
deriving DecidableEq

/-- An expression of a filter. -/
inductive Expr where
  | binary (op : Operator) (left right : Expr)
  | not (inner : Expr)
  | call (function : String) (args : List Expr)
  | name (word : String)
  | literal (value : Literal)

/-- A number as it is shown; a number with a point keeps it. -/
def Number.write : Number → String
  | .integer n => toString n.toInt
  | .real x => Binary64.literal.write x

/-- A constant as it is shown. -/
def Literal.write : Literal → String
  | .text s => Text.quote s
  | .number n => n.write
  | .null => "null"

/-- How an expression is called in a message. -/
def Expr.describe : Expr → String
  | .binary op _ _ => "'" ++ op.symbol ++ "' expression"
  | .not _ => "negation"
  | .call function _ => "call to '" ++ function ++ "'"
  | .name word => "identifier '" ++ word ++ "'"
  | .literal value => "literal " ++ value.write

end Listings
