import Listings.Column

/-!
# Operators

The binary operators of a filter: two that join conditions and seven that compare a field with a
value.

* `Comparator.ofKind`: the comparisons that a kind of column allows unless its entity says otherwise.
-/

namespace Listings

/-- An operator that compares a field with a value. -/
inductive Comparator where
  | equal
  | notEqual
  /-- Agreement with a pattern. -/
  | like
  | greater
  | greaterEqual
  | less
  | lessEqual
deriving DecidableEq

namespace Comparator

/-- The comparator as it stands in a filter. -/
def symbol : Comparator → String
  | .equal => "=="
  | .notEqual => "!="
  | .like => "%"
  | .greater => ">"
  | .greaterEqual => ">="
  | .less => "<"
  | .lessEqual => "<="

/-- Texts are compared for equality and with patterns, numbers and dates for equality and order. -/
def ofKind : Kind → List Comparator
  | .string => [equal, notEqual, like]
  | .number | .date => [equal, notEqual, greater, greaterEqual, less, lessEqual]

end Comparator

/-- A binary operator of a filter. -/
inductive Operator where
  | or
  | and
  | compare (c : Comparator)
deriving DecidableEq

namespace Operator

/-- The operator as it stands in a filter. -/
def symbol : Operator → String
  | .or => "||"
  | .and => "&&"
  | .compare c => c.symbol

/-- Whether the operator joins two conditions. -/
def isLogical : Operator → Bool
  | .or | .and => true
  | .compare _ => false

/-- The comparator of an operator that compares. -/
def comparator? : Operator → Option Comparator
  | .compare c => some c
  | _ => none

/-- All operators. -/
def all : List Operator :=
  [.or, .and, .compare .equal, .compare .notEqual, .compare .like, .compare .less,
    .compare .lessEqual, .compare .greater, .compare .greaterEqual]

end Operator

end Listings
