import Listings.Filter.Operator
import Listings.Value

/-!
# Predicates

A filter after it has been understood: a condition on the columns of a row, with every literal
checked.

* `Predicate.negate`: the opposite condition. The tests that have an opposite of their own take it;
  a negation is undone; anything else is wrapped.
-/

namespace Listings

/-- A condition on a row. -/
inductive Predicate where
  | and (left right : Predicate)
  | or (left right : Predicate)
  | not (inner : Predicate)
  /-- The column is null, or, when `negated`, it is not. -/
  | isNull (column : Column) (negated : Bool)
  | compare (op : Comparator) (column : Column) (value : Value)
  /-- The column has one of the values, or, when `negated`, none of them. -/
  | oneOf (column : Column) (values : List Value) (negated : Bool)
  /-- The id in the column is linked to one of the members, or, when `negated`, to none of them. -/
  | linked (association : Association) (id : ColumnPath) (members : List String) (negated : Bool)
deriving DecidableEq

namespace Predicate

/-- The opposite condition. -/
def negate : Predicate → Predicate
  | isNull column negated => isNull column !negated
  | oneOf column values negated => oneOf column values !negated
  | linked association id members negated => linked association id members !negated
  | not inner => inner
  | other => not other

end Predicate

end Listings
