import Listings.Filter.Predicate
import Listings.Filter.ResolveError
import Listings.SortOrder

/-!
# Entities

Everything that is known about one kind of listed thing: its fields, the comparisons they allow, its
functions, the tables that link it to sets of members, and its natural order.
-/

namespace Listings

/-- A function of an entity. -/
inductive Function where
  /-- The row is linked to one of the members that the arguments name. -/
  | inTable (association : String) (id : ColumnPath)
  /-- The field has one of the values given as arguments. -/
  | inColumn (field : String)
  /-- The entity understands the arguments itself. -/
  | own (resolve : List Expr → Except ResolveError Predicate)

/-- A kind of listed thing. -/
structure Entity where
  /-- The natural order. -/
  defaultSort : SortKey
  /-- The column of a field. -/
  column? : String → Option Column
  /-- The comparators that a column allows. -/
  operators : Column → List Comparator := fun column => Comparator.ofKind column.kind
  /-- The stored id of a member of an association, by its display name. -/
  id? : (association name : String) → Option String := fun _ _ => none
  /-- The table behind an association. -/
  association? : String → Option Association := fun _ => none
  /-- The functions by name. -/
  function? : String → Option Function := fun _ => none

end Listings
