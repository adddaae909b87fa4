import Listings.Filter.Grammar
import Listings.Filter.Resolve
import Listings.SortRequest

/-!
# Requests

The filter and the sort of a request, read and understood in one step.

* `Entity.compileFilter`: the condition of a filter; a blank filter is no condition.
* `Entity.compileSort`: the order of a sort.
-/

namespace Listings

/-- Why a filter is refused. -/
inductive FilterError where
  | unreadable (e : Filter.SyntaxError)
  | unresolved (e : ResolveError)

/-- Why a request is refused. -/
inductive RequestError where
  | filter (e : FilterError)
  | sort (e : SortError)

/-- The reason in words. -/
def FilterError.message : FilterError → String
  | unreadable e => e.message
  | unresolved e => e.message

/-- The reason in words. -/
def RequestError.message : RequestError → String
  | filter e => "invalid filter: " ++ e.message
  | sort e => "invalid sort: " ++ e.message

namespace Entity

/-- The condition that a filter stands for. -/
def understand (entity : Entity) (filter : String) : Except FilterError Predicate := do
  let e ← (Expr.parse filter).mapError .unreadable
  (entity.resolve e).mapError .unresolved

/-- The condition of a filter, if it has one. -/
def compileFilter (entity : Entity) (filter : String) : Except RequestError (Option Predicate) :=
  if (Text.trim filter.toList).isEmpty then .ok none
  else (entity.understand filter).map some |>.mapError .filter

/-- The order of a sort. -/
def compileSort (entity : Entity) (sort : String) : Except RequestError SortOrder :=
  (do entity.resolveSort (← SortRequest.parse sort) : Except SortError SortOrder).mapError .sort

end Entity

end Listings
