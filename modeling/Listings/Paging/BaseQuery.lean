import Listings.Paging.Page
import Listings.Sql.Select

/-!
# Base queries

What a listing selects and from where, before the filter, the order and the page of a request are
known.

* `BaseQuery.columns`, `leftJoin`, `restrict`: the steps that build one.
* `statements`: the statement that counts the rows of a request and the one that gives a page of them.
  Both have the same tables and the same condition.
-/

namespace Listings

open Sql (Dialect Statement)

/-- One of the terms that all have to hold of a joined row. -/
inductive JoinTerm where
  | columns (left right : ColumnPath)
  | value (column : ColumnPath) (v : Value)
deriving DecidableEq

/-- The test of a term. -/
def JoinTerm.test : JoinTerm → Sql.Test
  | columns left right => .sameColumns left right
  | value column v => .compare column .equal v

/-- A table joined to a base query. -/
structure BaseJoin where
  table : ColumnPath
  on : List JoinTerm
deriving DecidableEq

/-- The join in a statement. -/
def BaseJoin.leftJoin (join : BaseJoin) : Sql.LeftJoin :=
  ⟨join.table, Sql.Condition.all? (join.on.map JoinTerm.test)⟩

/-- What a listing selects and from where. -/
structure BaseQuery where
  table : ColumnPath
  /-- The selected columns; all of them when none is named. -/
  selected : List ColumnPath := []
  joins : List BaseJoin := []
  /-- What every listed row satisfies, whatever the request says. -/
  restriction : Option Predicate := none
deriving DecidableEq

/-- A condition that may be missing, and another one. -/
def conjoin : Option Predicate → Option Predicate → Option Predicate
  | some a, some b => some (.and a b)
  | some a, none => some a
  | none, other => other

namespace BaseQuery

/-- Selects further columns. -/
def columns (base : BaseQuery) (paths : List ColumnPath) : BaseQuery :=
  { base with selected := base.selected ++ paths }

/-- Joins a table. -/
def leftJoin (base : BaseQuery) (table : ColumnPath) (on : List JoinTerm) : BaseQuery :=
  { base with joins := base.joins ++ [⟨table, on⟩] }

/-- Adds a condition that every listed row satisfies. -/
def restrict (base : BaseQuery) (p : Predicate) : BaseQuery :=
  { base with restriction := conjoin base.restriction (some p) }

/-- The select statement that gives `projection` of the rows that satisfy the restriction and the
filter. -/
def select (base : BaseQuery) (filter : Option Predicate) (projection : Sql.Projection) :
    Sql.Select where
  projection
  source := base.table
  joins := base.joins.map BaseJoin.leftJoin
  condition := (conjoin base.restriction filter).map Predicate.condition

/-- What the statement for a page gives of each row. -/
def projection (base : BaseQuery) : Sql.Projection :=
  if base.selected.isEmpty then .everything else .columns base.selected

end BaseQuery

/-- The part of the rows that a page holds: everything when its size is not positive. -/
def PageRequest.window? (request : PageRequest) : Option Sql.Window :=
  if 0 < request.perPage then some ⟨request.perPage, request.offset⟩ else none

/-- The two statements of a request. -/
structure Statements where
  count : Statement
  page : Statement
deriving DecidableEq

/-- The two statements of a request. -/
def statements (base : BaseQuery) (filter : Option Predicate) (order : SortOrder)
    (request : PageRequest) (dialect : Dialect) : Statements where
  count := ⟨base.select filter .count, dialect⟩
  page :=
    ⟨{ base.select filter base.projection with order, window := request.window? }, dialect⟩

end Listings
