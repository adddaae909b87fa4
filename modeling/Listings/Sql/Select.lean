import Listings.SortOrder
import Listings.Sql.Condition

/-!
# Select statements

* `Select.tokens`: the tokens of a select statement, clause by clause.
* `Statement`: a select statement for a dialect, with its text and its bound values.
-/

namespace Listings.Sql

/-- What a select statement gives of each row. -/
inductive Projection where
  /-- The number of rows instead of the rows. -/
  | count
  /-- All columns of all tables. -/
  | everything
  | columns (paths : List ColumnPath)
deriving DecidableEq

/-- A table whose matching rows are put beside each row, or nulls if there are none. -/
structure LeftJoin where
  table : ColumnPath
  /-- Which rows match; nothing stands for all rows. -/
  on : Option Condition
deriving DecidableEq

/-- The part of the rows that is wanted. -/
structure Window where
  limit : Int64
  offset : Int64
deriving DecidableEq

/-- A select statement. -/
structure Select where
  projection : Projection
  source : ColumnPath
  joins : List LeftJoin := []
  condition : Option Condition := none
  order : SortOrder := .byKeys []
  window : Option Window := none
deriving DecidableEq

/-- The tokens of a projection. -/
def Projection.tokens : Projection → List Token
  | count => .function "COUNT" :: parenthesized [.word "*"]
  | everything => [.word "*"]
  | columns paths => separated .comma (paths.map columnTokens)

/-- The tokens of a join. -/
def LeftJoin.tokens (join : LeftJoin) : List Token :=
  .word "LEFT" :: .word "JOIN" :: tableTokens join.table ++ .word "ON"
    :: (match join.on with
        | none => [.word "TRUE"]
        | some c => c.tokens)

/-- The tokens of a sort key. Nulls come last in both directions. -/
def keyTokens (key : SortKey) : List Token :=
  columnTokens key.column ++
    [.word (match key.direction with
      | .ascending => "ASC"
      | .descending => "DESC"), .word "NULLS", .word "LAST"]

/-- The words before an order. -/
def orderWords : List Token := [.word "ORDER", .word "BY"]

/-- The tokens of an order; without keys there is no clause. -/
def orderTokens : SortOrder → List Token
  | .random => orderWords ++ .function "RANDOM" :: parenthesized [] ++ [.word "ASC"]
  | .byKeys [] => []
  | .byKeys keys => orderWords ++ separated .comma (keys.map keyTokens)

/-- The tokens of a window. -/
def Window.tokens (w : Window) : List Token :=
  [.word "LIMIT", .param (.integer w.limit), .word "OFFSET", .param (.integer w.offset)]

namespace Select

/-- The tokens of the tables and the condition. -/
def bodyTokens (s : Select) : List Token :=
  .word "FROM" :: tableTokens s.source ++ s.joins.flatMap LeftJoin.tokens
    ++ (match s.condition with
        | none => []
        | some c => .word "WHERE" :: c.tokens)

/-- The tokens of a select statement. -/
def tokens (s : Select) : List Token :=
  .word "SELECT" :: s.projection.tokens ++ s.bodyTokens ++ orderTokens s.order
    ++ (match s.window with
        | none => []
        | some w => w.tokens)

end Select

/-- A select statement for a dialect. -/
structure Statement where
  select : Select
  dialect : Dialect
deriving DecidableEq

namespace Statement

/-- The text of a statement. -/
def text (s : Statement) : String := String.ofList (render s.dialect s.select.tokens)

/-- The values bound to its placeholders. -/
def params (s : Statement) : List Value := Sql.params s.select.tokens

end Statement

end Listings.Sql
