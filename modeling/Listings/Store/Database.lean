import Listings.Sql.Select
import Listings.Store.Comparison

/-!
# Databases

Tables with named columns and rows of values, and what the columns of a statement stand for there.

* `Scope.value`: the value that a column path has where some rows stand side by side.
* `Condition.truth`: the truth of a condition there.
* `Database.rows`: the rows that a select statement chooses, in order.
* `Database.answer`: what it gives of them.
-/

namespace Listings.Store

open Sql

/-- Names are the same when they differ at most in the case of ASCII letters. -/
def sameName (a b : String) : Bool := a.toList.map Char.toLower == b.toList.map Char.toLower

/-- A table: the names of its columns, and rows with a value for each. -/
structure Table where
  name : String
  columns : List String
  rows : List (List Value)
deriving DecidableEq

/-- Some tables. -/
structure Database where
  tables : List Table
deriving DecidableEq

/-- A row of a table. -/
structure Row where
  table : String
  cells : List (String × Value)
deriving DecidableEq

namespace Table

/-- The rows of a table. -/
def toRows (t : Table) : List Row := t.rows.map fun values => ⟨t.name, t.columns.zip values⟩

/-- The row that stands beside a row without a match. -/
def nullRow (t : Table) : Row := ⟨t.name, t.columns.map (·, .null)⟩

end Table

namespace Database

/-- The table with a name. -/
def table? (db : Database) (name : String) : Option Table :=
  db.tables.find? (sameName ·.name name)

/-- The rows of a table; an unknown table has none. -/
def rowsOf (db : Database) (path : ColumnPath) : List Row :=
  ((db.table? path.text).map Table.toRows).getD []

/-- The row that stands beside a row without a match in a table. -/
def nullRowOf (db : Database) (path : ColumnPath) : Row :=
  ((db.table? path.text).map Table.nullRow).getD ⟨path.text, []⟩

end Database

/-! ## Column paths -/

/-- Rows of joined tables side by side. -/
abbrev Frame := List Row

/-- The frames that a condition can see, that of the innermost select first. -/
abbrev Scope := List Frame

/-- The cell of a column. -/
def Row.cell? (row : Row) (column : String) : Option (String × Value) :=
  row.cells.find? (sameName ·.1 column)

/-- The cells that a path may stand for in a frame. -/
def Frame.cells (frame : Frame) (path : ColumnPath) : List (String × Value) :=
  match path.parts with
  | (some table, column) => (frame.filter (sameName ·.table table)).filterMap (·.cell? column)
  | (none, column) => frame.filterMap (·.cell? column)

/-- The cells that a path may stand for: those of the innermost frame that has any. -/
def Scope.cells : Scope → ColumnPath → List (String × Value)
  | [], _ => []
  | frame :: outer, path =>
    match frame.cells path with
    | [] => Scope.cells outer path
    | found => found

/-- A name in double quotes that is no column stands for its own text. -/
def unfound (path : ColumnPath) : String × Value :=
  match path.parts with
  | (some _, column) => (column, .null)
  | (none, column) => (String.ofList (Token.quoteName column), .text column)

/-- The cell that a path stands for. -/
def Scope.cell (scope : Scope) (path : ColumnPath) : String × Value :=
  ((scope.cells path).head?).getD (unfound path)

/-- The value that a path stands for. -/
def Scope.value (scope : Scope) (path : ColumnPath) : Value := (scope.cell path).2

/-! ## Conditions -/

/-- The truth of a test. -/
def testTruth (db : Database) (scope : Scope) : Test → Truth
  | .compare path op value => holds op (scope.value path) value
  | .sameColumns left right => holds .equal (scope.value left) (scope.value right)
  | .sameValues left right => holds .equal left right
  | .isNull path negated => (isNull (scope.value path)).negateIf negated
  | .inValues path values negated => (isOneOf (scope.value path) values).negateIf negated
  | .inRows path projection table where_ negated =>
    let members := (db.rowsOf table).filter fun row => testTruth db ([row] :: scope) where_ = .yes
    let values := members.map fun row => Scope.value ([row] :: scope) projection
    (isOneOf (scope.value path) values).negateIf negated

/-- The truth of a condition. -/
def truth (db : Database) (scope : Scope) : Condition → Truth
  | .test t => testTruth db scope t
  | .not inner => (truth db scope inner).not
  | .and left right => (truth db scope left).and (truth db scope right)
  | .or left right => (truth db scope left).or (truth db scope right)

/-- Whether a condition that may be missing is true. -/
def satisfies (db : Database) (condition : Option Condition) (frame : Frame) : Bool :=
  match condition with
  | none => true
  | some c => truth db [frame] c = .yes

/-! ## Select statements -/

/-- The frames with the matching rows of a joined table at their end, or with nulls where no row
matches. -/
def joinRows (db : Database) (frames : List Frame) (join : LeftJoin) : List Frame :=
  frames.flatMap fun frame =>
    let matching := (db.rowsOf join.table).filter fun row => satisfies db join.on (frame ++ [row])
    if matching.isEmpty then [frame ++ [db.nullRowOf join.table]]
    else matching.map fun row => frame ++ [row]

/-- The order of two values under a key: nulls come last in both directions. -/
def orderUnder (direction : Direction) (a b : Value) : Ordering :=
  match a, b with
  | .null, .null => .eq
  | .null, _ => .gt
  | _, .null => .lt
  | a, b =>
    match direction with
    | .ascending => order a b
    | .descending => order b a

/-- The order of two frames under keys, the first one weighing most. -/
def orderFrames (keys : List SortKey) (a b : Frame) : Ordering :=
  keys.foldr
    (fun key rest =>
      (orderUnder key.direction (Scope.value [a] key.column) (Scope.value [b] key.column)).then rest)
    .eq

/-- The frames in order. Those that no key tells apart stay in the order of their tables, and so do all
of them when any order will do. -/
def sortFrames (order : SortOrder) (frames : List Frame) : List Frame :=
  match order with
  | .random => frames
  | .byKeys keys => frames.mergeSort fun a b => orderFrames keys a b != .gt

/-- The part of a list that a window shows. -/
def Window.apply {α : Type} (window : Option Window) (items : List α) : List α :=
  match window with
  | none => items
  | some w => (items.drop w.offset.toNatClampNeg).take w.limit.toNatClampNeg

/-- A row of an answer: the names of the columns and their values. -/
abbrev Record := List (String × Value)

/-- What a projection gives of a frame. -/
def project (projection : Projection) (frame : Frame) : Record :=
  match projection with
  | .count => []
  | .everything => frame.flatMap Row.cells
  | .columns paths => paths.map (Scope.cell [frame])

namespace Database

/-- The joined rows that satisfy the condition of a select statement. -/
def matching (db : Database) (s : Select) : List Frame :=
  (s.joins.foldl (joinRows db) ((db.rowsOf s.source).map ([·]))).filter (satisfies db s.condition)

/-- The rows that a select statement chooses, in order. -/
def rows (db : Database) (s : Select) : List Frame :=
  Window.apply s.window (sortFrames s.order (db.matching s))

/-- What a select statement gives. -/
def answer (db : Database) (s : Select) : List Record := (db.rows s).map (project s.projection)

/-- The number of rows that satisfy the condition of a select statement. -/
def count (db : Database) (s : Select) : Int64 := .ofNat (db.matching s).length

end Database

end Listings.Store
