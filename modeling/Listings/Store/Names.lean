import Listings.Store.Database
import Listings.Store.Limits
import Listings.Text.Bytes

/-!
# Names in statements

Before a statement is run, its size is compared with the limits and every name in it is looked up:
first the tables, then the columns of what is selected, of the condition, of the joins and of the order.

* `StoreError`: why a statement is not run, or its answer not read.
* `Database.check`: the first thing that is wrong with a statement.
-/

namespace Listings.Store

open Sql

/-- The type of a stored value. -/
inductive StorageType where
  | null
  | integer
  | real
  | text
deriving DecidableEq

/-- The type of a value. -/
def StorageType.ofValue : Value → StorageType
  | .null => null
  | .integer _ => integer
  | .real _ => real
  | .text _ => text

/-- The name of a type. -/
def StorageType.write : StorageType → String
  | null => "Null"
  | integer => "Integer"
  | real => "Real"
  | text => "Text"

/-- A place in the text of a statement: the text and a byte offset. -/
structure Place where
  text : String
  offset : Nat
deriving DecidableEq

/-- Why a statement gives no answer. -/
inductive StoreError where
  /-- The statement is nested too deeply to be read. -/
  | stackOverflow
  /-- The tree of the statement is too high. -/
  | tooHigh
  | noSuchTable (name : String)
  /-- The column does not exist. The place is not known for a column in a join. -/
  | noSuchColumn (path : ColumnPath) (place : Option Place)
  /-- Several tables have the column. -/
  | ambiguousColumn (path : ColumnPath) (place : Option Place)
  /-- A pattern is too long for a value to be matched with it. -/
  | patternTooComplex
  /-- A unit of work is begun inside another. -/
  | nestedTransaction
  /-- There is no unit of work to end. -/
  | noTransaction (word : String)
  /-- A value of the answer has another type than its reader wants. -/
  | wrongType (index : Nat) (column : String) (found : StorageType)
  /-- The answer has no such column. -/
  | noSuchIndex (index : Nat)
deriving DecidableEq

/-- A place in words. -/
def Place.describe : Option Place → String
  | none => ""
  | some place => " in " ++ place.text ++ " at offset " ++ toString place.offset

/-- The reason in words. -/
def StoreError.message : StoreError → String
  | stackOverflow => "parser stack overflow"
  | tooHigh =>
    "Expression tree is too large (maximum depth " ++ toString heightLimit ++ ")"
  | noSuchTable name => "no such table: " ++ name
  | noSuchColumn path place => "no such column: " ++ path.text ++ Place.describe place
  | ambiguousColumn path place => "ambiguous column name: " ++ path.text ++ Place.describe place
  | patternTooComplex => "LIKE or GLOB pattern too complex"
  | nestedTransaction => "cannot start a transaction within a transaction"
  | noTransaction word => "cannot " ++ word ++ " - no transaction is active"
  | wrongType index column found =>
    "Invalid column type " ++ found.write ++ " at index: " ++ toString index ++ ", name: " ++ column
  | noSuchIndex index => "Invalid column index: " ++ toString index

/-! ## Tables -/

/-- The tables of subselects in a test. -/
def testTables : Test → List ColumnPath
  | .inRows _ _ table where_ _ => table :: testTables where_
  | _ => []

/-- The tables of subselects in a condition. -/
def conditionTables : Condition → List ColumnPath
  | .test t => testTables t
  | .not inner => conditionTables inner
  | .and left right | .or left right => conditionTables left ++ conditionTables right

/-- The tables of a statement in the order in which they are looked up. -/
def tablesOf (s : Select) : List ColumnPath :=
  s.source :: s.joins.map LeftJoin.table ++ (s.condition.map conditionTables).getD []

/-! ## Columns -/

/-- A column that a statement names: the frames that it may come from, and the number of tokens before
it in the statement, if its place is known. -/
structure Reference where
  path : ColumnPath
  scope : Scope
  index : Option Nat

/-- The byte offset of a token in the text of a statement. -/
def offsetOf (statement : Statement) (index : Nat) : Nat :=
  let tokens := statement.select.tokens
  let upTo := Text.byteLength (render statement.dialect (tokens.take (index + 1)))
  upTo - ((tokens[index]?).map fun t => Text.byteLength (t.chars statement.dialect 0)).getD 0

/-- What is wrong with a column that a statement names. A single name that is no column is a text. -/
def Reference.problem? (statement : Statement) (r : Reference) : Option StoreError :=
  let place := r.index.map fun index => ⟨statement.text, offsetOf statement index⟩
  match r.scope.cells r.path with
  | [] => if r.path.parts.1.isSome then some (.noSuchColumn r.path place) else none
  | [_] => none
  | _ => some (.ambiguousColumn r.path place)

/-- The number of a token some tokens after another. -/
def later (start : Option Nat) (tokens : Nat) : Option Nat := start.map (· + tokens)

/-- The columns of a test whose first token has the given number. A subselect is looked up before the
column that is compared with it. -/
def testReferences (db : Database) (scope : Scope) (start : Option Nat) : Test → List Reference
  | .compare path _ _ | .isNull path _ | .inValues path _ _ => [⟨path, scope, start⟩]
  | .sameColumns left right =>
    [⟨left, scope, start⟩, ⟨right, scope, later start ((columnTokens left).length + 1)⟩]
  | .sameValues _ _ => []
  | .inRows path projection table where_ negated =>
    let inner := [db.nullRowOf table] :: scope
    let selected := later start ((columnTokens path).length + (inWords negated).length + 2)
    let tested := later selected ((columnTokens projection).length + (tableTokens table).length + 2)
    ⟨projection, inner, selected⟩ :: testReferences db inner tested where_ ++ [⟨path, scope, start⟩]

/-- Looking up goes on if nothing is wrong so far. -/
def proceed : Option StoreError → Except StoreError Unit
  | none => .ok ()
  | some e => .error e

/-- Looks up the columns of a test. What is wrong with a column that is tested for null or matched with
a pattern does not end the looking up at once. After it a column that is tested for null is still looked
up, and so is the one that a subselect selects. -/
def lookUpTest (db : Database) (statement : Statement) (scope : Scope) (start : Option Nat)
    (found : Option StoreError) (t : Test) : Except StoreError (Option StoreError) :=
  let references := testReferences db scope start t
  let first := references.findSome? (·.problem? statement)
  match t with
  | .isNull .. => .ok (first.or found)
  | .compare _ .like _ => .ok (found.or first)
  | .inRows .. =>
    match found with
    | none => (proceed first).map fun _ => none
    | some e => .error ((references.head?.bind (·.problem? statement)).getD e)
  | _ => (proceed (found.or first)).map fun _ => none

/-- Looks up the columns of a condition whose first token has the given number. `found` is what is
wrong with the tests directly before it: an operator is not looked at after them. -/
def lookUp (db : Database) (statement : Statement) (scope : Scope) (start : Option Nat)
    (found : Option StoreError) : Condition → Except StoreError (Option StoreError)
  | .test t => lookUpTest db statement scope start found t
  | .not inner => do
    proceed found
    lookUp db statement scope (later start (1 + inner.bracketsAfter.toNat)) none inner
  | .and left right => do
    proceed found
    let opened := left.bracketsBeforeAnd.toNat
    let found ← lookUp db statement scope (later start opened) none left
    lookUp db statement scope
      (later start (left.tokens.length + 2 * opened + 1 + right.bracketsAfter.toNat)) found right
  | .or left right => do
    proceed found
    let opened := left.bracketsBeforeOr.toNat
    let found ← lookUp db statement scope (later start opened) none left
    lookUp db statement scope
      (later start (left.tokens.length + 2 * opened + 1 + right.bracketsAfter.toNat)) found right

/-- The columns in a list with commas between them; the first one stands at the given token. Each is
followed by `extra` tokens of its own. -/
def listReferences (scope : Scope) (extra start : Nat) : List ColumnPath → List Reference
  | [] => []
  | path :: rest =>
    ⟨path, scope, some start⟩
      :: listReferences scope extra (start + (columnTokens path).length + extra + 1) rest

/-- The columns of an order; its first token has the given number. -/
def orderReferences (scope : Scope) (start : Nat) : SortOrder → List Reference
  | .random => []
  | .byKeys keys => listReferences scope 3 (start + 2) (keys.map SortKey.column)

namespace Database

/-- What is wrong with a table that a statement names. -/
def tableProblem? (db : Database) (path : ColumnPath) : Option StoreError :=
  if (db.table? path.text).isSome then none else some (.noSuchTable path.text)

/-- Looks up the columns of the condition and then of the joins, whose places are not known. -/
def lookUpConditions (db : Database) (statement : Statement) (scope : Scope) (start : Nat) :
    Except StoreError (Option StoreError) := do
  let conditions :=
    (statement.select.condition.map (some start, ·)).toList
      ++ statement.select.joins.filterMap fun join => join.on.map (none, ·)
  conditions.foldlM (fun found (start, c) => lookUp db statement scope start found c) none

/-- What is wrong with all columns: those of a table that is there twice cannot be told apart. The
database is called `main`. -/
def everythingProblem? (statement : Statement) (frame : Frame) : Option StoreError :=
  (frame.find? fun row => 1 < (frame.filter (sameName ·.table row.table)).length).bind fun row =>
    row.cells.head?.map fun (column, _) =>
      .ambiguousColumn ⟨"main." ++ row.table ++ "." ++ column⟩
        (some ⟨statement.text, offsetOf statement 1⟩)

/-- What is wrong with a projection. -/
def projectionProblem? (statement : Statement) (frame : Frame) : Projection → Option StoreError
  | .count => none
  | .everything => everythingProblem? statement frame
  | .columns paths => (listReferences [frame] 0 1 paths).findSome? (·.problem? statement)

/-- What is wrong with a column that a statement names. -/
def columnProblem? (db : Database) (statement : Statement) : Option StoreError :=
  let s := statement.select
  let frame : Frame := db.nullRowOf s.source :: s.joins.map fun join => db.nullRowOf join.table
  let bodyEnd := 1 + s.projection.tokens.length + s.bodyTokens.length
  let conditionStart := bodyEnd - ((s.condition.map Condition.tokens).getD []).length
  let inConditions :=
    match db.lookUpConditions statement [frame] conditionStart with
    | .ok found => found
    | .error e => some e
  (projectionProblem? statement frame s.projection).or
    (inConditions.or
      ((orderReferences [frame] bodyEnd s.order).findSome? (·.problem? statement)))

/-- What is wrong with a statement: it is beyond the limits, or the first of its names that stands for
nothing. -/
def problem? (db : Database) (statement : Statement) : Option StoreError :=
  if overflowsStack statement.select then some .stackOverflow
  else if overflowsTree statement.select then some .tooHigh
  else ((tablesOf statement.select).findSome? db.tableProblem?).or (db.columnProblem? statement)

/-- Whether a statement can be run. -/
def check (db : Database) (statement : Statement) : Except StoreError Unit :=
  proceed (db.problem? statement)

end Database

end Listings.Store
