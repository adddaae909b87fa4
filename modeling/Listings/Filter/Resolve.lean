import Listings.Calendar.Date
import Listings.Entity.Basic

/-!
# Filters of an entity

What an expression means for an entity: every name stands for a column, every literal has the kind
of the column that it is compared with, and every comparator is allowed there. One part that does not
fit refuses the whole expression, and the first such part from the left gives the reason.

* `Column.value`: the value that a literal stands for beside a column.
* `Entity.resolve`: the condition that an expression stands for.
-/

namespace Listings

/-- The value that an expression stands for beside a column: a constant of the column's kind. Dates
are put into their normal form. -/
def Column.value (column : Column) (field : String) (e : Expr) : Except ResolveError Value :=
  match column.kind, e with
  | .string, .literal (.text s) => .ok (.text s)
  | .number, .literal (.number (.integer n)) => .ok (.integer n)
  | .number, .literal (.number (.real x)) => .ok (.real x)
  | .date, .literal (.text s) =>
    match Date.parse? s with
    | some date => .ok (.text date.write)
    | none => .error (.invalidDate field s)
  | _, _ => .error (.typeMismatch field column.kind e)

/-- The word of an expression that has to be a field name. -/
def Expr.fieldName : Expr → Except ResolveError String
  | .name word => .ok word
  | other => .error (.notAField other)

/-- The text of an argument that has to be one. -/
def Expr.textArgument (function : String) : Expr → Except ResolveError String
  | .literal (.text s) => .ok s
  | other => .error (.notText function other)

namespace Entity

/-- The column of a field that has to exist. -/
def column (entity : Entity) (field : String) : Except ResolveError Column :=
  match entity.column? field with
  | some column => .ok column
  | none => .error (.unknownName field)

/-- The test that a field has one of the values given as arguments. -/
def inColumn (entity : Entity) (function field : String) (args : List Expr) :
    Except ResolveError Predicate := do
  if args.isEmpty then throw (.missingArguments function)
  let column ← entity.column field
  let values ← args.mapM (column.value field)
  return .oneOf column values false

/-- The stored id of the member that an argument names. -/
def member (entity : Entity) (function association : String) (arg : Expr) :
    Except ResolveError String := do
  let display ← arg.textArgument function
  match entity.id? association display with
  | none => throw (.unsupportedAssociation association)
  | some id => if id.isEmpty then throw (.noMember function display association) else return id

/-- The test that a row is linked to one of the members that the arguments name. -/
def inTable (entity : Entity) (function association : String) (id : ColumnPath)
    (args : List Expr) : Except ResolveError Predicate := do
  if args.isEmpty then throw (.missingArguments function)
  let members ← args.mapM (entity.member function association)
  match entity.association? association with
  | none => throw (.unsupportedAssociation association)
  | some table => return .linked table id members false

/-- The function that every entity has: `in(field, values...)`. -/
def membershipFunction : String := "in"

/-- A call. The name of the general membership function cannot be taken by an entity. -/
def call (entity : Entity) (function : String) (args : List Expr) :
    Except ResolveError Predicate :=
  if function = membershipFunction then
    match args with
    | [] => .error (.missingArguments function)
    | field :: values => do entity.inColumn function (← field.fieldName) values
  else
    match entity.function? function with
    | none => .error (.unknownFunction function)
    | some (.inTable association id) => entity.inTable function association id args
    | some (.inColumn field) => entity.inColumn function field args
    | some (.own resolve) => resolve args

/-- A comparison with null: only a test for equality or for its opposite, and only of a column that
may be null. -/
def nullTest (op : Comparator) (field : String) (column : Column) :
    Except ResolveError Predicate := do
  let negated ←
    match op with
    | .equal => pure false
    | .notEqual => pure true
    | _ => throw (.nullComparison field op)
  if column.nullable then return .isNull column negated else throw (.notNullable field)

/-- A comparison of a field with a constant. -/
def comparison (entity : Entity) (op : Comparator) (left right : Expr) :
    Except ResolveError Predicate := do
  let field ← left.fieldName
  let column ← entity.column field
  match right with
  | .literal .null => nullTest op field column
  | _ =>
    if op ∈ entity.operators column then
      return .compare op column (← column.value field right)
    else throw (.operatorNotAllowed field op column.kind)

/-- The condition that an expression stands for. -/
def resolve (entity : Entity) : Expr → Except ResolveError Predicate
  | .binary .and left right => do return .and (← entity.resolve left) (← entity.resolve right)
  | .binary .or left right => do return .or (← entity.resolve left) (← entity.resolve right)
  | .binary (.compare op) left right => entity.comparison op left right
  | .not inner => do return (← entity.resolve inner).negate
  | .call function args => entity.call function args
  | .name word => .error (.notACondition (.name word))
  | .literal value => .error (.notACondition (.literal value))

end Entity

end Listings
