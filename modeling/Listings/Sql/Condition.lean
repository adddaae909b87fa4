import Listings.Filter.Predicate
import Listings.Sql.Token

/-!
# Conditions of statements

The conditions that statements hold, and how they are written.

* `Condition.tokens`: a condition with the parentheses that the order of binding needs, where an
  operand on the left may be a chain of the same operator.
* `Predicate.condition`: the condition that tests a predicate. A list without values becomes a
  comparison of two constants, and what is matched with a pattern is matched as text.
-/

namespace Listings

/-- A comparator in a statement. -/
def Comparator.sql : Comparator → String
  | .equal => "="
  | .notEqual => "<>"
  | .like => "LIKE"
  | .greater => ">"
  | .greaterEqual => ">="
  | .less => "<"
  | .lessEqual => "<="

/-- A value as the pattern that a text is matched with. -/
def Value.pattern : Value → Value
  | .text s => .text s
  | other => .text other.write

namespace Sql

/-- A condition without operands. -/
inductive Test where
  | compare (column : ColumnPath) (op : Comparator) (value : Value)
  /-- Two columns are equal. -/
  | sameColumns (left right : ColumnPath)
  /-- Two constants are equal. -/
  | sameValues (left right : Value)
  | isNull (column : ColumnPath) (negated : Bool)
  | inValues (column : ColumnPath) (values : List Value) (negated : Bool)
  /-- The column has one of the values that a column has in the rows of a table that satisfy a test. -/
  | inRows (column : ColumnPath) (projection table : ColumnPath) (where_ : Test) (negated : Bool)
deriving DecidableEq

/-- A condition of a statement. -/
inductive Condition where
  | test (t : Test)
  | not (inner : Condition)
  | and (left right : Condition)
  | or (left right : Condition)
deriving DecidableEq

/-! ## Writing -/

/-- The words before a list or a subselect. -/
def inWords (negated : Bool) : List Token :=
  if negated then [.word "NOT", .word "IN"] else [.word "IN"]

/-- The tokens of a test. -/
def Test.tokens : Test → List Token
  | compare path op value => columnTokens path ++ [.word op.sql, .param value]
  | sameColumns left right => columnTokens left ++ .word "=" :: columnTokens right
  | sameValues left right => [.param left, .word "=", .param right]
  | isNull path negated =>
    columnTokens path ++ (if negated then [.word "IS", .word "NOT", .word "NULL"]
      else [.word "IS", .word "NULL"])
  | inValues path values negated =>
    columnTokens path ++ inWords negated
      ++ parenthesized (separated .comma (values.map fun v => [.param v]))
  | inRows path projection source where_ negated =>
    columnTokens path ++ inWords negated
      ++ parenthesized (.word "SELECT" :: columnTokens projection ++ .word "FROM" :: tableTokens source
        ++ .word "WHERE" :: where_.tokens)

namespace Condition

/-- Whether an operand on the left of `AND` has to stand in parentheses. -/
def bracketsBeforeAnd : Condition → Bool
  | test _ | and .. => false
  | not _ | or .. => true

/-- Whether an operand on the left of `OR` has to stand in parentheses. -/
def bracketsBeforeOr : Condition → Bool
  | test _ | or .. => false
  | not _ | and .. => true

/-- Whether an operand after an operator has to stand in parentheses. -/
def bracketsAfter : Condition → Bool
  | test _ => false
  | _ => true

/-- Tokens in parentheses where they are needed. -/
def bracketed (needed : Bool) (tokens : List Token) : List Token :=
  if needed then parenthesized tokens else tokens

/-- The tokens of a condition. -/
def tokens : Condition → List Token
  | test t => t.tokens
  | not inner => .word "NOT" :: bracketed inner.bracketsAfter inner.tokens
  | and left right =>
    bracketed left.bracketsBeforeAnd left.tokens ++ .word "AND"
      :: bracketed right.bracketsAfter right.tokens
  | or left right =>
    bracketed left.bracketsBeforeOr left.tokens ++ .word "OR"
      :: bracketed right.bracketsAfter right.tokens

/-- The conjunction of tests, from the left; nothing where there are none. -/
def all? : List Test → Option Condition
  | [] => none
  | first :: rest => some (rest.foldl (fun c t => .and c (.test t)) (.test first))

end Condition

/-! ## The test of a predicate -/

/-- The test that a column has one of the values: `1 = 2` where there are none, and its opposite
`1 = 1`. -/
def memberTest (path : ColumnPath) (values : List Value) (negated : Bool) : Test :=
  if values.isEmpty then .sameValues (.integer 1) (.integer (if negated then 1 else 2))
  else .inValues path values negated

/-- The value that a comparator is given. -/
def operand (op : Comparator) (value : Value) : Value :=
  match op with
  | .like => value.pattern
  | _ => value

end Sql

/-- The condition that tests a predicate. -/
def Predicate.condition : Predicate → Sql.Condition
  | .and left right => .and left.condition right.condition
  | .or left right => .or left.condition right.condition
  | .not inner => .not inner.condition
  | .isNull column negated => .test (.isNull column.path negated)
  | .compare op column value => .test (.compare column.path op (Sql.operand op value))
  | .oneOf column values negated => .test (Sql.memberTest column.path values negated)
  | .linked association id members negated =>
    .test (.inRows id association.row association.table
      (Sql.memberTest association.member (members.map .text) false) negated)

end Listings
