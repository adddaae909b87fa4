import Listings.Sql.Select

/-!
# Limits of statements

A statement is read with a stack of limited size, on which everything stands that is not complete yet:
an open parenthesis, an operator that waits for its right operand. The tree that is made of it is
limited in height.

* `stackUse`: the greatest number of entries that the stack holds while a condition is read.
* `height`: the height of the tree of a condition.
-/

namespace Listings.Store

open Sql

/-! ## The stack -/

/-- The number of entries on the stack that a statement may need. -/
def stackLimit : Nat := 99

/-- The entries for a column: a single name, or two names and the dot between them. -/
def columnStack (path : ColumnPath) : Nat := if path.parts.1.isSome then 3 else 1

/-- The entries in front of the condition of a select: the clauses before it and `WHERE`. -/
def beforeWhere : Nat := 5

/-- The entries in front of the condition of a join: the clauses before it, the parts of the tables
before it and of its own, and `ON`. -/
def beforeOn : Nat := 9

/-- The entries for a select with nothing in its clauses. -/
def clauseStack : Nat := 9

/-- The greatest number of entries while a test is read. -/
def testStack : Test → Nat
  | .compare .. | .sameValues .. => 3
  | .sameColumns _ right => 2 + columnStack right
  | .isNull _ negated => if negated then 4 else 3
  | .inValues _ values _ => if values.length ≤ 1 then 5 else 6
  | .inRows _ _ _ where_ _ => 3 + max clauseStack (beforeWhere + testStack where_)

/-- The greatest number of entries while a condition is read. The left operand of an operator is
complete before the operator is read, and takes one entry from then on. -/
def stackUse : Condition → Nat
  | .test t => testStack t
  | .not inner => 1 + inner.bracketsAfter.toNat + stackUse inner
  | .and left right =>
    max (left.bracketsBeforeAnd.toNat + stackUse left) (2 + right.bracketsAfter.toNat + stackUse right)
  | .or left right =>
    max (left.bracketsBeforeOr.toNat + stackUse left) (2 + right.bracketsAfter.toNat + stackUse right)

/-- Whether a select needs more stack than there is. -/
def overflowsStack (s : Select) : Bool :=
  s.joins.any (fun join => (join.on.map fun c => beforeOn + stackUse c).any (stackLimit < ·))
    || (s.condition.map fun c => beforeWhere + stackUse c).any (stackLimit < ·)

/-! ## The tree -/

/-- The greatest height of a tree. -/
def heightLimit : Nat := 1000

/-- The height of a column: two names stand under their dot. -/
def columnHeight (path : ColumnPath) : Nat := if path.parts.1.isSome then 2 else 1

/-- The height of a test. A list with one value is a comparison with the value under a sign, and a
negated list stands under its negation. -/
def testHeight : Test → Nat
  | .compare path _ _ | .isNull path _ => 1 + columnHeight path
  | .sameColumns left right => 1 + max (columnHeight left) (columnHeight right)
  | .sameValues _ _ => 2
  | .inValues path values negated =>
    1 + max (columnHeight path) (if values.length = 1 then 2 else 1) + negated.toNat
  | .inRows path projection _ where_ negated =>
    1 + max (columnHeight path) (max (columnHeight projection) (testHeight where_)) + negated.toNat

/-- The height of the tree of a condition. -/
def height : Condition → Nat
  | .test t => testHeight t
  | .not inner => 1 + height inner
  | .and left right | .or left right => 1 + max (height left) (height right)

/-- The height of a condition with those of the joins, which are put beside it one after the other. -/
def joinedHeight (s : Select) : Nat :=
  (s.condition.toList ++ s.joins.filterMap LeftJoin.on).foldl
    (fun found c => if found = 0 then height c else 1 + max found (height c)) 0

/-- The greatest height in a subselect of a test. -/
def testInnerHeight : Test → Nat
  | .inRows _ projection _ where_ _ =>
    max (columnHeight projection) (testHeight where_ + testInnerHeight where_)
  | _ => 0

/-- The greatest height in a subselect of a condition. -/
def innerHeight : Condition → Nat
  | .test t => testInnerHeight t
  | .not inner => innerHeight inner
  | .and left right | .or left right => max (innerHeight left) (innerHeight right)

/-- Whether the tree of a select is too high. A subselect is looked at together with what is around
it. -/
def overflowsTree (s : Select) : Bool :=
  heightLimit < joinedHeight s + ((s.condition.map innerHeight).getD 0)

end Listings.Store
