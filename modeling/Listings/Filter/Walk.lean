import Listings.Filter.Grammar
import Listings.Filter.Scan

/-!
# Walking over tokens

The tokens of a filter stay where they are, while a cursor walks over them: it has the place of the next
token and the number of levels that have been entered. Six walks read the parts of a filter and call
each other; so many calls may be open in one another, and each takes one of them.

* `Tape`: the tokens and the end of a filter.
* `Cursor`, `Walk`: where reading is, and how it goes on.
* `Parsers.within`: the walks with a number of calls left.
* `walkThrough`: the tokens of a whole filter.
* `parseWithin`: the expression that a filter stands for, as it is found in place.
-/

namespace Listings.Filter

/-- The tokens of a filter, behind which its end stands like a token. -/
structure Tape where
  tokens : List Token
  /-- The length of the filter in bytes. -/
  length : Nat

/-- The tape of a filter. -/
def tapeOf (filter : String) (ts : List Token) : Tape := ⟨ts, filter.utf8ByteSize⟩

/-- The comparator that a token is. -/
def Token.comparator? (t : Token) : Option Comparator :=
  match t.kind with
  | .symbol (.compare c) => some c
  | _ => none

/-- What stands at a place: a token, or nothing at the end of the filter. Behind the end there is no
place. -/
def Tape.at? (tape : Tape) (place : Nat) : Option (Option Token) :=
  (tape.tokens.map some ++ [none])[place]?

/-- Where reading is. -/
structure Cursor where
  place : Nat
  depth : Nat
deriving DecidableEq

/-- Where reading starts. -/
def Cursor.first : Cursor := ⟨0, 0⟩

/-- Steps of a cursor; those that it is moved to are kept. -/
abbrev Walk (α : Type) : Type := StateT Cursor (Run Cursor) α

/-! ## Steps -/

namespace Walk

/-- Stops. -/
def halt {α : Type} (h : Halt) : Walk α := fun _ => .stop h

/-- Moves the cursor. -/
def move (c : Cursor) : Walk Unit := fun _ => ⟨[c], .ok ((), c)⟩

/-- Goes on to the next place. -/
def step : Walk Unit := do
  let c ← get
  move { c with place := c.place + 1 }

/-- Leaves a level. -/
def leave : Walk Unit := do
  let c ← get
  if c.depth = 0 then halt .notEntered else move { c with depth := c.depth - 1 }

/-- Goes back to the levels that had been entered before. -/
def returnTo (depth : Nat) : Walk Unit := do
  let c ← get
  move { c with depth }

variable (tape : Tape)

/-- The token at the cursor. -/
def peek : Walk (Option Token) := fun c =>
  match tape.at? c.place with
  | some t => pure (t, c)
  | none => .stop .outside

/-- Takes the token at the cursor; the end is left where it is. -/
def advance : Walk (Option Token) := do
  let t ← peek tape
  if t.isSome then step
  return t

/-- Takes a symbol if it is the token at the cursor. -/
def eat (s : Symbol) : Walk Bool := do
  let t ← peek tape
  if t.map Token.kind = some (.symbol s) then
    step
    return true
  else return false

/-- Refuses the filter at a token or at its end. -/
def refuse {α : Type} (cause : Cause) : Option Token → Walk α
  | some t => halt (.refused ⟨cause, t.offset, t.text⟩)
  | none => halt (.refused ⟨cause, tape.length, ""⟩)

/-- Takes a symbol that has to be the token at the cursor. -/
def demand (s : Symbol) (what : Expectation) : Walk Unit := do
  if ← eat tape s then return ()
  else refuse tape (.expected what) (← peek tape)

/-- Enters a level, if there may be one more. -/
def enter : Walk Unit := do
  let c ← get
  if c.depth < maxDepth then move { c with depth := c.depth + 1 }
  else refuse tape .tooDeep (← peek tape)

/-- The comparator at the cursor. -/
def comparator? : Walk (Option Comparator) := do
  let t ← peek tape
  return t.bind Token.comparator?

end Walk

/-! ## Parts of a filter -/

/-- The walks that read the parts of a filter. -/
structure Parsers where
  disjunction : Walk Expr
  conjunction : Walk Expr
  comparison : Walk Expr
  unary : Walk Expr
  primary : Walk Expr
  arguments : Walk (List Expr)

namespace Parsers

open Walk

variable (tape : Tape)

/-- The further operands of a chain, each one level deeper than the one before. -/
def chainFrom (s : Symbol) (op : Operator) (operand : Walk Expr) : Nat → Expr → Walk Expr
  | 0, _ => halt .tooManyRounds
  | rounds + 1, left => do
    if ← eat tape s then
      enter tape
      let right ← operand
      chainFrom s op operand rounds (.binary op left right)
    else return left

/-- A chain of operands. In every round but the last one a token is taken. -/
def chain (s : Symbol) (op : Operator) (operand : Walk Expr) : Walk Expr := do
  let c ← get
  let left ← operand
  let e ← chainFrom tape s op operand (tape.tokens.length + 1) left
  returnTo c.depth
  return e

/-- The arguments of a call up to its closing parenthesis, at least one. -/
def argumentsFrom (argument : Walk Expr) : Nat → Walk (List Expr)
  | 0 => halt .tooManyRounds
  | rounds + 1 => do
    let first ← argument
    if ← eat tape .comma then
      let others ← argumentsFrom argument rounds
      return first :: others
    else
      demand tape .rightParen .commaOrClosingParen
      return [first]

variable (inner : Parsers)

/-- A primary expression. -/
def primaryOver : Walk Expr := do
  let t ← advance tape
  match t.map Token.kind with
  | some (.symbol .leftParen) =>
    enter tape
    let e ← inner.disjunction
    demand tape .rightParen .closingParen
    leave
    return e
  | some (.word w) =>
    if w = nullWord then return .literal .null
    else if ← eat tape .leftParen then
      enter tape
      let args ← inner.arguments
      leave
      return .call w args
    else return .name w
  | some (.text s) => return .literal (.text s)
  | some (.number n) => return .literal (.number n)
  | some (.symbol _) | none => refuse tape .unexpected t

/-- A unary expression. -/
def unaryOver : Walk Expr := do
  if ← eat tape .not then
    enter tape
    let e ← inner.unary
    leave
    return .not e
  else inner.primary

/-- A unary expression, or the comparison of two. -/
def comparisonOver : Walk Expr := do
  let left ← inner.unary
  match ← comparator? tape with
  | none => return left
  | some c =>
    let _ ← advance tape
    let right ← inner.unary
    if (← comparator? tape).isSome then refuse tape .chainedComparison (← peek tape)
    else return .binary (.compare c) left right

/-- The arguments of a call up to its closing parenthesis. -/
def argumentsOver : Walk (List Expr) := do
  if ← eat tape .rightParen then return []
  else argumentsFrom tape inner.disjunction (tape.tokens.length + 1)

/-- The walks that call others. -/
def outer : Parsers where
  disjunction := chain tape .or .or inner.conjunction
  conjunction := chain tape .and .and inner.comparison
  comparison := comparisonOver tape inner
  unary := unaryOver tape inner
  primary := primaryOver tape inner
  arguments := argumentsOver tape inner

/-- The walks with no call left. -/
def spent : Parsers where
  disjunction := halt .tooManyCalls
  conjunction := halt .tooManyCalls
  comparison := halt .tooManyCalls
  unary := halt .tooManyCalls
  primary := halt .tooManyCalls
  arguments := halt .tooManyCalls

/-- The walks with so many calls left: each takes one of them until it is done. -/
def within : Nat → Parsers
  | 0 => spent
  | calls + 1 => outer tape (within calls)

end Parsers

/-- The tokens of a whole filter. -/
def walkThrough (tape : Tape) (calls : Nat) : Walk Expr := do
  let e ← (Parsers.within tape calls).disjunction
  match ← Walk.peek tape with
  | none => return e
  | some t => Walk.refuse tape (.expected .endOfFilter) (some t)

/-- The expression that a filter stands for, when so many calls may be open in one another. -/
def parseWithin (calls : Nat) (filter : String) : Except Halt Expr := do
  let ts ← (scan filter).outcome
  let (e, _) ← (walkThrough (tapeOf filter ts) calls .first).outcome
  return e

end Listings.Filter
