import Listings.Filter.Token

/-!
# The grammar of filters

From the weakest binding to the strongest:

* disjunction: conjunctions with `||` between them;
* conjunction: comparisons with `&&` between them;
* comparison: a unary expression, or two with one comparator between them;
* unary: a primary expression with any number of `!` before it;
* primary: a disjunction in parentheses, a call, a name, a constant.

A filter may have only so many levels. A parenthesis, a call, a `!` and every further operand of a
chain take one level, so the grammar is read level by level: `Level.over` gives the readers of a
level from those of the level below, and there are none below the last.

* `Expr.parse`: the expression that a filter stands for.
-/

namespace Listings.Filter

/-- Why the tokens cannot be read, and the tokens left at that place. -/
structure Failure where
  cause : Cause
  rest : List Token

/-- A reader takes what it can from the head of the tokens and leaves the others. -/
abbrev Reads (α : Type) := List Token → Except Failure (α × List Token)

/-- The readers of one level. -/
structure Level where
  unary : Reads Expr
  comparison : Reads Expr
  conjunction : Reads Expr
  disjunction : Reads Expr
  /-- The rest of a conjunction whose first operands are known. -/
  conjunctionFrom : Expr → Reads Expr
  /-- The rest of a disjunction whose first operands are known. -/
  disjunctionFrom : Expr → Reads Expr

/-- The level below, if there is one. -/
def descend (below : Option Level) (rest : List Token) : Except Failure Level :=
  match below with
  | some level => .ok level
  | none => .error ⟨.tooDeep, rest⟩

/-- The symbol at the head of the tokens, and the tokens after it. -/
def takeSymbol? : List Token → Option (Symbol × List Token)
  | ⟨.symbol s, _, _⟩ :: rest => some (s, rest)
  | _ => none

/-- The tokens after a symbol that has to stand at their head. -/
def expect (s : Symbol) (what : Expectation) (ts : List Token) : Except Failure (List Token) :=
  match takeSymbol? ts with
  | some (s', rest) => if s' = s then .ok rest else .error ⟨.expected what, ts⟩
  | none => .error ⟨.expected what, ts⟩

/-- The arguments of a call up to its closing parenthesis, at least one. There are fewer arguments
than tokens. -/
def argumentsFrom (argument : Reads Expr) : Nat → Reads (List Expr)
  | 0, ts => .error ⟨.unexpected, ts⟩
  | bound + 1, ts => do
    let (first, rest) ← argument ts
    match takeSymbol? rest with
    | some (.comma, rest) =>
      let (others, rest) ← argumentsFrom argument bound rest
      return (first :: others, rest)
    | _ =>
      let rest ← expect .rightParen .commaOrClosingParen rest
      return ([first], rest)

/-- The arguments of a call up to its closing parenthesis. -/
def arguments (argument : Reads Expr) : Reads (List Expr) := fun ts =>
  match takeSymbol? ts with
  | some (.rightParen, rest) => .ok ([], rest)
  | _ => argumentsFrom argument ts.length ts

/-- The word that is a constant and never a name or a function. -/
def nullWord : String := "null"

/-- A primary expression. -/
def primary (below : Option Level) : Reads Expr
  | [] => .error ⟨.unexpected, []⟩
  | token :: rest =>
    match token.kind with
    | .text s => .ok (.literal (.text s), rest)
    | .number n => .ok (.literal (.number n), rest)
    | .word w =>
      if w = nullWord then .ok (.literal .null, rest)
      else
        match takeSymbol? rest with
        | some (.leftParen, rest) => do
          let level ← descend below rest
          let (args, rest) ← arguments level.disjunction rest
          return (.call w args, rest)
        | _ => .ok (.name w, rest)
    | .symbol .leftParen => do
      let level ← descend below rest
      let (inner, rest) ← level.disjunction rest
      let rest ← expect .rightParen .closingParen rest
      return (inner, rest)
    | .symbol _ => .error ⟨.unexpected, token :: rest⟩

/-- A unary expression. -/
def unary (below : Option Level) : Reads Expr := fun ts =>
  match takeSymbol? ts with
  | some (.not, rest) => do
    let level ← descend below rest
    let (inner, rest) ← level.unary rest
    return (.not inner, rest)
  | _ => primary below ts

/-- The comparator at the head of the tokens, and the tokens after it. -/
def takeComparator? (ts : List Token) : Option (Comparator × List Token) :=
  match takeSymbol? ts with
  | some (.compare c, rest) => some (c, rest)
  | _ => none

/-- A unary expression, or the comparison of two. -/
def comparison (below : Option Level) : Reads Expr := fun ts => do
  let (left, rest) ← unary below ts
  match takeComparator? rest with
  | none => return (left, rest)
  | some (c, rest) =>
    let (right, rest) ← unary below rest
    match takeComparator? rest with
    | none => return (.binary (.compare c) left right, rest)
    | some _ => .error ⟨.chainedComparison, rest⟩

/-- The rest of a conjunction: each further operand is read one level further down. -/
def conjunctionFrom (below : Option Level) (left : Expr) : Reads Expr := fun ts =>
  match takeSymbol? ts with
  | some (.and, rest) => do
    let level ← descend below rest
    let (right, rest) ← level.comparison rest
    level.conjunctionFrom (.binary .and left right) rest
  | _ => .ok (left, ts)

/-- A conjunction. -/
def conjunction (below : Option Level) : Reads Expr := fun ts => do
  let (left, rest) ← comparison below ts
  conjunctionFrom below left rest

/-- The rest of a disjunction: each further operand is read one level further down. -/
def disjunctionFrom (below : Option Level) (left : Expr) : Reads Expr := fun ts =>
  match takeSymbol? ts with
  | some (.or, rest) => do
    let level ← descend below rest
    let (right, rest) ← level.conjunction rest
    level.disjunctionFrom (.binary .or left right) rest
  | _ => .ok (left, ts)

/-- A disjunction. -/
def disjunction (below : Option Level) : Reads Expr := fun ts => do
  let (left, rest) ← conjunction below ts
  disjunctionFrom below left rest

/-- The readers of a level, given those of the level below. -/
def Level.over (below : Option Level) : Level where
  unary := Filter.unary below
  comparison := Filter.comparison below
  conjunction := Filter.conjunction below
  disjunction := Filter.disjunction below
  conjunctionFrom := Filter.conjunctionFrom below
  disjunctionFrom := Filter.disjunctionFrom below

/-- The readers of a level with the given number of levels below it. -/
def Level.ofDepth : Nat → Level
  | 0 => .over none
  | depth + 1 => .over (some (ofDepth depth))

/-- How many levels a filter may have. -/
def maxDepth : Nat := 128

/-- The expression that all of the tokens stand for. -/
def exprOf (ts : List Token) : Except Failure Expr := do
  let (e, rest) ← (Level.ofDepth maxDepth).disjunction ts
  if rest.isEmpty then return e else .error ⟨.expected .endOfFilter, rest⟩

/-- The place of a failure: the first token left, or the end of a filter of the given length. -/
def Failure.locate (failure : Failure) (length : Nat) : SyntaxError :=
  match failure.rest with
  | [] => ⟨failure.cause, length, ""⟩
  | token :: _ => ⟨failure.cause, token.offset, token.text⟩

end Listings.Filter

namespace Listings

/-- The expression that a filter stands for. -/
def Expr.parse (filter : String) : Except Filter.SyntaxError Expr := do
  let ts ← Filter.tokens filter
  (Filter.exprOf ts).mapError (·.locate (Text.byteLength filter.toList))

end Listings
