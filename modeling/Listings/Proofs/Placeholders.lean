import Listings.Sql.Condition

/-!
# The values in a condition

Every value in a condition stands at a placeholder of its text.

* `Condition.values`: the values, from left to right; `params_condition`: they are the parameters.
* `Condition.mapValues`: the condition with other values at the same places; `map_condition`:
  nothing else changes in its tokens.
-/

namespace Listings.Sql

variable {f : Token → Token} {g : Value → Value}

/-! ## Which values there are -/

/-- The values in a test. -/
def Test.values : Test → List Value
  | compare _ _ v => [v]
  | sameColumns _ _ => []
  | sameValues v w => [v, w]
  | isNull _ _ => []
  | inValues _ vs _ => vs
  | inRows _ _ _ where_ _ => where_.values

/-- The values in a condition. -/
def Condition.values : Condition → List Value
  | test t => t.values
  | not inner => inner.values
  | and left right | or left right => left.values ++ right.values

@[simp] theorem params_nil : params [] = [] := rfl

@[simp] theorem params_param (v : Value) (ts : List Token) :
    params (.param v :: ts) = v :: params ts := rfl

@[simp] theorem params_word (w : String) (ts : List Token) :
    params (.word w :: ts) = params ts := rfl

@[simp] theorem params_name (s : String) (ts : List Token) :
    params (.name s :: ts) = params ts := rfl

@[simp] theorem params_comma (ts : List Token) : params (.comma :: ts) = params ts := rfl

@[simp] theorem params_columnTokens (path : ColumnPath) : params (columnTokens path) = [] := by
  unfold columnTokens
  split <;> rfl

@[simp] theorem params_parenthesized (ts : List Token) :
    params (parenthesized ts) = params ts := by
  rw [parenthesized, params_append]
  exact List.append_nil _

@[simp] theorem params_bracketed (needed : Bool) (ts : List Token) :
    params (Condition.bracketed needed ts) = params ts := by
  cases needed with
  | true => exact params_parenthesized ts
  | false => rfl

@[simp] theorem params_separated (items : List (List Token)) :
    params (separated .comma items) = items.flatMap params := by
  induction items with
  | nil => rfl
  | cons first rest ih =>
    cases rest with
    | nil => simp
    | cons second others =>
      rw [separated_cons_cons, params_append, params_comma, ih]
      rfl

@[simp] theorem params_inWords (negated : Bool) : params (inWords negated) = [] := by
  cases negated <;> rfl

theorem params_test (t : Test) : params t.tokens = t.values := by
  induction t with
  | compare path op value => simp [Test.tokens, Test.values, params_append]
  | sameColumns left right => simp [Test.tokens, Test.values, params_append]
  | sameValues left right => rfl
  | isNull path negated => cases negated <;> simp [Test.tokens, Test.values, params_append]
  | inValues path values negated =>
    simp [Test.tokens, Test.values, params_append, List.flatMap_map]
  | inRows path projection source where_ negated ih =>
    simp [Test.tokens, Test.values, params_append, tableTokens, ih]

/-- The parameters of a condition are its values. -/
theorem params_condition (c : Condition) : params c.tokens = c.values := by
  induction c with
  | test t => exact params_test t
  | not inner ih => simp [Condition.tokens, Condition.values, ih]
  | and left right ihl ihr | or left right ihl ihr =>
    simp [Condition.tokens, Condition.values, params_append, ihl, ihr]

/-! ## Other values at the same places -/

/-- The test with other values. -/
def Test.mapValues (g : Value → Value) : Test → Test
  | compare path op v => compare path op (g v)
  | sameColumns left right => sameColumns left right
  | sameValues v w => sameValues (g v) (g w)
  | isNull path negated => isNull path negated
  | inValues path vs negated => inValues path (vs.map g) negated
  | inRows path projection table where_ negated =>
    inRows path projection table (where_.mapValues g) negated

/-- The condition with other values. -/
def Condition.mapValues (g : Value → Value) : Condition → Condition
  | test t => test (t.mapValues g)
  | not inner => not (inner.mapValues g)
  | and left right => and (left.mapValues g) (right.mapValues g)
  | or left right => or (left.mapValues g) (right.mapValues g)

/-- A change of tokens that keeps all of them but the placeholders, whose values it changes. It may
do anything with the names of functions, which no condition has. -/
structure Revalues (f : Token → Token) (g : Value → Value) : Prop where
  word : ∀ w, f (.word w) = .word w
  name : ∀ s, f (.name s) = .name s
  dot : f .dot = .dot
  comma : f .comma = .comma
  leftParen : f .leftParen = .leftParen
  rightParen : f .rightParen = .rightParen
  param : ∀ v, f (.param v) = .param (g v)

namespace Revalues

variable (h : Revalues f g)
include h

theorem map_columnTokens (path : ColumnPath) : (columnTokens path).map f = columnTokens path := by
  unfold columnTokens
  split <;> simp [h.name, h.dot]

theorem map_parenthesized (ts : List Token) :
    (parenthesized ts).map f = parenthesized (ts.map f) := by
  simp [parenthesized, h.leftParen, h.rightParen]

theorem map_bracketed (needed : Bool) (ts : List Token) :
    (Condition.bracketed needed ts).map f = Condition.bracketed needed (ts.map f) := by
  cases needed with
  | true => exact h.map_parenthesized ts
  | false => rfl

theorem map_separated (vs : List Value) :
    (separated .comma (vs.map fun v => [.param v])).map f
      = separated .comma ((vs.map g).map fun v => [.param v]) := by
  induction vs with
  | nil => rfl
  | cons v vs ih =>
    cases vs with
    | nil => simp [h.param]
    | cons w vs =>
      simp only [List.map_cons, separated_cons_cons] at ih ⊢
      simp [ih, h.param, h.comma]

theorem map_inWords (negated : Bool) : (inWords negated).map f = inWords negated := by
  cases negated <;> simp [inWords, h.word]

theorem map_test (t : Test) : t.tokens.map f = (t.mapValues g).tokens := by
  induction t with
  | compare path op value => simp [Test.tokens, Test.mapValues, h.map_columnTokens, h.word, h.param]
  | sameColumns left right => simp [Test.tokens, Test.mapValues, h.map_columnTokens, h.word]
  | sameValues left right => simp [Test.tokens, Test.mapValues, h.word, h.param]
  | isNull path negated =>
    cases negated <;> simp [Test.tokens, Test.mapValues, h.map_columnTokens, h.word]
  | inValues path values negated =>
    simp [Test.tokens, Test.mapValues, h.map_columnTokens, h.map_inWords, h.map_parenthesized,
      h.map_separated]
  | inRows path projection source where_ negated ih =>
    simp [Test.tokens, Test.mapValues, h.map_columnTokens, h.map_inWords, h.map_parenthesized,
      h.word, h.name, tableTokens, ih]

/-- Where parentheses stand does not depend on the values. -/
theorem map_condition (c : Condition) : c.tokens.map f = (c.mapValues g).tokens := by
  have before_and : ∀ c : Condition,
      (c.mapValues g).bracketsBeforeAnd = c.bracketsBeforeAnd := fun c => by cases c <;> rfl
  have before_or : ∀ c : Condition,
      (c.mapValues g).bracketsBeforeOr = c.bracketsBeforeOr := fun c => by cases c <;> rfl
  have after : ∀ c : Condition,
      (c.mapValues g).bracketsAfter = c.bracketsAfter := fun c => by cases c <;> rfl
  induction c with
  | test t => exact h.map_test t
  | not inner ih =>
    simp [Condition.tokens, Condition.mapValues, h.word, h.map_bracketed, after, ih]
  | and left right ihl ihr =>
    simp [Condition.tokens, Condition.mapValues, h.word, h.map_bracketed, before_and, after, ihl,
      ihr]
  | or left right ihl ihr =>
    simp [Condition.tokens, Condition.mapValues, h.word, h.map_bracketed, before_or, after, ihl,
      ihr]

end Revalues

theorem Test.mapValues_id (t : Test) : t.mapValues id = t := by
  induction t with
  | inRows path projection table where_ negated ih => rw [mapValues, ih]
  | _ => simp [mapValues]

theorem Condition.mapValues_id (c : Condition) : c.mapValues id = c := by
  induction c with
  | test t => rw [mapValues, t.mapValues_id]
  | not inner ih => rw [mapValues, ih]
  | and left right ihl ihr | or left right ihl ihr => rw [mapValues, ihl, ihr]

end Listings.Sql
