import Listings.Column
import Listings.Value

/-!
# Statement text

The text of a statement is written token by token, so that what is an identifier, what is a keyword
and what is a bound value stays apart until the end.

* `render`: the text of a list of tokens in a dialect.
* `params`: the values bound to its placeholders, in the order of the text.
* `render_congr`: the text does not depend on the values.
* `renderFrom_append`: a text is written part by part, placeholders numbered throughout.
-/

namespace Listings.Sql

/-- How placeholders are written. -/
inductive Dialect where
  /-- Every placeholder is a question mark. -/
  | sqlite
  /-- Placeholders are numbered from 1. -/
  | postgres
deriving DecidableEq

/-- A token of a statement. -/
inductive Token where
  /-- A keyword, an operator or a star. -/
  | word (w : String)
  /-- The name of a function, which its parenthesis follows directly. -/
  | function (w : String)
  /-- An identifier. -/
  | name (s : String)
  | dot
  | comma
  | leftParen
  | rightParen
  /-- A placeholder with the value bound to it. -/
  | param (v : Value)
deriving DecidableEq

namespace Token

/-- The value bound to a placeholder. -/
def param? : Token → Option Value
  | param v => some v
  | _ => none

/-- Whether a token follows the one before it without a space. -/
def joins (before after : Token) : Bool :=
  match before, after with
  | leftParen, _ | dot, _ | function _, _ => true
  | _, rightParen | _, comma | _, dot => true
  | _, _ => false

/-- An identifier in double quotes; a quote inside it is doubled. -/
def quoteName (s : String) : List Char :=
  '"' :: s.toList.flatMap (fun c => if c = '"' then ['"', '"'] else [c]) ++ ['"']

/-- The placeholder with the given number. -/
def placeholder (dialect : Dialect) (number : Nat) : List Char :=
  match dialect with
  | .sqlite => ['?']
  | .postgres => '$' :: Nat.toDigits 10 number

/-- The text of a token; a placeholder has the given number. -/
def chars (dialect : Dialect) (number : Nat) : Token → List Char
  | word w | function w => w.toList
  | name s => quoteName s
  | dot => ['.']
  | comma => [',']
  | leftParen => ['(']
  | rightParen => [')']
  | param _ => placeholder dialect number

end Token

/-- The text of tokens that follow `before`; the next placeholder has the given number. -/
def renderFrom (dialect : Dialect) (number : Nat) (before : Token) : List Token → List Char
  | [] => []
  | token :: rest =>
    (if before.joins token then [] else [' ']) ++ token.chars dialect number
      ++ renderFrom dialect (if token.param?.isSome then number + 1 else number) token rest

/-- The text of tokens. The first one stands at the beginning, as if after a parenthesis. -/
def render (dialect : Dialect) (tokens : List Token) : List Char :=
  renderFrom dialect 1 .leftParen tokens

/-- The values bound to the placeholders. -/
def params (tokens : List Token) : List Value := tokens.filterMap Token.param?

/-- Tokens in parentheses. -/
def parenthesized (tokens : List Token) : List Token := .leftParen :: tokens ++ [.rightParen]

/-- Lists of tokens with a separator between them. -/
def separated (separator : Token) (items : List (List Token)) : List Token :=
  [separator].intercalate items

@[simp] theorem separated_singleton (separator : Token) (item : List Token) :
    separated separator [item] = item := by
  simp [separated, List.intercalate]

@[simp] theorem separated_cons_cons (separator : Token) (first second : List Token)
    (rest : List (List Token)) :
    separated separator (first :: second :: rest)
      = first ++ separator :: separated separator (second :: rest) := by
  simp [separated, List.intercalate]

/-- A column: table and column with a dot between them, or a single name. -/
def columnTokens (path : ColumnPath) : List Token :=
  match path.parts with
  | (some table, column) => [.name table, .dot, .name column]
  | (none, column) => [.name column]

/-- A table. A dot in its name does not divide it. -/
def tableTokens (path : ColumnPath) : List Token := [.name path.text]

/-! ## What the text depends on -/

/-- The token without the value bound to it. -/
def Token.blanked : Token → Token
  | .param _ => .param .null
  | other => other

theorem renderFrom_blanked (dialect : Dialect) (number : Nat) (before : Token)
    (tokens : List Token) :
    renderFrom dialect number before.blanked (tokens.map Token.blanked)
      = renderFrom dialect number before tokens := by
  induction tokens generalizing number before with
  | nil => rfl
  | cons token rest ih =>
    simp only [List.map_cons, renderFrom, ih]
    cases before <;> cases token <;> rfl

theorem render_congr (dialect : Dialect) {a b : List Token}
    (h : a.map Token.blanked = b.map Token.blanked) : render dialect a = render dialect b := by
  have blank : ∀ tokens, render dialect (tokens.map Token.blanked) = render dialect tokens :=
    renderFrom_blanked dialect 1 .leftParen
  rw [← blank a, ← blank b, h]

/-- What differs in the values only has the same number of them. -/
theorem length_params_congr {a b : List Token}
    (h : a.map Token.blanked = b.map Token.blanked) : (params a).length = (params b).length := by
  have blank : ∀ tokens, (params (tokens.map Token.blanked)).length = (params tokens).length := by
    intro tokens
    induction tokens with
    | nil => rfl
    | cons t ts ih =>
      cases t with
      | param v => exact congrArg (· + 1) ih
      | _ => exact ih
  rw [← blank a, ← blank b, h]

theorem params_append (a b : List Token) : params (a ++ b) = params a ++ params b :=
  List.filterMap_append

/-- A token takes a number if it is a placeholder. -/
theorem Token.nextNumber (t : Token) (number : Nat) :
    (if t.param?.isSome then number + 1 else number) = number + (params [t]).length := by
  cases t <;> rfl

theorem renderFrom_append (dialect : Dialect) (number : Nat) (before : Token) (a b : List Token) :
    renderFrom dialect number before (a ++ b)
      = renderFrom dialect number before a
          ++ renderFrom dialect (number + (params a).length) (a.getLastD before) b := by
  induction a generalizing number before with
  | nil => rfl
  | cons t a ih =>
    have numbers : number + (params (t :: a)).length
        = number + (params [t]).length + (params a).length := by
      rw [← List.singleton_append, params_append, List.length_append, Nat.add_assoc]
    simp only [List.cons_append, renderFrom, Token.nextNumber, ih, List.append_assoc, numbers,
      List.getLastD_cons]

end Listings.Sql
