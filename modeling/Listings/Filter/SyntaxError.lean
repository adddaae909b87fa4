/-!
# Syntax errors

A filter that cannot be read is refused with the cause, the place and the text that stands there.
Places are byte offsets into the UTF-8 form of the filter; at the end of the filter the text is
empty.
-/

namespace Listings.Filter

/-- What would have been accepted at a place. -/
inductive Expectation where
  | closingParen
  | commaOrClosingParen
  | endOfFilter
deriving DecidableEq

/-- Why a filter cannot be read. Three things are not among the causes because no token text is such: a
backslash at the end of a text in quotes, a number text that stands for no number, and a symbol text
that is no symbol. -/
inductive Cause where
  /-- No token starts with this character. -/
  | unexpectedCharacter (c : Char)
  /-- A quotation mark without a partner. -/
  | unterminatedText
  /-- A whole number that is no 64-bit number. -/
  | numberOutOfRange
  /-- A backslash before a character that has no escape. -/
  | unknownEscape (c : Char)
  /-- A token that cannot start an expression. -/
  | unexpected
  /-- Something else would have had to follow. -/
  | expected (what : Expectation)
  /-- A comparison of a comparison. -/
  | chainedComparison
  /-- More levels than a filter may have. -/
  | tooDeep
deriving DecidableEq

/-- Why and where a filter cannot be read. -/
structure SyntaxError where
  cause : Cause
  position : Nat
  text : String
deriving DecidableEq

/-- What would have been accepted, in words. -/
def Expectation.describe : Expectation → String
  | .closingParen => "')'"
  | .commaOrClosingParen => "',' or ')'"
  | .endOfFilter => "end of filter"

namespace SyntaxError

/-- What was found instead: the text, or the end of the filter. -/
def found (e : SyntaxError) : String :=
  if e.text.isEmpty then "end of filter" else "'" ++ e.text ++ "'"

/-- The cause in words. -/
def detail (e : SyntaxError) : String :=
  match e.cause with
  | .unexpectedCharacter c => "unexpected character '" ++ c.toString ++ "'"
  | .unterminatedText => "unterminated string"
  | .numberOutOfRange => "number '" ++ e.text ++ "' is out of range"
  | .unknownEscape c => "unknown escape '\\" ++ c.toString ++ "' in string"
  | .unexpected => "unexpected " ++ e.found
  | .expected what => "expected " ++ what.describe ++ ", found " ++ e.found
  | .chainedComparison => "comparisons cannot be chained, use '&&' or parentheses"
  | .tooDeep => "filter is nested too deeply"

/-- The cause and the place in words. -/
def message (e : SyntaxError) : String :=
  e.detail ++ " at position " ++ toString e.position

end SyntaxError

end Listings.Filter
