import Listings.Filter.Run
import Listings.Filter.Token
import Listings.Text.Slice

/-!
# Scanning in place

The tokens of a filter can be found by an offset that goes over the bytes of the filter, while slices are
taken of it and of the texts of quoted tokens.

* `Slice`: a slice that is taken.
* `scanFrom`: the tokens from an offset on, a token in every round.
* `scan`: the tokens of a filter.
-/

namespace Listings.Filter

/-- A slice that is taken while tokens are found. -/
inductive Slice where
  /-- What is left of the filter from an offset on; every round begins with it. -/
  | rest (offset : Nat)
  /-- What stands between the quotes of the text of a token. -/
  | body (text : String)
deriving DecidableEq

namespace Slice

/-- The text that a slice is taken of. -/
def whole (filter : String) : Slice → String
  | rest _ => filter
  | body text => text

/-- The byte that a slice starts at. -/
def start : Slice → Nat
  | rest offset => offset
  | body _ => 1

/-- The byte that a slice ends at. -/
def finish (filter : String) : Slice → Nat
  | rest _ => filter.utf8ByteSize
  | body text => text.utf8ByteSize - 1

/-- The offset of the round that begins with a slice. -/
def round? : Slice → Option Nat
  | rest offset => some offset
  | body _ => none

/-- Takes a slice. -/
def take (filter : String) (slice : Slice) : Run Slice (List Char) where
  passed := [slice]
  outcome :=
    match Text.slice? slice.start (slice.finish filter) (slice.whole filter).toList with
    | some piece => .ok piece
    | none => .error .outside

end Slice

/-- What the text of a token stands for; what is in quotes is taken out of them. -/
def decodeInPlace (filter : String) (shape : Shape) (text : String) (offset : Nat) :
    Run Slice TokenKind :=
  let refuse : Cause → SyntaxError := fun cause => ⟨cause, offset, text⟩
  match shape with
  | .quoted => do
    let body ← Slice.take filter (.body text)
    let s ← Run.ofExcept ((unescape body).mapError refuse)
    return .text (String.ofList s)
  | .raw => do
    let body ← Slice.take filter (.body text)
    return .text (String.ofList body)
  | shape => Run.ofExcept ((shape.decode text.toList).mapError refuse)

/-- The tokens from an offset on. -/
def scanFrom (filter : String) : Nat → Nat → Run Slice (List Token)
  | 0, _ => .stop .tooManyRounds
  | rounds + 1, offset => do
    let rest ← Slice.take filter (.rest offset)
    let trimmed := Text.trimStart rest
    let offset := offset + (Text.byteLength rest - Text.byteLength trimmed)
    match trimmed with
    | [] => return []
    | c :: _ =>
      match lexeme? trimmed with
      | none => .stop (.refused ⟨unreadable c, offset, c.toString⟩)
      | some (shape, text) => do
        let text := String.ofList text
        let kind ← decodeInPlace filter shape text offset
        let others ← scanFrom filter rounds (offset + text.utf8ByteSize)
        return ⟨kind, offset, text⟩ :: others

/-- The tokens of a filter. Every token takes a byte of it at least, and in the last round there is none. -/
def scan (filter : String) : Run Slice (List Token) := scanFrom filter (filter.utf8ByteSize + 1) 0

end Listings.Filter
