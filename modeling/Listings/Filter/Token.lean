import Listings.Binary64.Rounding
import Listings.Filter.Expr
import Listings.Filter.SyntaxError
import Listings.Text.Blank
import Listings.Text.Bytes
import Listings.Text.Digits
import Listings.Text.Word

/-!
# Tokens of a filter

A filter is a run of tokens with blanks between them: words, numbers, texts in quotes and symbols.

* `lexeme?`: the token text at the head of a filter and its shape.
* `Shape.decode`: what a token text of a shape stands for.
* `tokens`: the tokens of a filter, each with its text and place.
-/

namespace Listings.Filter

/-- A symbol of a filter. -/
inductive Symbol where
  | or
  | and
  | compare (c : Comparator)
  | not
  | leftParen
  | rightParen
  | comma
deriving DecidableEq

/-- What a token stands for. -/
inductive TokenKind where
  | word (w : String)
  | text (s : String)
  | number (n : Number)
  | symbol (s : Symbol)
deriving DecidableEq

/-- A token with its byte offset and its text in the filter. -/
structure Token where
  kind : TokenKind
  offset : Nat
  text : String
deriving DecidableEq

/-- The form of a token text. -/
inductive Shape where
  | number
  | word
  /-- Text in double quotes, with escapes. -/
  | quoted
  /-- Text in back quotes, taken as it stands. -/
  | raw
  | symbol (s : Symbol)
deriving DecidableEq

/-! ## Token texts -/

/-- The quote around text without escapes. -/
def backQuote : Char := '\x60'

/-- The longest run of digits at the head of a text. -/
def digitRun (cs : List Char) : List Char := cs.takeWhile Char.isDigit

/-- A point with digits after it. -/
def fractionText : List Char → List Char
  | '.' :: cs => if (digitRun cs).isEmpty then [] else '.' :: digitRun cs
  | _ => []

/-- A number without a sign: digits, and a fraction if there is one. -/
def magnitudeText? (cs : List Char) : Option (List Char) :=
  let whole := digitRun cs
  if whole.isEmpty then none else some (whole ++ fractionText (cs.drop whole.length))

/-- A number, with a minus sign directly before it if there is one. -/
def numberText? : List Char → Option (List Char)
  | '-' :: cs => (magnitudeText? cs).map ('-' :: ·)
  | cs => magnitudeText? cs

/-- A word. -/
def wordText? : List Char → Option (List Char)
  | [] => none
  | c :: cs => if Text.isWordStart c then some (c :: cs.takeWhile Text.isWordPart) else none

/-- The rest of a quoted text up to its closing quote. A backslash takes the next character with it,
but not across the end of a line. -/
def quotedRest? : List Char → Option (List Char)
  | [] => none
  | '"' :: _ => some ['"']
  | '\\' :: c :: cs => if c = '\n' then none else (quotedRest? cs).map ('\\' :: c :: ·)
  | c :: cs => if c = '\\' then none else (quotedRest? cs).map (c :: ·)

/-- The rest of a raw text up to its closing quote. -/
def rawRest? : List Char → Option (List Char)
  | [] => none
  | c :: cs => if c = backQuote then some [c] else (rawRest? cs).map (c :: ·)

/-- The symbols with their texts; of two that start alike the longer comes first. -/
def symbols : List (List Char × Symbol) :=
  [(['&', '&'], .and), (['|', '|'], .or), (['=', '='], .compare .equal),
    (['!', '='], .compare .notEqual), (['<', '='], .compare .lessEqual),
    (['>', '='], .compare .greaterEqual), (['<'], .compare .less), (['>'], .compare .greater),
    (['!'], .not), (['%'], .compare .like), (['('], .leftParen), ([')'], .rightParen),
    ([','], .comma)]

/-- The first symbol that a text starts with. -/
def symbolText? (cs : List Char) : Option (Shape × List Char) :=
  (symbols.find? fun entry => entry.1.isPrefixOf cs).map fun (text, s) => (.symbol s, text)

/-- A text in either kind of quotes. -/
def quotedText? : List Char → Option (Shape × List Char)
  | [] => none
  | c :: cs =>
    if c = '"' then (quotedRest? cs).map fun rest => (.quoted, c :: rest)
    else if c = backQuote then (rawRest? cs).map fun rest => (.raw, c :: rest)
    else none

/-- The token text at the head of a filter and its shape. -/
def lexeme? (cs : List Char) : Option (Shape × List Char) :=
  match numberText? cs with
  | some text => some (.number, text)
  | none =>
    match wordText? cs with
    | some text => some (.word, text)
    | none =>
      match quotedText? cs with
      | some quoted => some quoted
      | none => symbolText? cs

/-! ## Their meaning -/

/-- The character that an escape stands for. -/
def escaped? : Char → Option Char
  | '"' => some '"'
  | '\\' => some '\\'
  | 'n' => some '\n'
  | 'r' => some '\r'
  | 't' => some '\t'
  | _ => none

/-- The text between double quotes with its escapes replaced. There is a character after every
backslash, as otherwise the backslash would escape the closing quote. -/
def unescape : List Char → Except Cause (List Char)
  | [] => .ok []
  | '\\' :: c :: cs =>
    match escaped? c with
    | some d => (d :: ·) <$> unescape cs
    | none => .error (.unknownEscape c)
  | c :: cs => (c :: ·) <$> unescape cs

/-- The 64-bit number equal to a whole number, if there is one. -/
def int64? (n : Int) : Option Int64 :=
  if Int64.minValue.toInt ≤ n ∧ n ≤ Int64.maxValue.toInt then some (.ofInt n) else none

/-- The number that a number text stands for: binary64 when it has a point. -/
def numberOf (text : List Char) : Except Cause Number :=
  let negative := text.head? == some '-'
  let magnitude := if negative then text.drop 1 else text
  let whole := digitRun magnitude
  match magnitude.drop (whole.length + 1) with
  | [] =>
    let n : Int := Text.ofDigits whole
    match int64? (if negative then -n else n) with
    | some n => .ok (.integer n)
    | none => .error .numberOutOfRange
  | fraction =>
    .ok (.real (.ofDecimal negative (Text.ofDigits (whole ++ fraction)) fraction.length))

/-- A token text without the quotes around it. -/
def unquoted (text : List Char) : List Char := (text.drop 1).dropLast

/-- What a token text of a shape stands for. -/
def Shape.decode (shape : Shape) (text : List Char) : Except Cause TokenKind :=
  match shape with
  | .number => .number <$> numberOf text
  | .word => .ok (.word (String.ofList text))
  | .quoted => (fun s => .text (String.ofList s)) <$> unescape (unquoted text)
  | .raw => .ok (.text (String.ofList (unquoted text)))
  | .symbol s => .ok (.symbol s)

/-! ## The tokens of a filter -/

/-- A text that starts no token: a quote without a partner or a foreign character. -/
def unreadable (c : Char) : Cause :=
  if c = '"' || c = backQuote then .unterminatedText else .unexpectedCharacter c

theorem numberText?_ne_nil {cs text : List Char} (h : numberText? cs = some text) : text ≠ [] := by
  have magnitude : ∀ {cs text}, magnitudeText? cs = some text → text ≠ [] := by
    intro cs text h
    simp only [magnitudeText?] at h
    split at h
    · contradiction
    · next hne =>
      cases h
      exact fun heq => hne (by simp_all)
  unfold numberText? at h
  split at h
  · obtain ⟨t, _, rfl⟩ := Option.map_eq_some_iff.1 h
    simp
  · exact magnitude h

theorem symbol_ne_nil : ∀ entry ∈ symbols, entry.1 ≠ [] := by decide

theorem lexeme?_ne_nil {cs : List Char} {shape : Shape} {text : List Char}
    (h : lexeme? cs = some (shape, text)) : text ≠ [] := by
  unfold lexeme? at h
  split at h
  · next t ht =>
    cases h
    exact numberText?_ne_nil ht
  · split at h
    · next t ht =>
      cases h
      unfold wordText? at ht
      split at ht <;> grind
    · split at h
      · next hq =>
        cases h
        unfold quotedText? at hq
        split at hq <;> grind [Option.map_eq_some_iff]
      · obtain ⟨entry, hfind, e⟩ := Option.map_eq_some_iff.1 h
        cases e
        exact symbol_ne_nil entry (List.mem_of_find?_eq_some hfind)

/-- The tokens of a text that starts at a byte offset of the filter. -/
def tokensFrom (offset : Nat) (cs : List Char) : Except SyntaxError (List Token) :=
  let start := offset + Text.byteLength (cs.takeWhile Text.isBlank)
  match _trimmed : cs.dropWhile Text.isBlank with
  | [] => .ok []
  | c :: rest =>
    match _found : lexeme? (c :: rest) with
    | none => .error ⟨unreadable c, start, c.toString⟩
    | some (shape, text) => do
      let kind ← (shape.decode text).mapError fun cause => ⟨cause, start, String.ofList text⟩
      let others ← tokensFrom (start + Text.byteLength text) ((c :: rest).drop text.length)
      return ⟨kind, start, String.ofList text⟩ :: others
termination_by cs.length
decreasing_by
  have shorter := (List.dropWhile_suffix (l := cs) Text.isBlank).length_le
  have := List.length_pos_iff.2 (lexeme?_ne_nil _found)
  rw [_trimmed] at shorter
  simp only [List.length_drop, List.length_cons] at shorter ⊢
  omega

/-- The tokens of a filter. -/
def tokens (filter : String) : Except SyntaxError (List Token) := tokensFrom 0 filter.toList

end Listings.Filter
