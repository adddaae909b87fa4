import Listings.Text.Blank
import Listings.Text.Digits
import Listings.Text.Word

/-!
# Tokens of an attribute

The text of an attribute, cut into words, texts, other constants and single symbols.

* `tokens`: the tokens of an attribute.
-/

namespace Listings.Record

/-- A token of an attribute. -/
inductive Token where
  | word (w : String)
  /-- A string constant, given by its value. -/
  | text (s : String)
  | symbol (c : Char)
  /-- A constant that is no string. -/
  | constant
deriving DecidableEq

/-- A character that may start a word. -/
def startsWord (c : Char) : Bool := Text.isWordStart c || 0x7F < c.toNat && !Text.isBlank c

/-- A character that may stand in a word. -/
def inWord (c : Char) : Bool := Text.isWordPart c || 0x7F < c.toNat && !Text.isBlank c

/-! ## Text constants -/

/-- The number that hexadecimal digits stand for; underscores between them are ignored. -/
def ofHex (digits : List Char) : Nat :=
  (digits.filter (· != '_')).foldl
    (fun n c =>
      16 * n + (if c.isDigit then c.toNat - '0'.toNat else c.toLower.toNat - 'a'.toNat + 10)) 0

/-- The character that a short escape stands for. -/
def escaped? : Char → Option Char
  | 'n' => some '\n'
  | 'r' => some '\r'
  | 't' => some '\t'
  | '\\' => some '\\'
  | '0' => some '\x00'
  | '\'' => some '\''
  | '"' => some '"'
  | _ => none

/-- The code point given in braces, and the text after it. -/
def codePoint (cs : List Char) : Char × List Char :=
  let isEnd := fun c => c == '\x7d'
  let digits := (cs.drop 1).takeWhile (!isEnd ·)
  (Char.ofNat (ofHex digits), cs.drop (digits.length + 2))

/-- The value of a text constant after its opening quote, and what follows its closing quote. A
backslash at the end of a line takes the blanks after it with it. -/
def quotedText (cs : List Char) : List Char × List Char :=
  go cs.length cs
where
  /-- A text takes no more steps than it has characters. -/
  go : Nat → List Char → List Char × List Char
    | 0, cs => ([], cs)
    | _, [] => ([], [])
    | steps + 1, '\\' :: c :: cs =>
      match escaped? c with
      | some d => prepend d (go steps cs)
      | none =>
        if c = 'x' then prepend (Char.ofNat (ofHex (cs.take 2))) (go steps (cs.drop 2))
        else if c = 'u' then prepend (codePoint cs).1 (go steps (codePoint cs).2)
        else go steps (cs.dropWhile Text.isBlank)
    | steps + 1, c :: cs => if c = '"' then ([], cs) else prepend c (go steps cs)
  /-- One more character of the value. -/
  prepend (c : Char) : List Char × List Char → List Char × List Char
    | (value, rest) => (c :: value, rest)

/-- The value of a raw text after its opening quote, and what follows the closing quote with its
hashes. -/
def rawText (hashes : Nat) : List Char → List Char × List Char
  | [] => ([], [])
  | c :: cs =>
    if c = '"' && (List.replicate hashes '#').isPrefixOf cs then ([], cs.drop hashes)
    else
      let (value, rest) := rawText hashes cs
      (c :: value, rest)

/-! ## Tokens -/

/-- A word with its marks, and what follows: a quote directly after the marks `r`, `b`, `c`, `br` or
`cr` begins a constant, and `r#` before a word makes it a raw name. -/
def wordToken (cs : List Char) : Token × List Char :=
  let w := cs.takeWhile inWord
  let rest := cs.dropWhile inWord
  let mark := String.ofList w
  let hashes := (rest.takeWhile (· == '#')).length
  let afterHashes := rest.drop hashes
  let afterQuote := afterHashes.drop 1
  if afterHashes.head? = some '"' && (mark = "r" || mark = "br" || mark = "cr") then
    let (value, rest) := rawText hashes afterQuote
    (if mark = "r" then .text (String.ofList value) else .constant, rest.dropWhile inWord)
  else if rest.head? = some '"' && (mark = "b" || mark = "c") then
    (.constant, (quotedText (rest.drop 1)).2.dropWhile inWord)
  else if mark = "r" && hashes = 1 && (afterHashes.head?.map startsWord).getD false then
    (.word (String.ofList ('r' :: '#' :: afterHashes.takeWhile inWord)), afterHashes.dropWhile inWord)
  else (.word mark, rest)

/-- A character constant after its opening quote, if it is one and not the name of a lifetime: what
follows its closing quote. -/
def afterCharacter? : List Char → Option (List Char)
  | '\\' :: _ :: cs =>
    let rest := cs.dropWhile (· != '\'')
    if rest.isEmpty then none else some (rest.drop 1)
  | _ :: '\'' :: cs => some cs
  | _ => none

/-- The token at the head of a text, and what follows it. -/
def token (c : Char) (cs : List Char) : Token × List Char :=
  if c = '"' then
    let (value, rest) := quotedText cs
    (.text (String.ofList value), rest.dropWhile inWord)
  else if startsWord c then wordToken (c :: cs)
  else if c.isDigit then (.constant, cs.dropWhile fun d => inWord d || d == '.')
  else if c = '\'' then
    match afterCharacter? cs with
    | some rest => (.constant, rest)
    | none => (.symbol c, cs)
  else (.symbol c, cs)

/-- The tokens of a text, in no more steps than it has characters. -/
def tokensFrom : Nat → List Char → List Token
  | 0, _ => []
  | steps + 1, cs =>
    match cs.dropWhile Text.isBlank with
    | [] => []
    | c :: rest =>
      let (t, rest) := token c rest
      t :: tokensFrom steps rest

/-- The tokens of an attribute. -/
def tokens (text : String) : List Token := tokensFrom text.toList.length text.toList

end Listings.Record
