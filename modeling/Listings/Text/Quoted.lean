import Listings.Text.Printable

/-!
# Quoted text

Text in double quotes, made safe to read: quotes, backslashes, line breaks, tabs and NUL have short
escapes, and a character that cannot be shown by itself is given by its code point.

* `escape`: the form of one character inside the quotes.
* `quote`: the quoted text.
-/

namespace Listings.Text

/-- A character given by its code point in lower-case hexadecimal, without leading zeros. -/
def codeEscape (c : Char) : List Char :=
  ['\\', 'u', '\x7b'] ++ Nat.toDigits 16 c.toNat ++ ['\x7d']

/-- The form of one character inside double quotes. -/
def escape (c : Char) : List Char :=
  if c = '"' then ['\\', '"']
  else if c = '\\' then ['\\', '\\']
  else if c = '\n' then ['\\', 'n']
  else if c = '\r' then ['\\', 'r']
  else if c = '\t' then ['\\', 't']
  else if c = '\x00' then ['\\', '0']
  else if standsAlone c then [c]
  else codeEscape c

/-- The text in double quotes. -/
def quote (s : String) : String :=
  String.ofList ('"' :: s.toList.flatMap escape ++ ['"'])

end Listings.Text
