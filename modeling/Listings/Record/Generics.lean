import Listings.Text.Blank
import Listings.Text.Word

/-!
# Generic parameters

A type is named with the parameters of its declaration, but without what is demanded of them.

* `arguments`: the parameters by name only, lifetimes before types and constants.
-/

namespace Listings.Record.Generics

/-- The pieces between the commas that stand in no inner brackets. -/
def pieces (depth : Nat) : List Char → List (List Char)
  | [] => [[]]
  | '-' :: '>' :: cs => prepend ['-', '>'] (pieces depth cs)
  | c :: cs =>
    if c = ',' && depth = 0 then [] :: pieces depth cs
    else if "<([\x7b".contains c then prepend [c] (pieces (depth + 1) cs)
    else if ">)]\x7d".contains c then prepend [c] (pieces (depth - 1) cs)
    else prepend [c] (pieces depth cs)
where
  /-- Puts text in front of the first piece. -/
  prepend (text : List Char) : List (List Char) → List (List Char)
    | [] => [text]
    | piece :: rest => (text ++ piece) :: rest

/-- Whether a parameter is a lifetime. -/
def isLifetime (parameter : List Char) : Bool := parameter.head? == some '\''

/-- The word before the type of a constant parameter. -/
def constantMark : List Char := ['c', 'o', 'n', 's', 't', ' ']

/-- The name of a parameter, without what stands around it. -/
def name (parameter : List Char) : List Char :=
  let isPart := fun c => Text.isWordPart c || 0x7F < c.toNat && !Text.isBlank c
  if isLifetime parameter then '\'' :: (parameter.drop 1).takeWhile isPart
  else if constantMark.isPrefixOf parameter then
    (Text.trimStart (parameter.drop constantMark.length)).takeWhile isPart
  else parameter.takeWhile isPart

/-- The parameters of a declaration by name, in angle brackets; nothing where there are none. -/
def arguments (generics : String) : String :=
  let inside := ((Text.trim generics.toList).drop 1).dropLast
  let parameters := (pieces 0 inside).map Text.trim
  let present := parameters.filter (!·.isEmpty)
  if present.isEmpty then ""
  else
    let names := (present.filter isLifetime ++ present.filter (!isLifetime ·)).map name
    let trailing := if parameters.getLast? = some [] then [','] else []
    String.ofList ('<' :: [','].intercalate names ++ trailing ++ ['>'])

end Listings.Record.Generics
