import Listings.Entity.Basic
import Listings.Text.Blank
import Listings.Text.Split
import Listings.Text.Word

/-!
# Sort requests

A sort request is a list of fields with commas between them. A field has a sign before it or a
direction after a colon, or neither and is then ascending. A field called `random` asks for a random
order and wins over the others; nothing at all, like the word `default`, asks for the natural order.

* `SortRequest.parse`: what a text asks for.
* `Entity.resolveSort`: the order that a request stands for.
-/

namespace Listings

/-- A field to sort by. -/
structure SortField where
  field : String
  direction : Direction
deriving DecidableEq

/-- What a sort request asks for. -/
inductive SortRequest where
  | default
  | random
  | fields (items : List SortField)
deriving DecidableEq

/-- Why a part of a sort request cannot be read. -/
inductive SortCause where
  | unknownDirection (word : String)
  /-- A sign and a direction for one field. -/
  | twoDirections
  | notAField
  | emptyField
  /-- A random order has no direction. -/
  | directedRandom
deriving DecidableEq

/-- Why a sort request is refused. -/
inductive SortError where
  /-- A part of the request cannot be read. -/
  | malformed (cause : SortCause) (item : String)
  /-- The entity has no such field. -/
  | unknownField (field : String)
deriving DecidableEq

/-- A cause in words. -/
def SortCause.describe : SortCause → String
  | unknownDirection word => "unknown sort direction '" ++ word ++ "'"
  | twoDirections => "direction given both as prefix and as suffix"
  | notAField => "expected a field name"
  | emptyField => "empty sort field"
  | directedRandom => "'random' cannot take a direction"

/-- A reason in words. -/
def SortError.message : SortError → String
  | malformed cause item => cause.describe ++ " in '" ++ item ++ "'"
  | unknownField field => "cannot sort by unknown field '" ++ field ++ "'"

namespace SortRequest

/-- The field that asks for a random order. -/
def randomWord : String := "random"

/-- The word for the natural order. -/
def defaultWord : String := "default"

/-- What may stand before the list of fields. -/
def modeMark : List Char := ['s', 'o', 'r', 't', '=']

/-- The field name and the direction that a colon divides; without a colon there is no direction. -/
def splitDirection (item : List Char) : Except SortCause (List Char × Option Direction) :=
  match Text.splitFirst ':' item with
  | none => .ok (item, none)
  | some (field, word) =>
    let word := String.ofList (Text.trim word)
    match Direction.ofWord? word with
    | some direction => .ok (Text.trim field, some direction)
    | none => .error (.unknownDirection word)

/-- The direction that a sign gives, and what follows the sign. -/
def splitSign : List Char → Option Direction × List Char
  | '-' :: field => (some .descending, field)
  | '+' :: field => (some .ascending, field)
  | field => (none, field)

/-- A field with its direction. -/
def parseField (item : List Char) : Except SortCause SortField := do
  let (signed, suffix) ← splitDirection item
  let (sign, field) := splitSign signed
  let direction ←
    match sign, suffix with
    | some _, some _ => throw .twoDirections
    | some direction, none | none, some direction => pure direction
    | none, none => pure .ascending
  if Text.isWord field then return ⟨String.ofList field, direction⟩ else throw .notAField

/-- One part of a list: a field, or the wish for a random order. -/
def parseItem (item : List Char) : Except SortCause (Option SortField) := do
  if String.ofList item = randomWord then return none
  let field ← parseField item
  if field.field = randomWord then throw .directedRandom
  return some field

/-- One part of a list with the blanks around it; it must not be empty. The whole list is blamed for
an empty part, and a part for what else is wrong with it. -/
def parsePart (whole : List Char) (part : List Char) : Except SortError (Option SortField) :=
  let item := Text.trim part
  if item.isEmpty then .error (.malformed .emptyField (String.ofList whole))
  else (parseItem item).mapError fun cause => .malformed cause (String.ofList item)

/-- The text without the mark that may stand before it. -/
def withoutMark (cs : List Char) : List Char :=
  if modeMark.isPrefixOf cs then cs.drop modeMark.length else cs

/-- What a text asks for. -/
def parse (text : String) : Except SortError SortRequest := do
  let body := Text.trim (withoutMark (Text.trim text.toList))
  if body.isEmpty || String.ofList body = defaultWord then return .default
  let items ← (Text.splitOn ',' body).mapM (parsePart body)
  if items.contains none then return .random else return .fields (items.filterMap id)

end SortRequest

namespace Entity

/-- The key of a field. -/
def sortKey (entity : Entity) (item : SortField) : Except SortError SortKey :=
  match entity.column? item.field with
  | some column => .ok ⟨column.path, item.direction⟩
  | none => .error (.unknownField item.field)

/-- The order that a request stands for. -/
def resolveSort (entity : Entity) : SortRequest → Except SortError SortOrder
  | .default => .ok (.byKeys [entity.defaultSort])
  | .random => .ok .random
  | .fields items => .byKeys <$> items.mapM entity.sortKey

end Entity

end Listings
