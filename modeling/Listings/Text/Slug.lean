import Listings.Text.Transliteration

/-!
# Slugs

A slug is the stored form of a display name: its ASCII spelling in lower case, with one hyphen in the
place of every stretch of characters that are neither letters nor digits, and none at the ends.

* `hyphenate`: one hyphen for every stretch of other characters.
* `stripHyphens`: a text without the hyphens at both ends.
* `slug`: the slug of a name, and `slugBy` in any transliteration.
-/

namespace Listings.Text

/-- A lower-case ASCII letter or digit. -/
def isSlugChar (c : Char) : Bool := c.isLower || c.isDigit

/-- The characters of slugs, and one hyphen for every stretch of others. `inside` says that such a
stretch has begun before the text. -/
def hyphenate (inside : Bool) : List Char → List Char
  | [] => []
  | c :: cs =>
    if isSlugChar c then c :: hyphenate false cs
    else if inside then hyphenate true cs
    else '-' :: hyphenate true cs

/-- The text without the hyphens at both ends. -/
def stripHyphens (cs : List Char) : List Char :=
  ((cs.dropWhile (· == '-')).reverse.dropWhile (· == '-')).reverse

/-- A name as it is spelled before it becomes a slug. -/
def spelledName (t : Transliteration) (name : String) : List Char :=
  (t.spell name.toList).map Char.toLower

/-- The slug of a name in a transliteration: empty when nothing of the name can be spelled. -/
def slugBy (t : Transliteration) (name : String) : String :=
  String.ofList (stripHyphens (hyphenate false (spelledName t name)))

/-- The slug of a name. -/
def slug (name : String) : String := slugBy .listed name

end Listings.Text
