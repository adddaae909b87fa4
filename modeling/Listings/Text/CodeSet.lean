/-!
# Sets of characters as ranges of code points

Character properties are given as tables of ranges.

* `CodeSet.contains`: a character belongs to the set when some range holds its code point.
-/

namespace Listings.Text

/-- A set of characters: inclusive ranges of code points. -/
abbrev CodeSet := List (Nat × Nat)

namespace CodeSet

/-- A character belongs to the set when some range holds its code point. -/
def contains (set : CodeSet) (c : Char) : Bool :=
  set.any fun range => range.1 ≤ c.toNat && c.toNat ≤ range.2

end CodeSet

end Listings.Text
