import Listings.Binary64.Written
import Listings.Text.Quoted

/-!
# Values

What is compared with a column and bound to a placeholder of a statement.
-/

namespace Listings

/-- A value bound to a statement. -/
inductive Value where
  | text (s : String)
  | integer (n : Int64)
  | real (x : Binary64)
  | null
deriving DecidableEq

/-- A value as it is shown, and as it is matched with a pattern when it is not text itself: text in
quotes, a whole number without a point. -/
def Value.write : Value → String
  | .text s => Text.quote s
  | .integer n => toString n.toInt
  | .real x => Binary64.plain.write x
  | .null => "null"

end Listings
