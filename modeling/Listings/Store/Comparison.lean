import Listings.Filter.Operator
import Listings.Store.Truth
import Listings.Value

/-!
# Comparing stored values

Numbers compare by their exact values, whether they are whole or not; texts compare character by
character, and letters of different case are different; every number comes before every text. What is
compared with a null is unknown.

* `Value.order`: the order of values that are not null.
* `matchesPattern`: agreement with a pattern, in which ASCII letters stand for both cases.
* `holds`: the truth of a comparison.
-/

namespace Listings.Store

/-- A value as it is bound: what is not a number is null. -/
def bound : Value → Value
  | .real x => if x.isNaN then .null else .real x
  | v => v

/-- The order of two values. Nulls come first here; orders of rows put them last. -/
def order : Value → Value → Ordering
  | .null, .null => .eq
  | .null, _ => .lt
  | _, .null => .gt
  | .text a, .text b => compare a b
  | .text _, _ => .gt
  | _, .text _ => .lt
  | .integer a, .integer b => compare a.toInt b.toInt
  | .integer a, .real y => compare (Binary64.ofInteger a.toInt) y.units
  | .real x, .integer b => compare x.units (Binary64.ofInteger b.toInt)
  | .real x, .real y => compare x.units y.units

/-- A value as text. A binary number is written with the fewest digits that tell it from all others. A
store may write 15 digits at most, and then matches another text where these do not tell it. -/
def asText : Value → String
  | .text s => s
  | .integer n => toString n.toInt
  | .real x => Binary64.literal.write x
  | .null => ""

/-- Whether a text agrees with a pattern: `%` stands for any text, `_` for any character, a letter of
ASCII for both of its cases and every other character for itself. -/
def matchesPattern : (pattern text : List Char) → Bool
  | [], text => text.isEmpty
  | p :: pattern, text =>
    if p = '%' then
      (List.range (text.length + 1)).any fun n => matchesPattern pattern (text.drop n)
    else
      match text with
      | [] => false
      | c :: text => (p == '_' || p.toLower == c.toLower) && matchesPattern pattern text

/-- The comparison of two values that are not null. -/
def decides (op : Comparator) (a b : Value) : Bool :=
  match op with
  | .equal => order a b == .eq
  | .notEqual => order a b != .eq
  | .greater => order a b == .gt
  | .greaterEqual => order a b != .lt
  | .less => order a b == .lt
  | .lessEqual => order a b != .gt
  | .like => matchesPattern (asText b).toList (asText a).toList

/-- The truth of a comparison. -/
def holds (op : Comparator) (a b : Value) : Truth :=
  match bound a, bound b with
  | .null, _ | _, .null => .unknown
  | a, b => .ofBool (decides op a b)

/-- The truth of a test for null, which is never unknown. -/
def isNull (v : Value) : Truth := .ofBool (bound v == .null)

/-- Whether a value is one of several: unknown if it might be the null among them. -/
def isOneOf (v : Value) (values : List Value) : Truth :=
  .any (values.map (holds .equal v))

end Listings.Store
