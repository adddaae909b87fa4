import Listings.Text.Split
import Listings.Text.Uppercase

/-!
# Lower camel case

The name that a member has in requests: the parts between underscores put together, each one after
the first with its first character in upper case.

* `camel`: the name that members are exposed by.
-/

namespace Listings.Record

/-- The characters of a member name from some place on. `raise` says that an underscore stands
before them, and `started` that a character has been written. -/
def camelFrom (started raise : Bool) : List Char → List Char
  | [] => []
  | c :: cs =>
    if c = '_' then camelFrom started started cs
    else (if raise then Text.uppercase c else [c]) ++ camelFrom true false cs

/-- A member name in lower camel case. -/
def camel (member : String) : String := String.ofList (camelFrom false false member.toList)

end Listings.Record
