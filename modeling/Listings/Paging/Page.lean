/-!
# Pages

Which page of a listing is asked for, and what a listing says about its pages.

* `totalPages`: the number of pages that hold an item.
* `PageRequest.offset`: how many items stand before a page.
* `PageRequest.toInt_offset`: that number in exact arithmetic.
-/

namespace Listings

/-- The page that is asked for, counted from 0. A page without a positive size holds everything. -/
structure PageRequest where
  page : Int64
  perPage : Int64
deriving DecidableEq

/-- The number of pages: the last one may be partly filled. -/
def totalPages (perPage totalItems : Int64) : Int64 :=
  if 0 < perPage then totalItems / perPage + (if totalItems % perPage ≠ 0 then 1 else 0)
  else if 0 < totalItems then 1
  else 0

/-- The product of two numbers, or the number of 64 bits that is nearest to it. -/
def saturatingMul (a b : Int64) : Int64 :=
  .ofInt (max Int64.minValue.toInt (min (a.toInt * b.toInt) Int64.maxValue.toInt))

/-- The number of items before a page, which is never negative. -/
def PageRequest.offset (request : PageRequest) : Int64 :=
  let product := saturatingMul request.page request.perPage
  if product < 0 then 0 else product

theorem toInt_saturatingMul (a b : Int64) :
    (saturatingMul a b).toInt
      = max Int64.minValue.toInt (min (a.toInt * b.toInt) Int64.maxValue.toInt) := by
  have least : Int64.minValue.toInt = -9223372036854775808 := by decide
  have greatest : Int64.maxValue.toInt = 9223372036854775807 := by decide
  have size : (Int64.size : Int) = 18446744073709551616 := rfl
  unfold saturatingMul
  rw [Int64.toInt_ofInt, Int.bmod_eq_of_le] <;> omega

/-- The number of items before a page is the exact product, kept from 0 to the greatest number. -/
theorem PageRequest.toInt_offset (request : PageRequest) :
    request.offset.toInt
      = max 0 (min (request.page.toInt * request.perPage.toInt) Int64.maxValue.toInt) := by
  have least : Int64.minValue.toInt = -9223372036854775808 := by decide
  have greatest : Int64.maxValue.toInt = 9223372036854775807 := by decide
  have product := toInt_saturatingMul request.page request.perPage
  simp only [offset, Int64.lt_iff_toInt_lt, Int64.toInt_zero]
  split
  · rw [Int64.toInt_zero]; omega
  · omega

/-- What a listing says about its pages. -/
structure Page where
  page : Int64
  perPage : Int64
  totalItems : Int64
  totalPages : Int64
deriving DecidableEq

namespace Page

/-- What a listing with a number of items says about a page. -/
def ofCount (request : PageRequest) (totalItems : Int64) : Page :=
  { page := request.page
    perPage := request.perPage
    totalItems
    totalPages := Listings.totalPages request.perPage totalItems }

/-- One member of a JSON object. -/
def jsonMember (name : String) (value : Int64) : String :=
  "\"" ++ name ++ "\":" ++ toString value.toInt

/-- The page as JSON without blanks, members in alphabetical order. -/
def toJson (p : Page) : String :=
  "\x7b" ++ ",".intercalate
    [jsonMember "page" p.page, jsonMember "perPage" p.perPage,
      jsonMember "totalItems" p.totalItems, jsonMember "totalPages" p.totalPages] ++ "\x7d"

end Page

end Listings
