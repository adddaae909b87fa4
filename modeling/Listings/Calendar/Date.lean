import Listings.Text.Blank
import Listings.Text.Digits

/-!
# Calendar dates

Days of the Gregorian calendar, extended to all years; year 0 exists and is a leap year.

* `Date`: a year, a month and a day that exist together.
* `Date.parse?`: a date read from year, month and day with hyphens between them.
* `Date.write`: its normal form, in which a year of four digits has no sign.
-/

namespace Listings

namespace Calendar

/-- Every fourth year is a leap year, but of the centuries only every fourth. -/
def isLeapYear (year : Int) : Bool := year % 4 == 0 && (year % 100 != 0 || year % 400 == 0)

/-- The number of days of a month; none for a number that is no month. -/
def daysInMonth (year : Int) (month : Nat) : Nat :=
  match month with
  | 2 => if isLeapYear year then 29 else 28
  | 4 | 6 | 9 | 11 => 30
  | 1 | 3 | 5 | 7 | 8 | 10 | 12 => 31
  | _ => 0

/-- The years that a date may have. -/
def firstYear : Int := -262143

@[inherit_doc firstYear]
def lastYear : Int := 262142

end Calendar

/-- A day of the calendar. -/
structure Date where
  year : Int
  month : Nat
  day : Nat
  year_mem : Calendar.firstYear ≤ year ∧ year ≤ Calendar.lastYear
  day_mem : 1 ≤ day ∧ day ≤ Calendar.daysInMonth year month
deriving DecidableEq

namespace Date

/-- The date with the given parts, if there is such a day. -/
def ofParts? (year : Int) (month day : Nat) : Option Date :=
  if hy : Calendar.firstYear ≤ year ∧ year ≤ Calendar.lastYear then
    if hd : 1 ≤ day ∧ day ≤ Calendar.daysInMonth year month then some ⟨year, month, day, hy, hd⟩
    else none
  else none

/-! ## Reading -/

/-- The number at the head of a text, given by its digits; there must be one. -/
def takeNumber? (cs : List Char) : Option (Nat × List Char) :=
  let digits := cs.takeWhile Char.isDigit
  if digits.isEmpty then none else some (Text.ofDigits digits, cs.dropWhile Char.isDigit)

/-- The number at the head of a text, of at most `width` digits; there must be one. -/
def takeShort? (width : Nat) (cs : List Char) : Option (Nat × List Char) :=
  let digits := (cs.take width).takeWhile Char.isDigit
  if digits.isEmpty then none else some (Text.ofDigits digits, cs.drop digits.length)

/-- A year: any number of digits after a sign, at most four without one. -/
def takeYear? : List Char → Option (Int × List Char)
  | '-' :: cs => (takeNumber? cs).map fun (n, rest) => (-n, rest)
  | '+' :: cs => (takeNumber? cs).map fun (n, rest) => (n, rest)
  | cs => (takeShort? 4 cs).map fun (n, rest) => (n, rest)

/-- What follows a hyphen. -/
def afterHyphen? : List Char → Option (List Char)
  | '-' :: cs => some cs
  | _ => none

/-- The date that a text gives as year, month and day. Blanks may stand before each number, and
nothing may follow the day. -/
def parse? (text : String) : Option Date := do
  let (year, rest) ← takeYear? (Text.trimStart text.toList)
  let rest ← afterHyphen? rest
  let (month, rest) ← takeShort? 2 (Text.trimStart rest)
  let rest ← afterHyphen? rest
  let (day, rest) ← takeShort? 2 (Text.trimStart rest)
  if rest.isEmpty then ofParts? year month day else none

/-! ## Writing -/

/-- A year of at most four digits without a sign, any other with one. -/
def writeYear (year : Int) : List Char :=
  if 0 ≤ year && year ≤ 9999 then Text.padded 4 year.toNat
  else (if year < 0 then '-' else '+') :: Text.padded 4 year.natAbs

/-- The normal form of a date. -/
def write (date : Date) : String :=
  String.ofList (writeYear date.year ++ '-' :: Text.padded 2 date.month ++ '-' :: Text.padded 2 date.day)

end Date

end Listings
