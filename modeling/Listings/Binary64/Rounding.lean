import Listings.Binary64.Basic

/-!
# Rounding to binary64

A positive fraction is rounded to the nearest binary64 number, and a tie goes to the even
significand. What is too large becomes infinity, what is too small zero.

* `roundHalfEven`: the whole number nearest to a fraction.
* `ofRatio`: the binary64 number nearest to a fraction.
* `ofDecimal`: the binary64 number nearest to a decimal.
-/

namespace Listings

/-- The whole number nearest to `num / den`; a half goes to the even neighbour. -/
def roundHalfEven (num den : Nat) : Nat :=
  let below := num / den
  let twice := 2 * (num % den)
  if twice < den then below
  else if den < twice then below + 1
  else below + below % 2

namespace Binary64

/-- The greatest power of two that is at most `num / den`, for positive `num` and `den`. -/
def floorLog2 (num den : Nat) : Int :=
  let guess : Int := num.log2 - den.log2
  if den <<< guess.toNat ≤ num <<< (-guess).toNat then guess else guess - 1

/-- The binary64 number nearest to `num / den` with the given sign. -/
def ofRatio (negative : Bool) (num den : Nat) : Binary64 :=
  if num = 0 then ofMagnitudeBits negative 0
  else
    let exponent := max (floorLog2 num den - 52) (-1074)
    let rounded := roundHalfEven (num <<< (-exponent).toNat) (den <<< exponent.toNat)
    let magnitude := (exponent + 1074).toNat <<< 52 + rounded
    ofMagnitudeBits negative (min magnitude (specialField <<< 52))

/-- The binary64 number nearest to `digits / 10 ^ places` with the given sign. -/
def ofDecimal (negative : Bool) (digits places : Nat) : Binary64 :=
  ofRatio negative digits (Nat.pow 10 places)

end Binary64

end Listings
