/-!
# Binary floating-point numbers

A binary64 number is its 64 bits: a sign, eleven bits of exponent and 52 of fraction. Everything
about it is computed exactly from these, in whole numbers.

* `units`: the place of a number on the number line, counted in steps of `2 ^ -1074`; the infinities
  stand where the first number too large for the format would stand.
* `ofInteger`: the place of a whole number on the same line, so that whole numbers and binary
  numbers compare exactly.
-/

namespace Listings

/-- A binary64 number by its bits. -/
structure Binary64 where
  bits : UInt64
deriving DecidableEq

namespace Binary64

/-- Whether the sign bit is set. -/
def negative (x : Binary64) : Bool := 1 <<< 63 ≤ x.bits.toNat

/-- The eleven bits of the exponent. -/
def exponentField (x : Binary64) : Nat := x.bits.toNat >>> 52 % 1 <<< 11

/-- The 52 bits of the fraction. -/
def fraction (x : Binary64) : Nat := x.bits.toNat % 1 <<< 52

/-- The exponent field that infinities and NaN have. -/
def specialField : Nat := 1 <<< 11 - 1

/-- Not a number. -/
def isNaN (x : Binary64) : Bool := x.exponentField == specialField && x.fraction != 0

/-- Positive or negative infinity. -/
def isInfinite (x : Binary64) : Bool := x.exponentField == specialField && x.fraction == 0

/-- The whole number that is scaled by `2 ^ exponent`: the fraction, with its leading one except in
the smallest numbers. -/
def significand (x : Binary64) : Nat :=
  if x.exponentField = 0 then x.fraction else 1 <<< 52 + x.fraction

/-- The power of two that scales the significand. -/
def exponent (x : Binary64) : Int := (max x.exponentField 1 : Nat) - 1075

/-- The magnitude in steps of `2 ^ -1074`. -/
def magnitude (x : Binary64) : Nat := x.significand <<< (max x.exponentField 1 - 1)

/-- The place on the number line in steps of `2 ^ -1074`. -/
def units (x : Binary64) : Int := if x.negative then -x.magnitude else x.magnitude

/-- The place of a whole number on the same line. -/
def ofInteger (n : Int) : Int := n * (1 <<< 1074 : Nat)

/-- The number with a given sign and the given lower 63 bits. -/
def ofMagnitudeBits (negative : Bool) (magnitude : Nat) : Binary64 :=
  ⟨.ofNat ((if negative then 1 <<< 63 else 0) + magnitude)⟩

end Binary64

end Listings
