import Listings.Binary64.Shortest

/-!
# Numbers as text

How a binary64 number is written, given its shortest digits.

* `Style`: what one way of writing decides.
* `literal`: as a number with a point, in powers of ten when very large or very small.
* `plain`: never in powers of ten, and without a point when it is whole.
-/

namespace Listings.Binary64

/-- What a way of writing numbers decides. -/
structure Style where
  /-- Whole numbers are written with a point and a zero. -/
  keepPoint : Bool
  /-- Powers of ten of the first digit that are written out in full. -/
  positional : Int → Bool

/-- Whole numbers keep their point, and powers of ten below `10 ^ -4` or from `10 ^ 16` on are
written with an exponent. -/
def literal : Style := ⟨true, fun exponent => -5 < exponent && exponent < 16⟩

/-- Every number is written in full, and whole numbers have no point. -/
def plain : Style := ⟨false, fun _ => true⟩

namespace Style

/-- A decimal written out in full. -/
def writePositional (style : Style) (d : Digits) : List Char :=
  let point := if style.keepPoint then ['.', '0'] else []
  if d.exponent < 0 then
    ['0', '.'] ++ List.replicate ((-d.exponent).toNat - 1) '0' ++ d.digits
  else
    let whole := d.exponent.toNat + 1
    if d.digits.length ≤ whole then
      d.digits ++ List.replicate (whole - d.digits.length) '0' ++ point
    else d.digits.take whole ++ ['.'] ++ d.digits.drop whole

/-- A decimal with one digit before the point and a power of ten. -/
def writeScientific (d : Digits) : List Char :=
  let rest := d.digits.drop 1
  d.digits.take 1 ++ (if rest.isEmpty then [] else '.' :: rest) ++ 'e' :: (toString d.exponent).toList

/-- The magnitude of a finite number. -/
def writeFinite (style : Style) (x : Binary64) : List Char :=
  if x.significand = 0 then '0' :: (if style.keepPoint then ['.', '0'] else [])
  else
    let d := x.shortest
    if style.positional d.exponent then style.writePositional d else writeScientific d

/-- The text of a number. -/
def write (style : Style) (x : Binary64) : String :=
  if x.isNaN then "NaN"
  else
    let sign := if x.negative then ['-'] else []
    String.ofList (sign ++ if x.isInfinite then ['i', 'n', 'f'] else style.writeFinite x)

end Style

end Listings.Binary64
