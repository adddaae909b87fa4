import Listings.Binary64.Basic

/-!
# Shortest decimals

The decimal of a binary64 number has the fewest digits among those that read back as the same
number, and is the nearest such decimal. An exact tie goes away from zero.

* `Interval`: the reals that round to a number, its ends included exactly for an even significand.
* `onGrid?`: the best multiple of a power of ten inside the interval.
* `shortest`: the first grid, from coarse to fine, that has one.
-/

namespace Listings.Binary64

/-- A positive decimal: the digits and the power of ten of the first one. -/
structure Digits where
  digits : List Char
  exponent : Int
deriving DecidableEq

/-- The reals that round to a positive number, as multiples of `1 / unit`. -/
structure Interval where
  low : Nat
  value : Nat
  high : Nat
  unit : Nat
  closed : Bool

/-- The reals that round to `x`. The lower neighbour of a power of two is only half as far away as
the upper one, except among the smallest numbers. -/
def interval (x : Binary64) : Interval :=
  let power := x.exponent - 2
  let scale := 1 <<< power.toNat
  let below := if x.fraction = 0 && 1 < x.exponentField then 1 else 2
  { low := (4 * x.significand - below) * scale
    value := 4 * x.significand * scale
    high := (4 * x.significand + 2) * scale
    unit := 1 <<< (-power).toNat
    closed := x.significand % 2 == 0 }

namespace Interval

/-- Whether `count * 10 ^ power` lies in the interval. -/
def holds (i : Interval) (power : Int) (count : Nat) : Bool :=
  let point := count * Nat.pow 10 power.toNat * i.unit
  let fit := fun end_ => end_ * Nat.pow 10 (-power).toNat
  if i.closed then fit i.low ≤ point && point ≤ fit i.high
  else fit i.low < point && point < fit i.high

/-- The multiple of `10 ^ power` in the interval that is nearest to its value; of two equally near
ones the larger. -/
def onGrid? (i : Interval) (power : Int) : Option Nat :=
  let value := i.value * Nat.pow 10 (-power).toNat
  let step := i.unit * Nat.pow 10 power.toNat
  let below := value / step
  match i.holds power below, i.holds power (below + 1) with
  | true, true => some (if step ≤ 2 * (value % step) then below + 1 else below)
  | true, false => some below
  | false, true => some (below + 1)
  | false, false => none

/-- The power of ten of the value's first digit. -/
def firstPlace (i : Interval) : Int :=
  if i.unit ≤ i.value then ((Nat.toDigits 10 (i.value / i.unit)).length : Int) - 1
  else -((Nat.toDigits 10 ((i.unit + i.value - 1) / i.value - 1)).length : Int)

end Interval

/-- A multiple of a power of ten, without the zeros at its end. -/
def digitsOf (power : Int) (count : Nat) : Digits :=
  let all := Nat.toDigits 10 count
  { digits := (all.reverse.dropWhile (· == '0')).reverse
    exponent := power + all.length - 1 }

/-- Seventeen digits tell any two binary64 numbers apart. -/
def maxDigits : Nat := 17

/-- The shortest decimal that reads back as the magnitude of `x`, which is finite and not zero. -/
def shortest (x : Binary64) : Digits :=
  let i := x.interval
  let grids := (List.range maxDigits).map fun (more : Nat) => i.firstPlace - more
  match grids.findSome? fun power => (i.onGrid? power).map (digitsOf power) with
  | some digits => digits
  | none => digitsOf (i.firstPlace - maxDigits) (i.value * Nat.pow 10 maxDigits / i.unit)

end Listings.Binary64
