import Listings.Store.Database

/-!
# Orders of rows

The orders that rows may be given in, and that sorting finds one.

* `transCmp_order`, `transCmp_orderUnder`, `transCmp_orderFrames`: values, values under a direction and
  rows under keys stand in a line, where several may have the same place.
* `Arranged`: rows in an order that the keys allow.
* `arranged_sortFrames`: sorted rows are arranged.
* `Arranged.unique`: nothing else is, if no two different rows have the same place.
-/

namespace Listings.Store

open Std (TransCmp)

/-! ## Values -/

/-- Nulls come before numbers, and numbers before texts. -/
def kind : Value → Nat
  | .null => 0
  | .integer _ | .real _ => 1
  | .text _ => 2

/-- The place of a number on the number line. -/
def place : Value → Int
  | .integer n => Binary64.ofInteger n.toInt
  | .real x => x.units
  | .text _ | .null => 0

/-- The characters of a text. -/
def textOf : Value → String
  | .text s => s
  | .integer _ | .real _ | .null => ""

/-- Whole numbers have the same order on the line of binary numbers. -/
theorem compare_ofInteger (m n : Int) :
    compare (Binary64.ofInteger m) (Binary64.ofInteger n) = compare m n := by
  have scale : (0 : Int) < (1 <<< 1074 : Nat) := by decide
  rw [Int.compare_eq_ite_lt, Int.compare_eq_ite_lt]
  unfold Binary64.ofInteger
  simp only [Int.mul_lt_mul_right scale]

theorem order_eq_compareLex :
    order = compareLex (compareOn kind) (compareLex (compareOn place) (compareOn textOf)) := by
  funext a b
  cases a <;> cases b <;>
    simp [order, compareLex, compareOn, kind, place, textOf, compare_ofInteger] <;> rfl

instance transCmp_order : TransCmp order := by
  rw [order_eq_compareLex]
  infer_instance

/-- The order of values that are not null, or the opposite order. -/
def directed : Direction → Value → Value → Ordering
  | .ascending => order
  | .descending => fun a b => order b a

theorem orderUnder_eq_compareLex (direction : Direction) :
    orderUnder direction = compareLex (compareOn (· == .null)) (directed direction) := by
  funext a b
  cases direction <;> cases a <;> cases b <;> rfl

instance transCmp_orderUnder (direction : Direction) : TransCmp (orderUnder direction) := by
  have : TransCmp (directed direction) := by
    cases direction with
    | ascending => exact transCmp_order
    | descending => exact inferInstanceAs (TransCmp fun a b => order b a)
  rw [orderUnder_eq_compareLex]
  infer_instance

/-! ## Rows -/

/-- The order of two rows under a key. -/
def orderKey (key : SortKey) (a b : Frame) : Ordering :=
  orderUnder key.direction (Scope.value [a] key.column) (Scope.value [b] key.column)

instance transCmp_orderKey (key : SortKey) : TransCmp (orderKey key) where
  eq_swap := (transCmp_orderUnder key.direction).eq_swap
  isLE_trans := (transCmp_orderUnder key.direction).isLE_trans

theorem orderFrames_cons (key : SortKey) (keys : List SortKey) :
    orderFrames (key :: keys) = compareLex (orderKey key) (orderFrames keys) := rfl

/-- Rows stand in a line under keys. -/
instance transCmp_orderFrames (keys : List SortKey) : TransCmp (orderFrames keys) := by
  induction keys with
  | nil => exact { eq_swap := rfl, isLE_trans := fun _ _ => rfl }
  | cons key keys ih =>
    rw [orderFrames_cons]
    infer_instance

/-! ## Arrangements -/

/-- Rows in an order that is asked for: none comes after one that precedes it under the keys. -/
def Arranged (order : SortOrder) (frames arranged : List Frame) : Prop :=
  arranged.Perm frames ∧
    match order with
    | .random => True
    | .byKeys keys => arranged.Pairwise fun a b => orderFrames keys a b ≠ .gt

/-- No two different rows have the same place under the keys. -/
def Distinguishes (keys : List SortKey) (frames : List Frame) : Prop :=
  ∀ a ∈ frames, ∀ b ∈ frames, orderFrames keys a b = .eq → a = b

instance (keys : List SortKey) (frames : List Frame) : Decidable (Distinguishes keys frames) :=
  inferInstanceAs (Decidable (∀ a ∈ frames, ∀ b ∈ frames, orderFrames keys a b = .eq → a = b))

/-- Sorted rows are arranged. -/
theorem arranged_sortFrames (order : SortOrder) (frames : List Frame) :
    Arranged order frames (sortFrames order frames) := by
  cases order with
  | random => exact ⟨.refl _, trivial⟩
  | byKeys keys =>
    have isLE : ∀ a b, (orderFrames keys a b != .gt) = (orderFrames keys a b).isLE := fun a b => by
      cases orderFrames keys a b <;> rfl
    have trans : ∀ a b c, orderFrames keys a b != .gt → orderFrames keys b c != .gt →
        orderFrames keys a c != .gt := by
      intro a b c
      rw [isLE, isLE, isLE]
      exact TransCmp.isLE_trans
    have total : ∀ a b, orderFrames keys a b != .gt || orderFrames keys b a != .gt := by
      intro a b
      rw [(transCmp_orderFrames keys).eq_swap (a := b)]
      cases orderFrames keys a b <;> rfl
    refine ⟨List.mergeSort_perm _ _, (List.pairwise_mergeSort trans total frames).imp ?_⟩
    exact fun h => by simpa using h

/-- There is one arrangement if no two different rows have the same place. -/
theorem Arranged.unique {keys : List SortKey} {frames xs ys : List Frame}
    (distinct : Distinguishes keys frames) (hx : Arranged (.byKeys keys) frames xs)
    (hy : Arranged (.byKeys keys) frames ys) : xs = ys := by
  obtain ⟨permx, sortedx⟩ := hx
  obtain ⟨permy, sortedy⟩ := hy
  refine List.Perm.eq_of_pairwise ?_ sortedx sortedy (permx.trans permy.symm)
  intro a b ha hb hab hba
  refine distinct a (permx.mem_iff.1 ha) b (permy.mem_iff.1 hb) ?_
  rw [(transCmp_orderFrames keys).eq_swap (a := b)] at hba
  cases same : orderFrames keys a b with
  | eq => rfl
  | lt => exact absurd (by rw [same]; rfl) hba
  | gt => exact absurd same hab

/-- Where no two different rows have the same place, the sorted rows are the only arrangement. -/
theorem arranged_iff {keys : List SortKey} {frames xs : List Frame}
    (distinct : Distinguishes keys frames) :
    Arranged (.byKeys keys) frames xs ↔ xs = sortFrames (.byKeys keys) frames := by
  constructor
  · exact fun h => h.unique distinct (arranged_sortFrames _ _)
  · rintro rfl
    exact arranged_sortFrames _ _

end Listings.Store
