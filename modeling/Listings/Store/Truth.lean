/-!
# Three truth values

A condition on a row is true, false, or unknown, which it is when it depends on a null.

* `Truth.and`, `Truth.or`, `Truth.not`: the strong logic of three values, in which a truth value is
  the lesser, the greater and the opposite of others, and `unknown` stands in the middle.
* `Truth.settled`: a truth value for a use that knows yes and no only.
-/

namespace Listings.Store

/-- The truth value of a condition. -/
inductive Truth where
  | no
  | unknown
  | yes
deriving DecidableEq

namespace Truth

/-- The truth value of what is known. -/
def ofBool (b : Bool) : Truth := if b then yes else no

/-- The lesser of two truth values. -/
def and : Truth → Truth → Truth
  | no, _ | _, no => no
  | yes, yes => yes
  | _, _ => unknown

/-- The greater of two truth values. -/
def or : Truth → Truth → Truth
  | yes, _ | _, yes => yes
  | no, no => no
  | _, _ => unknown

/-- The opposite truth value. -/
def not : Truth → Truth
  | yes => no
  | no => yes
  | unknown => unknown

/-- The opposite truth value, if `negated`. -/
def negateIf (negated : Bool) (t : Truth) : Truth := if negated then t.not else t

/-- Whether one of several holds. -/
def any (ts : List Truth) : Truth := ts.foldr or no

/-- Whether a truth value is a yes where the unknown counts as `unknownAs`. -/
def settled (unknownAs : Bool) : Truth → Bool
  | no => false
  | unknown => unknownAs
  | yes => true

@[simp] theorem not_not (t : Truth) : t.not.not = t := by cases t <;> rfl

@[simp] theorem negateIf_not (negated : Bool) (t : Truth) :
    t.negateIf (!negated) = (t.negateIf negated).not := by
  cases negated <;> cases t <;> rfl

theorem ofBool_or (a b : Bool) : (ofBool a).or (ofBool b) = ofBool (a || b) := by
  cases a <;> cases b <;> rfl

theorem and_eq_yes_iff {a b : Truth} : a.and b = yes ↔ a = yes ∧ b = yes := by
  cases a <;> cases b <;> simp [and]

theorem any_cons (t : Truth) (ts : List Truth) : any (t :: ts) = t.or (any ts) := rfl

end Truth

end Listings.Store
