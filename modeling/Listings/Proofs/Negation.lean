import Listings.Proofs.Acceptance
import Mathlib.Logic.Function.Iterate

/-!
# Negations

What is left of the negations of a filter. They are resolved from the inside: one that stands before a
test with an opposite, or before another negation, is not in the predicate.

* `Predicate.negated`: what the negations of a predicate stand before.
* `Predicate.IsNormal`: all of it is such that the negation is needed.
* `Predicate.IsNormal.negate_negate`: a predicate of this form is the opposite of its opposite.
* `Resolves.isNormal`: accepted filters are resolved to this form.
* `resolve_cancels`: any number of further negations comes to one or to none.
-/

namespace Listings

namespace Predicate

/-! ## Normal forms -/

/-- What the negations of a predicate stand before, at any depth. -/
def negated : Predicate → List Predicate
  | and left right | or left right => left.negated ++ right.negated
  | not inner => inner :: inner.negated
  | isNull _ _ | compare _ _ _ | oneOf _ _ _ | linked _ _ _ _ => []

/-- Whether the opposite of a predicate is said without a negation before it: a test that has the opposite
test beside it, or a negation, which is left out. -/
def hasOpposite : Predicate → Bool
  | isNull _ _ | oneOf _ _ _ | linked _ _ _ _ | not _ => true
  | and _ _ | or _ _ | compare _ _ _ => false

/-- Every negation of a predicate is needed. -/
def IsNormal (p : Predicate) : Prop := ∀ q ∈ p.negated, q.hasOpposite = false

variable {p q : Predicate}

theorem isNormal_and : (and p q).IsNormal ↔ p.IsNormal ∧ q.IsNormal := List.forall_mem_append

theorem isNormal_or : (or p q).IsNormal ↔ p.IsNormal ∧ q.IsNormal := List.forall_mem_append

theorem isNormal_not : (not p).IsNormal ↔ p.hasOpposite = false ∧ p.IsNormal := List.forall_mem_cons

/-- A predicate without an opposite of its own is negated by a negation before it. -/
theorem negate_of_not_hasOpposite (h : p.hasOpposite = false) : p.negate = not p := by
  cases p with
  | and | or | compare => rfl
  | _ => cases h

theorem IsNormal.negate (h : p.IsNormal) : p.negate.IsNormal := by
  cases p with
  | and | or | compare => exact isNormal_not.2 ⟨rfl, h⟩
  | not inner => exact (isNormal_not.1 h).2
  | isNull | oneOf | linked => exact h

/-- A negation that is needed is put back when it has been taken away. -/
theorem IsNormal.negate_negate (h : p.IsNormal) : p.negate.negate = p := by
  cases p with
  | and | or | compare => rfl
  | not inner => exact negate_of_not_hasOpposite (isNormal_not.1 h).1
  | isNull column negated | oneOf column values negated | linked association id members negated =>
    simp only [Predicate.negate, Bool.not_not]

/-- Of an even number of opposites nothing is left, and of an odd number one. -/
theorem IsNormal.iterate_negate (h : p.IsNormal) (n : Nat) :
    Predicate.negate^[2 * n] p = p ∧ Predicate.negate^[2 * n + 1] p = p.negate := by
  have even : Predicate.negate^[2 * n] p = p := by
    rw [Function.iterate_mul]
    exact Function.iterate_fixed h.negate_negate n
  refine ⟨even, ?_⟩
  rw [Function.iterate_succ_apply', even]

end Predicate

/-! ## What filters are resolved to -/

theorem Resolves.isNormal {entity : Entity} {e : Expr} {p : Predicate} (h : Resolves entity e p) :
    p.IsNormal := by
  induction h with
  | and _ _ ihl ihr => exact Predicate.isNormal_and.2 ⟨ihl, ihr⟩
  | or _ _ ihl ihr => exact Predicate.isNormal_or.2 ⟨ihl, ihr⟩
  | not _ ih => exact ih.negate
  | isNull | compare | member | inColumn | inTable => exact List.forall_mem_nil _

/-- Every negation before an accepted filter turns its predicate into the opposite. -/
theorem Entity.resolve_iterate_not {entity : Entity} {e : Expr} {p : Predicate}
    (h : entity.resolve e = .ok p) (n : Nat) :
    entity.resolve (Expr.not^[n] e) = .ok (Predicate.negate^[n] p) := by
  induction n with
  | zero => exact h
  | succ n ih =>
    rw [Function.iterate_succ_apply', Function.iterate_succ_apply', resolve, ih]
    rfl

/-- In the predicate of an accepted filter every negation is needed, so that it is the opposite of its
opposite; and with any number of further negations before it the filter is resolved to the same predicate
if the number is even, and to its opposite if it is odd. -/
theorem resolve_cancels {entity : Entity} (plain : entity.TestsMembership) {e : Expr} {p : Predicate}
    (h : entity.resolve e = .ok p) :
    p.IsNormal ∧ p.negate.negate = p ∧
      ∀ n, entity.resolve (Expr.not^[2 * n] e) = .ok p ∧
        entity.resolve (Expr.not^[2 * n + 1] e) = .ok p.negate := by
  have normal := ((Entity.resolve_eq_ok_iff plain).1 h).isNormal
  refine ⟨normal, normal.negate_negate, fun n => ?_⟩
  obtain ⟨even, odd⟩ := normal.iterate_negate n
  constructor
  · rw [Entity.resolve_iterate_not h, even]
  · rw [Entity.resolve_iterate_not h, odd]

namespace Catalog

/-- The filter `!(!!hasType("tv") && !(score > 8)) || !(malId == null)`. -/
def negatedTests : Expr :=
  .binary .or
    (.not (.binary .and (.not (.not (.call "hasType" [.literal (.text "tv")])))
      (.not (.binary (.compare .greater) (.name "score") (.literal (.number (.integer 8)))))))
    (.not (.binary (.compare .equal) (.name "malId") (.literal .null)))

/-- The predicate of the filter: the test for null takes its opposite, and of the two negations before the
type none is left. -/
def negatedTestsPredicate : Predicate :=
  .or
    (.not (.and (.oneOf (.required .string "media.type") [.text "tv"] false)
      (.not (.compare .greater (.optional .number "media.score") (.integer 8)))))
    (.isNull (.optional .string "media.mal_id") true)

theorem resolve_cancels_negatedTests :
    media.TestsMembership ∧ media.resolve negatedTests = .ok negatedTestsPredicate ∧
      negatedTestsPredicate.IsNormal ∧
      media.resolve (Expr.not^[6] negatedTests) = .ok negatedTestsPredicate ∧
      media.resolve (Expr.not^[7] negatedTests) = .ok (.not negatedTestsPredicate) := by
  have plain : media.TestsMembership := testsMembership_of_mem (by simp)
  have accepted : media.resolve negatedTests = .ok negatedTestsPredicate :=
    toOption_eq_some_iff.1 (by decide +kernel)
  obtain ⟨normal, -, cancels⟩ := resolve_cancels plain accepted
  obtain ⟨even, odd⟩ := cancels 3
  exact ⟨plain, accepted, normal, even, odd⟩

end Catalog

end Listings
