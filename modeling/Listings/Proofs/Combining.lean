import Listings.Proofs.Resolution
import Listings.Proofs.Restriction

/-!
# Combining predicates

A predicate grows step by step: its opposite is taken, or it becomes the left side of a conjunction or a
disjunction. Whatever the predicate is, on every row its truth value goes through the same steps.

* `PredicateStep`, `Predicate.combine`: the steps and what they make of a predicate.
* `Predicate.truth_combine`: the truth value of the outcome.
* `Divides`: a predicate and its opposite keep different rows, and neither keeps what is in doubt.
* `combine_sound`: the text of the outcome says what the steps say, and it divides all rows.
-/

namespace Listings

open Sql Store

/-! ## Steps -/

/-- A step that makes a predicate of another one. -/
inductive PredicateStep where
  | negate
  /-- The predicate is the left side of a conjunction. -/
  | and (right : Predicate)
  /-- The predicate is the left side of a disjunction. -/
  | or (right : Predicate)
deriving DecidableEq

/-- The predicate after a step. -/
def PredicateStep.apply (p : Predicate) : PredicateStep → Predicate
  | negate => p.negate
  | and right => .and p right
  | or right => .or p right

/-- The truth value after a step. -/
def PredicateStep.applyTruth (db : Database) (scope : Scope) (t : Truth) : PredicateStep → Truth
  | negate => t.not
  | and right => t.and (right.truth db scope)
  | or right => t.or (right.truth db scope)

/-- What some steps make of a predicate, one after the other. -/
def Predicate.combine (p : Predicate) (steps : List PredicateStep) : Predicate :=
  steps.foldl PredicateStep.apply p

/-- A step does to the truth value of a predicate what it does to the predicate. -/
theorem PredicateStep.truth_apply (db : Database) (scope : Scope) (p : Predicate)
    (step : PredicateStep) :
    (step.apply p).truth db scope = step.applyTruth db scope (p.truth db scope) := by
  cases step with
  | negate => exact p.truth_negate db scope
  | and right | or right => rfl

theorem Predicate.truth_combine (db : Database) (scope : Scope) (p : Predicate)
    (steps : List PredicateStep) :
    (p.combine steps).truth db scope
      = steps.foldl (PredicateStep.applyTruth db scope) (p.truth db scope) := by
  induction steps generalizing p with
  | nil => rfl
  | cons step steps ih =>
    rw [List.foldl_cons, ← step.truth_apply]
    exact ih (step.apply p)

/-! ## Rows -/

/-- The rows that a statement for a filter keeps are those without a filter of which the filter is
true. -/
theorem matching_some (db : Database) (base : BaseQuery) (p : Predicate) (projection : Projection) :
    db.matching (base.select (some p) projection)
      = (db.matching (base.select none projection)).filter fun frame => p.truth db [frame] = .yes := by
  have keeps (filter : Option Predicate) :=
    (((requires_toList base.restriction).conjoin (requires_toList filter)).keeps
      (s := ⟨base.select filter projection, .sqlite⟩) ⟨rfl, rfl⟩ rfl).matching db
  rw [keeps (some p), keeps none, List.filter_filter]
  refine List.filter_congr fun frame _ => ?_
  rw [← Bool.decide_and]
  exact decide_eq_decide.2 (by simp [and_comm, or_imp, forall_and])

/-- The rows without a filter are divided in three: those that a predicate keeps, those that its opposite
keeps, and those of which it is unknown. -/
structure Divides (db : Database) (p : Predicate) (rows : Option Predicate → List Frame) : Prop where
  kept : ∀ frame, frame ∈ rows (some p) ↔ frame ∈ rows none ∧ p.truth db [frame] = .yes
  opposite : ∀ frame, frame ∈ rows (some p.negate) ↔ frame ∈ rows none ∧ p.truth db [frame] = .no
  not_both : ∀ frame, ¬(frame ∈ rows (some p) ∧ frame ∈ rows (some p.negate))
  neither_iff : ∀ frame ∈ rows none,
    (frame ∉ rows (some p) ∧ frame ∉ rows (some p.negate)) ↔ p.truth db [frame] = .unknown
  /-- Each row is there as often as before. -/
  perm : (rows none).Perm
    (rows (some p) ++ rows (some p.negate)
      ++ (rows none).filter fun frame => p.truth db [frame] = .unknown)

/-- What is true, false or unknown makes up all. -/
theorem perm_filter_truth {α : Type} (truth : α → Truth) (items : List α) :
    items.Perm (items.filter (truth · = .yes) ++ items.filter (truth · = .no)
      ++ items.filter (truth · = .unknown)) := by
  induction items with
  | nil => exact .refl _
  | cons item items ih =>
    cases value : truth item with
    | yes => simpa [value] using ih
    | no =>
      have later := (ih.cons item).trans (List.perm_middle.symm.append_right _)
      simpa [value] using later
    | unknown =>
      have last := (ih.cons item).trans List.perm_middle.symm
      simpa [value] using last

/-- Rows that are filtered by the truth of a filter are divided by every predicate. -/
theorem divides_of_filter {db : Database} {rows : Option Predicate → List Frame}
    (h : ∀ p, rows (some p) = (rows none).filter fun frame => p.truth db [frame] = .yes)
    (p : Predicate) : Divides db p rows := by
  have rejected : rows (some p.negate)
      = (rows none).filter fun frame => p.truth db [frame] = .no := by
    rw [h]
    refine List.filter_congr fun frame _ => decide_eq_decide.2 ?_
    rw [p.truth_negate]
    cases p.truth db [frame] <;> decide
  have kept (frame : Frame) :
      frame ∈ rows (some p) ↔ frame ∈ rows none ∧ p.truth db [frame] = .yes := by
    rw [h, List.mem_filter, decide_eq_true_iff]
  have opposite (frame : Frame) :
      frame ∈ rows (some p.negate) ↔ frame ∈ rows none ∧ p.truth db [frame] = .no := by
    rw [rejected, List.mem_filter, decide_eq_true_iff]
  refine ⟨kept, opposite, fun frame => ?_, fun frame mem => ?_, ?_⟩
  · rw [kept, opposite]
    rintro ⟨⟨-, yes⟩, -, no⟩
    rw [yes] at no
    cases no
  · rw [kept, opposite, and_iff_right mem, and_iff_right mem]
    cases p.truth db [frame] <;> decide
  · rw [h p, rejected]
    exact perm_filter_truth _ _

/-! ## The text of the outcome -/

/-- A condition is read from the text of a predicate in a statement with `earlier` values bound before
it and `later` values after it. -/
def Predicate.ReadsAs (p : Predicate) (dialect : Dialect) (earlier later : List Value)
    (c : Condition) : Prop :=
  ReadsText (earlier ++ params p.condition.tokens ++ later) earlier.length
    (p.whereText dialect earlier.length) c

/-- Whatever steps are taken from a predicate, the text of the outcome in a statement has one reading, and
on every row this has the truth value that the same steps make of the truth value of the predicate. So
the outcome divides the rows of every base query: its opposite keeps none of the rows that it keeps, and
neither of them keeps those of which it is unknown. -/
theorem combine_sound (p : Predicate) (steps : List PredicateStep) :
    (∀ dialect earlier later, ∃ c,
      (∀ c', (p.combine steps).ReadsAs dialect earlier later c' ↔ c' = c) ∧
      ∀ db scope, truth db scope c
        = steps.foldl (PredicateStep.applyTruth db scope) (p.truth db scope)) ∧
    ∀ (base : BaseQuery) (order : SortOrder) (request : PageRequest) (dialect : Dialect)
      (db : Database),
      let s := fun filter => statements base filter order request dialect
      Divides db (p.combine steps) (fun filter => db.matching (s filter).count.select) ∧
      Divides db (p.combine steps) (fun filter => db.matching (s filter).page.select) := by
  refine ⟨fun dialect earlier later => ⟨(p.combine steps).condition, ?_, fun db scope => ?_⟩, ?_⟩
  · exact fun c' => readsText_iff dialect _ earlier later _ c'
  · rw [truth_condition, p.truth_combine]
  · intro base order request dialect db s
    exact ⟨divides_of_filter (fun q => matching_some db base q .count) _,
      divides_of_filter (fun q => matching_some db base q base.projection) _⟩

end Listings
