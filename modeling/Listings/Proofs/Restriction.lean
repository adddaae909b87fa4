import Listings.Paging.BaseQuery
import Listings.Proofs.Clause

/-!
# Restrictions

What a base query demands of every row, and that no filter gets round it.

* `BaseQuery.build`: the base query that some steps build.
* `Requires`: a predicate demands what several predicates demand together.
* `requires_build`: what a built base query requires are the restrictions among its steps.
* `statements_keep_required`: both statements of a request keep the joined rows of which the
  restrictions and the filter are true.
-/

namespace Listings

open Sql Store

/-! ## Building a base query -/

/-- A step that builds a base query. -/
inductive BaseStep where
  | columns (paths : List ColumnPath)
  | leftJoin (table : ColumnPath) (on : List JoinTerm)
  | restrict (p : Predicate)
deriving DecidableEq

/-- The base query after a step. -/
def BaseQuery.step (base : BaseQuery) : BaseStep → BaseQuery
  | .columns paths => base.columns paths
  | .leftJoin table on => base.leftJoin table on
  | .restrict p => base.restrict p

/-- The base query of a table that some steps build. -/
def BaseQuery.build (table : ColumnPath) (steps : List BaseStep) : BaseQuery :=
  steps.foldl BaseQuery.step { table }

/-- The restriction that a step adds. -/
def BaseStep.restriction? : BaseStep → Option Predicate
  | restrict p => some p
  | columns _ | leftJoin .. => none

/-- The restrictions among some steps. -/
def restrictions (steps : List BaseStep) : List Predicate := steps.filterMap BaseStep.restriction?

/-! ## What is required of a row -/

/-- A predicate that may be missing is true of the rows of which some predicates are all true. It is
missing only if there are none. -/
structure Requires (p? : Option Predicate) (required : List Predicate) : Prop where
  eq_none_iff : p? = none ↔ required = []
  truth : ∀ db scope, (∀ p ∈ p?, p.truth db scope = .yes) ↔ ∀ p ∈ required, p.truth db scope = .yes

theorem requires_toList (p? : Option Predicate) : Requires p? p?.toList := by
  constructor
  · cases p? <;> simp
  · cases p? <;> simp

/-- A conjunction says what both sides say. -/
theorem Requires.conjoin {a b : Option Predicate} {as bs : List Predicate} (ha : Requires a as)
    (hb : Requires b bs) : Requires (conjoin a b) (as ++ bs) := by
  constructor
  · rw [List.append_eq_nil_iff, ← ha.eq_none_iff, ← hb.eq_none_iff]
    cases a <;> cases b <;> simp [Listings.conjoin]
  · intro db scope
    rw [List.forall_mem_append, ← ha.truth, ← hb.truth]
    cases a <;> cases b <;> simp [Listings.conjoin, Predicate.truth, Truth.and_eq_yes_iff]

/-- A step requires what was required before it, and the restriction that it adds. -/
theorem Requires.step {base : BaseQuery} {required : List Predicate}
    (h : Requires base.restriction required) (step : BaseStep) :
    Requires (base.step step).restriction (required ++ restrictions [step]) := by
  cases step with
  | columns paths | leftJoin table on => exact (List.append_nil required).symm ▸ h
  | restrict p => exact h.conjoin (requires_toList (some p))

theorem Requires.steps {base : BaseQuery} {required : List Predicate}
    (h : Requires base.restriction required) (steps : List BaseStep) :
    Requires (steps.foldl BaseQuery.step base).restriction (required ++ restrictions steps) := by
  induction steps generalizing base required with
  | nil => exact (List.append_nil required).symm ▸ h
  | cons step steps ih =>
    have whole : restrictions (step :: steps) = restrictions [step] ++ restrictions steps :=
      List.filterMap_append (l := [step])
    rw [whole, ← List.append_assoc]
    exact ih (h.step step)

/-- What a built base query requires are the restrictions among its steps. -/
theorem requires_build (table : ColumnPath) (steps : List BaseStep) :
    Requires (BaseQuery.build table steps).restriction (restrictions steps) := by
  have start : Requires ({ table } : BaseQuery).restriction [] := requires_toList none
  exact start.steps steps

/-! ## What the statements keep -/

/-- The joined rows of a base query. -/
def Store.Database.joined (db : Database) (base : BaseQuery) : List Frame :=
  (base.joins.map BaseJoin.leftJoin).foldl (joinRows db) ((db.rowsOf base.table).map ([·]))

/-- No clause begins in a join of a base query. -/
theorem lacks_baseJoin (join : BaseJoin) : Lacks clauseWords join.leftJoin.tokens := by
  have test : ∀ term : JoinTerm, Lacks clauseWords term.test.tokens := fun term => by
    cases term <;> simp [JoinTerm.test, Test.tokens, Comparator.sql]
  have all : ∀ (terms : List JoinTerm) (c : Condition), Lacks clauseWords c.tokens →
      Lacks clauseWords
        ((terms.map JoinTerm.test).foldl (fun c t => .and c (.test t)) c).tokens := by
    intro terms
    induction terms with
    | nil => exact fun c h => h
    | cons term terms ih =>
      exact fun c h => ih _ (by simp [Condition.tokens, h, test])
  obtain ⟨table, on⟩ := join
  cases on with
  | nil => simp [BaseJoin.leftJoin, Condition.all?, LeftJoin.tokens, tableTokens]
  | cons term terms =>
    have on := all terms (.test term.test) (test term)
    simp [BaseJoin.leftJoin, Condition.all?, LeftJoin.tokens, tableTokens, on]

/-- The condition of a predicate that may be missing is satisfied where the predicate is true. -/
theorem satisfies_condition (db : Database) (p? : Option Predicate) (frame : Frame) :
    satisfies db (p?.map Predicate.condition) frame ↔ ∀ p ∈ p?, p.truth db [frame] = .yes := by
  cases p? with
  | none => simp [satisfies]
  | some p => simp [satisfies, truth_condition]

/-- A statement keeps the joined rows of a base query of which some predicates are all true. -/
structure Sql.Statement.Keeps (s : Statement) (base : BaseQuery) (required : List Predicate) :
    Prop where
  /-- Its text is read to have one condition, which is true of a row when they all are; there is no
  `WHERE` only if there are no predicates. -/
  reads : ∃ condition, (∀ c, s.ReadsCondition c ↔ c = condition) ∧
    (condition = none ↔ required = []) ∧
    ∀ db frame, satisfies db condition frame ↔ ∀ p ∈ required, p.truth db [frame] = .yes
  /-- These are the rows that match it on every database. -/
  matching : ∀ db : Database, db.matching s.select
    = (db.joined base).filter fun frame => ∀ p ∈ required, p.truth db [frame] = .yes

/-- A statement for a base query keeps what its condition requires. -/
theorem Requires.keeps {s : Statement} {base : BaseQuery} {p? : Option Predicate}
    {required : List Predicate} (h : Requires p? required)
    (tables : s.select.source = base.table ∧ s.select.joins = base.joins.map BaseJoin.leftJoin)
    (condition : s.select.condition = p?.map Predicate.condition) : s.Keeps base required := by
  obtain ⟨source, joins⟩ := tables
  have satisfied : ∀ db frame,
      satisfies db s.select.condition frame ↔ ∀ p ∈ required, p.truth db [frame] = .yes := by
    intro db frame
    rw [condition, satisfies_condition, h.truth]
  have noClause : ∀ join ∈ s.select.joins, Lacks clauseWords join.tokens := by
    rw [joins]
    exact List.forall_mem_map.2 fun join _ => lacks_baseJoin join
  refine ⟨⟨s.select.condition, Statement.readsCondition_iff noClause, ?_, satisfied⟩, fun db => ?_⟩
  · rw [condition, Option.map_eq_none_iff, h.eq_none_iff]
  · unfold Database.matching Database.joined
    rw [source, joins]
    exact List.filter_congr fun frame _ => Bool.eq_iff_iff.2 (by simpa using satisfied db frame)

/-- Both statements of a request keep the joined rows of which all restrictions, wherever they stand
among the steps that built the base query, and the filter are true. -/
theorem statements_keep_required (table : ColumnPath) (steps : List BaseStep)
    (filter : Option Predicate) (order : SortOrder) (request : PageRequest) (dialect : Dialect) :
    let base := BaseQuery.build table steps
    let required := restrictions steps ++ filter.toList
    let s := statements base filter order request dialect
    s.count.Keeps base required ∧ s.page.Keeps base required := by
  intro base required s
  have requires : Requires (conjoin base.restriction filter) required :=
    (requires_build table steps).conjoin (requires_toList filter)
  exact ⟨requires.keeps ⟨rfl, rfl⟩ rfl, requires.keeps ⟨rfl, rfl⟩ rfl⟩

end Listings
