import Listings.Proofs.Restriction

/-!
# Building base queries

What a base query has from each of the steps that build it, and where the order of the steps shows in
the statements of a request.

* `BaseQuery.build_eq`: the columns, the joins and the restriction of a built base query come from the
  steps of their kind alone.
* `SameParts`: two sequences of steps differ only in how steps of different kinds follow each other and
  in how the columns are divided.
* `foldl_and_inj`: what is added to two conditions on the right does not hide how they differ.
* `statements_of_steps`: sequences with the same parts build the same statements; two restrictions
  in a row build those of their conjunction exactly when they are the first ones.
-/

namespace Listings

open Sql Store

/-! ## The parts of a base query -/

/-- The columns that a step selects. -/
def BaseStep.selected : BaseStep → List ColumnPath
  | columns paths => paths
  | leftJoin .. | restrict _ => []

/-- The join that a step adds. -/
def BaseStep.join? : BaseStep → Option BaseJoin
  | leftJoin table on => some ⟨table, on⟩
  | columns _ | restrict _ => none

/-- The conjunction of predicates from the left, after one that may be missing. -/
def conjoinAll (p? : Option Predicate) (ps : List Predicate) : Option Predicate :=
  ps.foldl (fun p? p => conjoin p? (some p)) p?

/-- Two sequences of steps select the same columns, join the same tables and make the same
restrictions, each of them in the same order. -/
structure SameParts (steps steps' : List BaseStep) : Prop where
  selected : steps.flatMap BaseStep.selected = steps'.flatMap BaseStep.selected
  joins : steps.filterMap BaseStep.join? = steps'.filterMap BaseStep.join?
  restrictions : restrictions steps = restrictions steps'

/-- A step adds to the part of its kind and leaves the others as they are. -/
theorem BaseQuery.step_eq (base : BaseQuery) (step : BaseStep) :
    base.step step =
      { base with
        selected := base.selected ++ step.selected
        joins := base.joins ++ step.join?.toList
        restriction := conjoinAll base.restriction step.restriction?.toList } := by
  cases step with
  | columns paths => simp [BaseQuery.step, columns, BaseStep.selected, BaseStep.join?,
      BaseStep.restriction?, conjoinAll]
  | leftJoin table on => simp [BaseQuery.step, leftJoin, BaseStep.selected, BaseStep.join?,
      BaseStep.restriction?, conjoinAll]
  | restrict p => simp [BaseQuery.step, restrict, BaseStep.selected, BaseStep.join?,
      BaseStep.restriction?, conjoinAll]

theorem conjoinAll_append (p? : Option Predicate) (ps qs : List Predicate) :
    conjoinAll p? (ps ++ qs) = conjoinAll (conjoinAll p? ps) qs :=
  List.foldl_append

/-- Steps add to each part what they have of its kind, in their order. -/
theorem BaseQuery.foldl_step (base : BaseQuery) (steps : List BaseStep) :
    steps.foldl BaseQuery.step base =
      { base with
        selected := base.selected ++ steps.flatMap BaseStep.selected
        joins := base.joins ++ steps.filterMap BaseStep.join?
        restriction := conjoinAll base.restriction (restrictions steps) } := by
  induction steps generalizing base with
  | nil => simp [restrictions, conjoinAll]
  | cons step steps ih =>
    have joins : (step :: steps).filterMap BaseStep.join?
        = step.join?.toList ++ steps.filterMap BaseStep.join? := by
      cases h : step.join? <;> simp [h]
    have restricted : restrictions (step :: steps)
        = step.restriction?.toList ++ restrictions steps := by
      cases h : step.restriction? <;> simp [restrictions, h]
    rw [List.foldl_cons, ih, step_eq, joins, restricted, conjoinAll_append, List.flatMap_cons]
    simp only [List.append_assoc]

/-- A built base query has its parts from the steps of their kinds. -/
theorem BaseQuery.build_eq (table : ColumnPath) (steps : List BaseStep) :
    build table steps =
      { table
        selected := steps.flatMap BaseStep.selected
        joins := steps.filterMap BaseStep.join?
        restriction := conjoinAll none (restrictions steps) } :=
  foldl_step { table } steps

theorem SameParts.build_eq {steps steps' : List BaseStep} (h : SameParts steps steps')
    (table : ColumnPath) : BaseQuery.build table steps = BaseQuery.build table steps' := by
  rw [BaseQuery.build_eq, BaseQuery.build_eq, h.selected, h.joins, h.restrictions]

/-! ## Chains of conjunctions -/

theorem conjoinAll_some (p : Predicate) (ps : List Predicate) :
    conjoinAll (some p) ps = some (ps.foldl .and p) := by
  induction ps generalizing p with
  | nil => rfl
  | cons q ps ih => exact ih (.and p q)

theorem conjoinAll_eq_none_iff {ps : List Predicate} : conjoinAll none ps = none ↔ ps = [] := by
  cases ps with
  | nil => exact iff_of_true rfl rfl
  | cons p ps =>
    have some : conjoinAll none (p :: ps) = _ := conjoinAll_some p ps
    rw [some]
    exact iff_of_false nofun nofun

/-- A chain that begins with a predicate ends with the filter. -/
theorem conjoin_conjoinAll (p : Predicate) (ps : List Predicate) (filter : Option Predicate) :
    conjoin (conjoinAll (some p) ps) filter = some ((ps ++ filter.toList).foldl .and p) := by
  rw [conjoinAll_some, List.foldl_append]
  cases filter <;> rfl

theorem Predicate.condition_foldl_and (p : Predicate) (ps : List Predicate) :
    (ps.foldl .and p).condition = (ps.map condition).foldl .and p.condition := by
  induction ps generalizing p with
  | nil => rfl
  | cons q ps ih => exact ih (.and p q)

/-- Two chains with the same conditions behind their heads are the same only if the heads are. -/
theorem foldl_and_inj {c c' : Condition} {cs : List Condition} :
    cs.foldl .and c = cs.foldl .and c' ↔ c = c' := by
  induction cs generalizing c c' with
  | nil => exact Iff.rfl
  | cons d cs ih =>
    rw [List.foldl_cons, List.foldl_cons, ih, Condition.and.injEq]
    exact and_iff_left rfl

/-- A chain of conjunctions is not one in which the last two stand in parentheses. -/
theorem and_and_ne (c d e : Condition) : Condition.and (.and c d) e ≠ .and c (.and d e) := by
  intro same
  have heads : Condition.and c d = c := (Condition.and.inj same).1
  have sizes := congrArg sizeOf heads
  simp only [Condition.and.sizeOf_spec] at sizes
  omega

/-! ## The statements that steps build -/

/-- Two pairs of statements have the same texts and the same parameters. -/
structure Statements.SameOutput (s s' : Statements) : Prop where
  count_text : s.count.text = s'.count.text
  count_params : s.count.params = s'.count.params
  page_text : s.page.text = s'.page.text
  page_params : s.page.params = s'.page.params

/-- Two pairs of statements have the same parameters and are about the same rows. -/
structure Statements.SameMeaning (s s' : Statements) : Prop where
  count_params : s.count.params = s'.count.params
  page_params : s.page.params = s'.page.params
  count_rows : ∀ db : Database, db.matching s.count.select = db.matching s'.count.select
  page_rows : ∀ db : Database, db.matching s.page.select = db.matching s'.page.select

/-- The text of a count is read to have the condition of the restriction and the filter, so that equal
texts with equal parameters have equal conditions. -/
theorem conditions_of_sameOutput {base base' : BaseQuery} {filter : Option Predicate}
    {order : SortOrder} {request : PageRequest} {dialect : Dialect}
    (h : (statements base filter order request dialect).SameOutput
      (statements base' filter order request dialect)) :
    (conjoin base.restriction filter).map Predicate.condition
      = (conjoin base'.restriction filter).map Predicate.condition := by
  let count := fun base : BaseQuery => (statements base filter order request dialect).count
  have reads (base : BaseQuery) (c : Option Condition) :
      (count base).ReadsCondition c ↔ c = (conjoin base.restriction filter).map Predicate.condition := by
    have clauses : ∀ join ∈ (count base).select.joins, Lacks clauseWords join.tokens :=
      List.forall_mem_map.2 fun join _ => lacks_baseJoin join
    exact Statement.readsCondition_iff clauses c
  obtain ⟨ts, found, clause⟩ := (reads base _).2 rfl
  rw [show (count base).params = (count base').params from h.count_params,
    show (count base).text = (count base').text from h.count_text] at found
  exact (reads base' _).1 ⟨ts, found, clause⟩

/-- The values of a chain are those of its members. -/
theorem values_conjoinAll (p? : Option Predicate) (ps : List Predicate) :
    (conjoinAll p? ps).elim [] Predicate.values
      = p?.elim [] Predicate.values ++ ps.flatMap Predicate.values := by
  induction ps generalizing p? with
  | nil => simp [conjoinAll]
  | cons q ps ih =>
    have step : conjoinAll p? (q :: ps) = conjoinAll (conjoin p? (some q)) ps := rfl
    rw [step, ih, List.flatMap_cons, ← List.append_assoc]
    cases p? <;> simp [conjoin, Predicate.values]

/-- The parameters of statements are those of the joins, the restriction and the filter. -/
theorem params_congr (base base' : BaseQuery) (joins : base.joins = base'.joins)
    (values : base.restriction.elim [] Predicate.values = base'.restriction.elim [] Predicate.values)
    (filter : Option Predicate) (order : SortOrder) (request : PageRequest) (dialect : Dialect) :
    let s := statements base filter order request dialect
    let s' := statements base' filter order request dialect
    s.count.params = s'.count.params ∧ s.page.params = s'.page.params := by
  have conditions : valuesOf ((conjoin base.restriction filter).map Predicate.condition)
      = valuesOf ((conjoin base'.restriction filter).map Predicate.condition) := by
    rw [valuesOf_conjoin, valuesOf_conjoin, values]
  constructor
  · refine (Select.params_eq _).trans (.trans ?_ (Select.params_eq _).symm)
    simp only [statements, BaseQuery.select, joins, conditions]
  · refine (Select.params_eq _).trans (.trans ?_ (Select.params_eq _).symm)
    simp only [statements, BaseQuery.select, joins, conditions]

/-- Steps that make restrictions with the same values, which are true together of the same rows, build
statements with the same meaning. -/
theorem sameMeaning_of_restrictions {steps steps' : List BaseStep}
    (joins : steps.filterMap BaseStep.join? = steps'.filterMap BaseStep.join?)
    (values : (restrictions steps).flatMap Predicate.values
      = (restrictions steps').flatMap Predicate.values)
    (truth : ∀ db scope, (∀ p ∈ restrictions steps, p.truth db scope = .yes)
      ↔ ∀ p ∈ restrictions steps', p.truth db scope = .yes)
    (table : ColumnPath) (filter : Option Predicate) (order : SortOrder) (request : PageRequest)
    (dialect : Dialect) :
    (statements (BaseQuery.build table steps) filter order request dialect).SameMeaning
      (statements (BaseQuery.build table steps') filter order request dialect) := by
  have requires (steps : List BaseStep) :
      Requires (conjoin (BaseQuery.build table steps).restriction filter)
        (restrictions steps ++ filter.toList) :=
    (requires_build table steps).conjoin (requires_toList filter)
  have joined (db : Database) :
      db.joined (BaseQuery.build table steps) = db.joined (BaseQuery.build table steps') := by
    rw [BaseQuery.build_eq, BaseQuery.build_eq, Database.joined, Database.joined, joins]
  have rows {s s' : Statement}
      (keeps : s.Keeps (BaseQuery.build table steps) (restrictions steps ++ filter.toList))
      (keeps' : s'.Keeps (BaseQuery.build table steps') (restrictions steps' ++ filter.toList))
      (db : Database) : db.matching s.select = db.matching s'.select := by
    rw [keeps.matching, keeps'.matching, joined]
    refine List.filter_congr fun frame _ => decide_eq_decide.2 ?_
    rw [List.forall_mem_append, List.forall_mem_append, truth]
  obtain ⟨countParams, pageParams⟩ := params_congr (BaseQuery.build table steps)
    (BaseQuery.build table steps')
    (by rw [BaseQuery.build_eq, BaseQuery.build_eq, joins])
    (by rw [BaseQuery.build_eq, BaseQuery.build_eq, values_conjoinAll, values_conjoinAll, values])
    filter order request dialect
  exact ⟨countParams, pageParams,
    rows ((requires steps).keeps ⟨rfl, rfl⟩ rfl) ((requires steps').keeps ⟨rfl, rfl⟩ rfl),
    rows ((requires steps).keeps ⟨rfl, rfl⟩ rfl) ((requires steps').keeps ⟨rfl, rfl⟩ rfl)⟩

/-! ## Two restrictions in a row -/

section Restrictions

variable (before after : List BaseStep) (p q : Predicate)

theorem restrictions_apart :
    restrictions (before ++ .restrict p :: .restrict q :: after)
      = restrictions before ++ p :: q :: restrictions after := by
  simp [restrictions, BaseStep.restriction?]

theorem restrictions_joined :
    restrictions (before ++ .restrict (.and p q) :: after)
      = restrictions before ++ .and p q :: restrictions after := by
  simp [restrictions, BaseStep.restriction?]

theorem joins_apart :
    (before ++ .restrict p :: .restrict q :: after).filterMap BaseStep.join?
      = (before ++ .restrict (.and p q) :: after).filterMap BaseStep.join? := by
  rw [List.filterMap_append, List.filterMap_append]
  rfl

/-- Restrictions that are the first ones build what their conjunction builds. -/
theorem BaseQuery.build_apart (table : ColumnPath) (first : restrictions before = []) :
    build table (before ++ .restrict p :: .restrict q :: after)
      = build table (before ++ .restrict (.and p q) :: after) := by
  rw [build_eq, build_eq, restrictions_apart, restrictions_joined, joins_apart, first]
  simp [BaseStep.selected, conjoinAll, conjoin]

/-- Behind another restriction they do not: there the conjunction stays one operand. -/
theorem condition_apart_ne (table : ColumnPath) (filter : Option Predicate)
    (behind : restrictions before ≠ []) :
    (conjoin (BaseQuery.build table (before ++ .restrict p :: .restrict q :: after)).restriction
        filter).map Predicate.condition
      ≠ (conjoin (BaseQuery.build table (before ++ .restrict (.and p q) :: after)).restriction
        filter).map Predicate.condition := by
  obtain ⟨r, earlier⟩ := Option.ne_none_iff_exists'.1 (mt conjoinAll_eq_none_iff.1 behind)
  have chain (ps : List Predicate) :
      conjoin (conjoinAll none (restrictions before ++ ps)) filter
        = some ((ps ++ filter.toList).foldl .and r) := by
    rw [conjoinAll_append, earlier, conjoin_conjoinAll]
  rw [BaseQuery.build_eq, BaseQuery.build_eq, restrictions_apart, restrictions_joined, chain, chain]
  simp only [Option.map_some, List.cons_append, List.foldl_cons, Predicate.condition_foldl_and]
  intro same
  exact and_and_ne _ _ _ (foldl_and_inj.1 (Option.some.inj same))

end Restrictions

/-- Steps with the same parts build the same statements, however steps of different kinds follow each
other and however the columns are divided. Two restrictions in a row have the parameters and the rows
of their conjunction. They have its texts exactly when they are the first restrictions: behind another
one the conjunction is written in parentheses. -/
theorem statements_of_steps (table : ColumnPath) (filter : Option Predicate) (order : SortOrder)
    (request : PageRequest) (dialect : Dialect) :
    let built := fun steps =>
      statements (BaseQuery.build table steps) filter order request dialect
    (∀ steps steps', SameParts steps steps' → built steps = built steps') ∧
      ∀ before after p q,
        let apart := built (before ++ .restrict p :: .restrict q :: after)
        let joined := built (before ++ .restrict (.and p q) :: after)
        apart.SameMeaning joined ∧ (apart.SameOutput joined ↔ restrictions before = []) := by
  intro built
  refine ⟨fun steps steps' same => ?_, fun before after p q => ⟨?_, ?_⟩⟩
  · show statements (BaseQuery.build table steps) filter order request dialect = _
    rw [same.build_eq]
  · refine sameMeaning_of_restrictions (joins_apart before after p q) ?_ (fun db scope => ?_) table
      filter order request dialect
    · rw [restrictions_apart, restrictions_joined]
      simp [Predicate.values]
    · rw [restrictions_apart, restrictions_joined]
      simp [Predicate.truth, Truth.and_eq_yes_iff, or_imp, forall_and, and_assoc]
  · by_cases first : restrictions before = []
    · have same := BaseQuery.build_apart before after p q table first
      refine iff_of_true ?_ first
      show Statements.SameOutput (statements (BaseQuery.build table _) _ _ _ _) _
      rw [same]
      exact ⟨rfl, rfl, rfl, rfl⟩
    · refine iff_of_false (fun same => ?_) first
      exact condition_apart_ne before after p q table filter first (conditions_of_sameOutput same)

namespace Catalog

/-- The steps of a base query of scored media, one kind after the other. -/
def scoredSteps : List BaseStep :=
  [.columns [⟨"media.id"⟩, ⟨"media.title"⟩],
    .leftJoin ⟨"user_data"⟩ [.columns ⟨"user_data.media_id"⟩ ⟨"media.id"⟩,
      .value ⟨"user_data.user_id"⟩ (.text "u1")],
    .restrict (.isNull (.optional .number "media.score") true),
    .restrict (.compare .notEqual (.required .string "media.status") (.text "draft"))]

/-- The same steps with the columns divided and the restrictions on both sides of the join. -/
def scoredStepsMixed : List BaseStep :=
  [.restrict (.isNull (.optional .number "media.score") true),
    .columns [⟨"media.id"⟩],
    .leftJoin ⟨"user_data"⟩ [.columns ⟨"user_data.media_id"⟩ ⟨"media.id"⟩,
      .value ⟨"user_data.user_id"⟩ (.text "u1")],
    .columns [],
    .restrict (.compare .notEqual (.required .string "media.status") (.text "draft")),
    .columns [⟨"media.title"⟩]]

/-- The mixed steps build the statements of the steps kind by kind. -/
theorem statements_of_steps_scored :
    SameParts scoredSteps scoredStepsMixed ∧
      statements (BaseQuery.build ⟨"media"⟩ scoredSteps) none .random ⟨3, 20⟩ .postgres
        = statements (BaseQuery.build ⟨"media"⟩ scoredStepsMixed) none .random ⟨3, 20⟩ .postgres := by
  have same : SameParts scoredSteps scoredStepsMixed := ⟨rfl, rfl, rfl⟩
  exact ⟨same,
    (statements_of_steps ⟨"media"⟩ none .random ⟨3, 20⟩ .postgres).1 scoredSteps scoredStepsMixed same⟩

/-- Behind a restriction, two more restrictions in a row are not written as their conjunction is. -/
theorem restrictions_written_apart :
    let scored : Predicate := .isNull (.optional .number "media.score") true
    let typed : Predicate := .isNull (.required .string "media.type") true
    let rated : Predicate := .isNull (.required .string "media.rating") true
    let text := fun steps =>
      (statements (BaseQuery.build ⟨"media"⟩ steps) none (.byKeys []) ⟨0, 0⟩ .sqlite).count.text
    text [.restrict scored, .restrict typed, .restrict rated]
        = "SELECT COUNT(*) FROM \"media\" WHERE \"media\".\"score\" IS NOT NULL "
          ++ "AND \"media\".\"type\" IS NOT NULL AND \"media\".\"rating\" IS NOT NULL" ∧
      text [.restrict scored, .restrict (.and typed rated)]
        = "SELECT COUNT(*) FROM \"media\" WHERE \"media\".\"score\" IS NOT NULL "
          ++ "AND (\"media\".\"type\" IS NOT NULL AND \"media\".\"rating\" IS NOT NULL)" ∧
      text [.restrict scored, .restrict typed, .restrict rated]
        ≠ text [.restrict scored, .restrict (.and typed rated)] := by
  intro scored typed rated text
  exact ⟨by decide +kernel, by decide +kernel, by decide +kernel⟩

end Catalog

end Listings
