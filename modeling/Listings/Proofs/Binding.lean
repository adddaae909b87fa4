import Listings.Paging.BaseQuery
import Listings.Proofs.Resolution

/-!
# Literals are bound

No constant of a filter reaches the text of a statement: it is bound to a placeholder.

* `Expr.SameShape`: filters that differ in their texts and numbers only.
* `Resolves.blanked_eq`: their predicates differ in their values only.
* `statements_text_of_sameShape`: their statements have the same texts, and as many parameters.
-/

namespace Listings

open Sql (Dialect Select Statement Token)

/-! ## Filters of the same shape -/

/-- Two constants of the same kind. -/
inductive Literal.SameShape : Literal → Literal → Prop
  | text (s t : String) : SameShape (.text s) (.text t)
  | number (m n : Number) : SameShape (.number m) (.number n)
  | null : SameShape .null .null

/-- Two filters that differ in their texts and numbers only. -/
inductive Expr.SameShape : Expr → Expr → Prop
  | binary (op : Operator) {left left' right right' : Expr} (hl : SameShape left left')
      (hr : SameShape right right') : SameShape (.binary op left right) (.binary op left' right')
  | not {e e' : Expr} (h : SameShape e e') : SameShape (.not e) (.not e')
  | call (function : String) {args args' : List Expr} (h : List.Forall₂ SameShape args args') :
      SameShape (.call function args) (.call function args')
  | name (word : String) : SameShape (.name word) (.name word)
  | literal {l l' : Literal} (h : l.SameShape l') : SameShape (.literal l) (.literal l')

/-! ## Predicates without their values -/

/-- The predicate with null in the place of every value and nothing in the place of every id. -/
def Predicate.blanked : Predicate → Predicate
  | and left right => and left.blanked right.blanked
  | or left right => or left.blanked right.blanked
  | not inner => not inner.blanked
  | isNull column negated => isNull column negated
  | compare op column _ => compare op column .null
  | oneOf column values negated => oneOf column (values.map fun _ => .null) negated
  | linked association id members negated =>
    linked association id (members.map fun _ => "") negated

theorem Predicate.blanked_negate (p : Predicate) : p.negate.blanked = p.blanked.negate := by
  cases p <;> rfl

theorem mapValues_memberTest (path : ColumnPath) (values : List Value) (negated : Bool) :
    (Sql.memberTest path values negated).mapValues (fun _ => .null)
      = (Sql.memberTest path (values.map fun _ => .null) negated).mapValues fun _ => .null := by
  cases values with
  | nil => rfl
  | cons v vs => simp [Sql.memberTest, Sql.Test.mapValues]

/-- The condition of a predicate and that of the blanked predicate differ in the values only. -/
theorem Predicate.mapValues_blanked (p : Predicate) :
    p.condition.mapValues (fun _ => .null) = p.blanked.condition.mapValues fun _ => .null := by
  induction p with
  | and left right ihl ihr | or left right ihl ihr =>
    simp only [condition, blanked, Sql.Condition.mapValues, ihl, ihr]
  | not inner ih => simp only [condition, blanked, Sql.Condition.mapValues, ih]
  | isNull column negated => rfl
  | compare op column value => rfl
  | oneOf column values negated =>
    simp only [condition, blanked, Sql.Condition.mapValues, mapValues_memberTest column.path values]
  | linked association id members negated =>
    have ids := mapValues_memberTest association.member (members.map .text) false
    have blank :=
      mapValues_memberTest association.member ((members.map fun _ => "").map .text) false
    simp only [List.map_map, Function.comp_def] at ids blank
    simp only [condition, blanked, Sql.Condition.mapValues, Sql.Test.mapValues, List.map_map,
      Function.comp_def, ids, blank]

/-! ## Filters of the same shape have the same predicates but for the values -/

/-- Lists that are related item by item to lists of the same shape are equally long. -/
private theorem map_eq_map_of_forall₂ {α β γ : Type} {R : α → α → Prop} {S T : α → β → Prop}
    {as as' : List α} {bs bs' : List β} (h : List.Forall₂ R as as') (hs : List.Forall₂ S as bs)
    (ht : List.Forall₂ T as' bs') (c : γ) : (bs.map fun _ => c) = bs'.map fun _ => c := by
  have length : bs.length = bs'.length := by rw [← hs.length_eq, h.length_eq, ht.length_eq]
  rw [List.map_const', List.map_const', length]

/-- Null is not accepted as a value. -/
theorem Column.not_accepts_null {column : Column} {field : String} {v : Value} :
    ¬column.Accepts field (.literal .null) v := by
  intro accepts
  obtain ⟨l, same, notNull, -⟩ := accepts.denoted
  cases same
  exact notNull rfl

/-- Filters of the same shape are resolved to the same predicate, but for its values. -/
theorem Resolves.blanked_eq {entity : Entity} {e e' : Expr} {p p' : Predicate}
    (h : Resolves entity e p) (shape : e.SameShape e') (h' : Resolves entity e' p') :
    p.blanked = p'.blanked := by
  induction h generalizing e' p' with
  | and _ _ ihl ihr =>
    obtain ⟨_, sl, sr⟩ := shape
    obtain ⟨hl, hr⟩ := h'
    rw [Predicate.blanked, ihl sl hl, ihr sr hr, Predicate.blanked]
  | or _ _ ihl ihr =>
    obtain ⟨_, sl, sr⟩ := shape
    cases h' with
    | or hl hr => rw [Predicate.blanked, ihl sl hl, ihr sr hr, Predicate.blanked]
  | not _ ih =>
    cases shape with
    | not s =>
      cases h' with
      | not h' => rw [Predicate.blanked_negate, ih s h', Predicate.blanked_negate]
  | isNull ho hc _ =>
    cases shape with
    | binary _ sl sr =>
      cases sl
      obtain _ | _ | _ | _ | ⟨⟨⟩⟩ := sr
      cases h' with
      | isNull ho' hc' _ =>
        rw [ho] at ho'
        rw [hc] at hc'
        cases ho'
        cases hc'
        rfl
      | compare _ _ hv' => exact absurd hv' Column.not_accepts_null
  | compare hc _ hv =>
    cases shape with
    | binary _ sl sr =>
      cases sl
      cases h' with
      | isNull =>
        obtain _ | _ | _ | _ | ⟨⟨⟩⟩ := sr
        exact absurd hv Column.not_accepts_null
      | compare hc' _ hv' =>
        rw [hc] at hc'
        cases hc'
        rfl
  | member _ hc hv =>
    cases shape with
    | call _ sargs =>
      cases h' with
      | member _ hc' hv' =>
        obtain _ | ⟨sfield, svalues⟩ := sargs
        cases sfield
        rw [hc] at hc'
        cases hc'
        rw [Predicate.blanked, map_eq_map_of_forall₂ svalues hv hv', Predicate.blanked]
      | inColumn hf' => exact absurd rfl hf'
      | inTable hf' => exact absurd rfl hf'
  | inColumn hf found _ hc hv =>
    cases shape with
    | call _ sargs =>
      cases h' with
      | member => exact absurd rfl hf
      | inColumn _ found' _ hc' hv' =>
        rw [found] at found'
        cases found'
        rw [hc] at hc'
        cases hc'
        rw [Predicate.blanked, map_eq_map_of_forall₂ sargs hv hv', Predicate.blanked]
      | inTable _ found' =>
        rw [found] at found'
        cases found'
  | inTable hf found _ ht hm =>
    cases shape with
    | call _ sargs =>
      cases h' with
      | member => exact absurd rfl hf
      | inColumn _ found' =>
        rw [found] at found'
        cases found'
      | inTable _ found' _ ht' hm' =>
        rw [found] at found'
        cases found'
        rw [ht] at ht'
        cases ht'
        rw [Predicate.blanked, map_eq_map_of_forall₂ sargs hm hm', Predicate.blanked]

/-! ## Statements of filters of the same shape -/

/-- Statements whose conditions differ in values only have the same text and as many parameters. -/
theorem Sql.Statement.congr_condition {c c' : Sql.Condition}
    (h : c.mapValues (fun _ => .null) = c'.mapValues fun _ => .null) (s : Select)
    (dialect : Dialect) :
    let a : Statement := ⟨{ s with condition := some c }, dialect⟩
    let b : Statement := ⟨{ s with condition := some c' }, dialect⟩
    a.text = b.text ∧ a.params.length = b.params.length := by
  intro a b
  have revalues : Sql.Revalues Token.blanked fun _ => .null :=
    ⟨fun _ => rfl, fun _ => rfl, rfl, rfl, rfl, rfl, fun _ => rfl⟩
  have tokens : a.select.tokens.map Token.blanked = b.select.tokens.map Token.blanked := by
    rw [Select.tokens_of_condition (s := a.select) rfl,
      Select.tokens_of_condition (s := b.select) rfl]
    simp only [List.map_append, revalues.map_condition, h]
    rfl
  refine ⟨?_, Sql.length_params_congr tokens⟩
  rw [Statement.text, Statement.text, Sql.render_congr dialect tokens]

/-- The restriction of a base query and a filter are tested together. -/
theorem mapValues_conjoin {p p' : Predicate} (h : p.blanked = p'.blanked)
    (restriction : Option Predicate) :
    ∃ q q', conjoin restriction (some p) = some q ∧ conjoin restriction (some p') = some q' ∧
      q.condition.mapValues (fun _ => .null) = q'.condition.mapValues fun _ => .null := by
  cases restriction with
  | none =>
    refine ⟨p, p', rfl, rfl, ?_⟩
    rw [p.mapValues_blanked, p'.mapValues_blanked, h]
  | some r =>
    refine ⟨.and r p, .and r p', rfl, rfl, ?_⟩
    rw [Predicate.mapValues_blanked, Predicate.mapValues_blanked (.and r p'), Predicate.blanked,
      Predicate.blanked, h]

/-- The statements of a filter are those of a request without one, but for what they test. -/
theorem statements_of_conjoin {base : BaseQuery} {filter q : Predicate}
    (h : conjoin base.restriction (some filter) = some q) (order : SortOrder)
    (request : PageRequest) (dialect : Dialect) :
    let unfiltered := statements base none order request dialect
    statements base (some filter) order request dialect =
      ⟨⟨{ unfiltered.count.select with condition := some q.condition }, dialect⟩,
        ⟨{ unfiltered.page.select with condition := some q.condition }, dialect⟩⟩ := by
  simp only [statements, BaseQuery.select, h, Option.map_some]

/-- Both statements of a filter have the texts of the statements of every filter of its shape, and
as many parameters: a text or a number of a request is bound and never written. -/
theorem statements_text_of_sameShape {entity : Entity} (plain : entity.TestsMembership)
    {e e' : Expr} (shape : e.SameShape e') {p p' : Predicate} (h : entity.resolve e = .ok p)
    (h' : entity.resolve e' = .ok p') (base : BaseQuery) (order : SortOrder)
    (request : PageRequest) (dialect : Dialect) :
    let s := statements base (some p) order request dialect
    let s' := statements base (some p') order request dialect
    s.count.text = s'.count.text ∧ s.page.text = s'.page.text ∧
      s.count.params.length = s'.count.params.length ∧
      s.page.params.length = s'.page.params.length := by
  intro s s'
  have blanked : p.blanked = p'.blanked :=
    ((Entity.resolve_eq_ok_iff plain).1 h).blanked_eq shape ((Entity.resolve_eq_ok_iff plain).1 h')
  obtain ⟨q, q', tested, tested', same⟩ := mapValues_conjoin blanked base.restriction
  have own : s = _ := statements_of_conjoin tested order request dialect
  have other : s' = _ := statements_of_conjoin tested' order request dialect
  obtain ⟨countText, countLength⟩ := Sql.Statement.congr_condition same
    (statements base none order request dialect).count.select dialect
  obtain ⟨pageText, pageLength⟩ := Sql.Statement.congr_condition same
    (statements base none order request dialect).page.select dialect
  rw [own, other]
  exact ⟨countText, pageText, countLength, pageLength⟩

namespace Catalog

/-- The filter `title == "..." && score > n`. -/
def titleAndScore (title : String) (n : Int64) : Expr :=
  .binary .and
    (.binary (.compare .equal) (.name "title") (.literal (.text title)))
    (.binary (.compare .greater) (.name "score") (.literal (.number (.integer n))))

/-- The predicate of the filter. -/
def titleAndScorePredicate (title : String) (n : Int64) : Predicate :=
  .and
    (.compare .equal (.required .string "media.title") (.text title))
    (.compare .greater (.optional .number "media.score") (.integer n))

/-- A title that would end the statement if it were written leaves its text as it is. -/
theorem statements_text_dropTable :
    let e := titleAndScore "Akira" 8
    let e' := titleAndScore "x'); DROP TABLE media; --" 0
    let p := titleAndScorePredicate "Akira" 8
    let p' := titleAndScorePredicate "x'); DROP TABLE media; --" 0
    let s := statements ⟨⟨"media"⟩, [], [], none⟩ (some p) .random ⟨2, 10⟩ .postgres
    let s' := statements ⟨⟨"media"⟩, [], [], none⟩ (some p') .random ⟨2, 10⟩ .postgres
    media.TestsMembership ∧ e.SameShape e' ∧ media.resolve e = .ok p ∧ media.resolve e' = .ok p' ∧
      s.count.text = s'.count.text ∧ s.page.text = s'.page.text ∧
      s.count.params.length = s'.count.params.length ∧
      s.page.params.length = s'.page.params.length := by
  intro e e' p p' s s'
  have plain : media.TestsMembership := testsMembership_of_mem (by simp)
  have shape : e.SameShape e' :=
    .binary _ (.binary _ (.name _) (.literal (.text _ _)))
      (.binary _ (.name _) (.literal (.number _ _)))
  have accepted : media.resolve e = .ok p := rfl
  have accepted' : media.resolve e' = .ok p' := rfl
  exact ⟨plain, shape, accepted, accepted',
    statements_text_of_sameShape plain shape accepted accepted' _ _ _ _⟩

end Catalog

end Listings
