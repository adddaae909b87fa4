import Listings.Paging.BaseQuery
import Listings.Proofs.Placeholders
import Listings.Proofs.Reading
import Listings.Sql.Select

/-!
# Parameters

Which values are bound to a statement, and that each is bound to the placeholder that stands for it.

* `Statement.LinesUp`: the placeholders of a text and the parameters belong together one by one.
* `Statement.linesUp`: they do in every statement.
* `Select.params_eq`: the parameters clause by clause.
* `statements_params`: the parameters of the two statements of a request, in terms of the request.
-/

namespace Listings

namespace Sql

/-! ## Placeholders and parameters -/

/-- The number of a placeholder, or that it has none. -/
def Lexeme.placeholder? : Lexeme → Option (Option Nat)
  | placeholder number => some number
  | _ => none

/-- The placeholders of a dialect from a number on. -/
def Dialect.placeholders (dialect : Dialect) (first count : Nat) : List (Option Nat) :=
  match dialect with
  | .sqlite => List.replicate count none
  | .postgres => (List.range' first count).map some

/-- The placeholders of a text, outside the names in quotes, and the parameters belong together:
there are as many, in order, and when every placeholder gives way to the parameter it stands for,
each value is where the statement has it. -/
structure Statement.LinesUp (s : Statement) : Prop where
  placeholders : ∃ ls, lex s.text.toList = some ls ∧
    ls.filterMap Lexeme.placeholder? = s.dialect.placeholders 1 s.params.length
  binding : readTokens s.params 0 s.text.toList = some (s.select.tokens.map Token.plain)

/-- Every token that holds a value is the next placeholder. -/
theorem placeholders_lexemesFrom (dialect : Dialect) (number : Nat) (ts : List Token) :
    (lexemesFrom dialect number ts).filterMap Lexeme.placeholder?
      = dialect.placeholders number (params ts).length := by
  induction ts generalizing number with
  | nil => cases dialect <;> rfl
  | cons t ts ih =>
    cases t with
    | param v =>
      have rest := ih (number + 1)
      cases dialect with
      | sqlite => exact congrArg (none :: ·) rest
      | postgres => exact congrArg (some number :: ·) rest
    | _ => exact ih number

/-! ## Tokens of a statement -/

theorem spelled_projection (p : Projection) : Spelled p.tokens := by
  cases p with
  | count => exact .call (by decide) (.word (by decide) (.rightParen .nil))
  | everything => exact .word (by decide) .nil
  | columns paths =>
    refine spelled_separated fun ts hts => ?_
    obtain ⟨path, -, rfl⟩ := List.mem_map.1 hts
    exact spelled_columnTokens path

theorem spelled_leftJoin (join : LeftJoin) : Spelled join.tokens := by
  obtain ⟨table, on⟩ := join
  refine .word (by decide)
    (.word (by decide) ((spelled_tableTokens table).append (.word (by decide) ?_)))
  cases on with
  | none => exact .word (by decide) .nil
  | some c => exact spelled_condition c

theorem spelled_key (key : SortKey) : Spelled (keyTokens key) := by
  refine (spelled_columnTokens key.column).append ?_
  cases key.direction <;> exact .word (by decide) (.word (by decide) (.word (by decide) .nil))

theorem spelled_order (order : SortOrder) : Spelled (orderTokens order) := by
  have words : Spelled orderWords := .word (by decide) (.word (by decide) .nil)
  cases order with
  | random =>
    exact words.append (.call (by decide) (.rightParen (.word (by decide) .nil)))
  | byKeys keys =>
    cases keys with
    | nil => exact .nil
    | cons key keys =>
      refine words.append (spelled_separated fun ts hts => ?_)
      obtain ⟨key, -, rfl⟩ := List.mem_map.1 hts
      exact spelled_key key

theorem spelled_window (w : Window) : Spelled w.tokens :=
  .word (by decide) (.param (.word (by decide) (.param .nil)))

theorem spelled_flatMap {α : Type} {f : α → List Token} {items : List α}
    (h : ∀ item, Spelled (f item)) : Spelled (items.flatMap f) := by
  induction items with
  | nil => exact .nil
  | cons item items ih => exact (h item).append ih

theorem spelled_body (s : Select) : Spelled s.bodyTokens := by
  obtain ⟨projection, source, joins, condition, order, window⟩ := s
  have tables : Spelled (.word "FROM" :: tableTokens source ++ joins.flatMap LeftJoin.tokens) :=
    .word (by decide) ((spelled_tableTokens source).append (spelled_flatMap spelled_leftJoin))
  refine tables.append ?_
  cases condition with
  | none => exact .nil
  | some c => exact .word (by decide) (spelled_condition c)

/-- The text of every select statement can be told apart into its tokens again. -/
theorem spelled_select (s : Select) : Spelled s.tokens := by
  have body := spelled_body s
  obtain ⟨projection, source, joins, condition, order, window⟩ := s
  have select : IsSpelled "SELECT" := by decide
  have selected := (Spelled.word select (spelled_projection projection)).append body
  refine (selected.append (spelled_order order)).append ?_
  cases window with
  | none => exact .nil
  | some w => exact spelled_window w

/-- Placeholders and parameters line up in every statement. -/
theorem Statement.linesUp (s : Statement) : s.LinesUp := by
  have spelled := spelled_select s.select
  have text : s.text.toList = renderFrom s.dialect 1 .leftParen s.select.tokens := by
    rw [Statement.text, String.toList_ofList, render]
  refine ⟨⟨_, ?_, placeholders_lexemesFrom s.dialect 1 s.select.tokens⟩, ?_⟩
  · rw [text, lex_renderFrom s.dialect 1 .leftParen spelled]
  · have read := readTokens_renderFrom s.dialect .leftParen [] [] spelled
    rw [List.nil_append, List.append_nil, List.length_nil] at read
    rw [text, Statement.params, read]

/-! ## The parameters of a select statement -/

/-- The values of a condition that may be missing. -/
def valuesOf (c : Option Condition) : List Value := c.elim [] Condition.values

/-- The values of a window. -/
def Window.values (w : Window) : List Value := [.integer w.limit, .integer w.offset]

theorem params_projection (p : Projection) : params p.tokens = [] := by
  cases p with
  | count | everything => rfl
  | columns paths => simp [Projection.tokens, List.flatMap_map]

theorem params_leftJoin (join : LeftJoin) : params join.tokens = valuesOf join.on := by
  obtain ⟨table, on⟩ := join
  cases on with
  | none => rfl
  | some c => simp [LeftJoin.tokens, tableTokens, valuesOf, params_condition]

theorem params_order (order : SortOrder) : params (orderTokens order) = [] := by
  have key : ∀ key : SortKey, params (keyTokens key) = [] := by
    intro key
    simp [keyTokens, params_append]
  cases order with
  | random => rfl
  | byKeys keys =>
    cases keys with
    | nil => rfl
    | cons first keys => simp [orderTokens, orderWords, List.flatMap_map, key]

theorem params_flatMap {α : Type} (f : α → List Token) (items : List α) :
    params (items.flatMap f) = items.flatMap fun item => params (f item) := by
  induction items with
  | nil => rfl
  | cons item items ih => rw [List.flatMap_cons, params_append, ih, List.flatMap_cons]

/-- The parameters of a select statement: the values of its joins, of its condition and of its
window. -/
theorem Select.params_eq (s : Select) :
    params s.tokens
      = s.joins.flatMap (fun join => valuesOf join.on) ++ valuesOf s.condition
          ++ s.window.elim [] Window.values := by
  obtain ⟨projection, source, joins, condition, order, window⟩ := s
  have body : params (Select.bodyTokens ⟨projection, source, joins, condition, order, window⟩)
      = joins.flatMap (fun join => valuesOf join.on) ++ valuesOf condition := by
    cases condition with
    | none =>
      simp [Select.bodyTokens, tableTokens, params_flatMap, params_leftJoin, valuesOf]
    | some c =>
      simp [Select.bodyTokens, tableTokens, params_append, params_flatMap, params_leftJoin,
        valuesOf, params_condition]
  cases window with
  | none =>
    simp [Select.tokens, params_append, params_projection, params_order, body]
  | some w =>
    simp [Select.tokens, params_append, params_projection, params_order, body, Window.tokens,
      Window.values]

end Sql

/-! ## The parameters of a request -/

/-- The values of a predicate from left to right. A list without values is compared by constants,
and a pattern is text. -/
def Predicate.values : Predicate → List Value
  | and left right | or left right => left.values ++ right.values
  | not inner => inner.values
  | isNull _ _ => []
  | compare .like _ v => [v.pattern]
  | compare _ _ v => [v]
  | oneOf _ [] negated => [.integer 1, .integer (if negated then 1 else 2)]
  | oneOf _ values _ => values
  | linked _ _ [] _ => [.integer 1, .integer 2]
  | linked _ _ members _ => members.map .text

/-- The values of a term of a join. -/
def JoinTerm.values : JoinTerm → List Value
  | columns _ _ => []
  | value _ v => [v]

/-- The values of the condition of a predicate are those of the predicate. -/
theorem Predicate.values_condition (p : Predicate) : p.condition.values = p.values := by
  induction p with
  | and left right ihl ihr | or left right ihl ihr =>
    rw [condition, Sql.Condition.values, ihl, ihr, values]
  | not inner ih => rw [condition, Sql.Condition.values, ih, values]
  | isNull column negated => rfl
  | compare op column v => cases op <;> rfl
  | oneOf column vs negated => cases vs <;> rfl
  | linked association id members negated => cases members <;> rfl

/-- The values of a join are those of its terms. -/
theorem valuesOf_leftJoin (join : BaseJoin) :
    Sql.valuesOf join.leftJoin.on = join.on.flatMap JoinTerm.values := by
  have terms : ∀ (ts : List JoinTerm) (c : Sql.Condition),
      ((ts.map JoinTerm.test).foldl (fun c t => .and c (.test t)) c).values
        = c.values ++ ts.flatMap JoinTerm.values := by
    intro ts
    induction ts with
    | nil =>
      intro c
      exact (List.append_nil _).symm
    | cons t ts ih =>
      intro c
      have test : t.test.values = t.values := by cases t <;> rfl
      rw [List.map_cons, List.foldl_cons, ih, Sql.Condition.values, Sql.Condition.values, test,
        List.flatMap_cons, List.append_assoc]
  obtain ⟨table, on⟩ := join
  cases on with
  | nil => rfl
  | cons t ts =>
    have first : (Sql.Condition.test t.test).values = t.values := by cases t <;> rfl
    exact (terms ts (.test t.test)).trans (by rw [first, List.flatMap_cons])

/-- The values of a restriction and a filter, in this order. -/
theorem valuesOf_conjoin (restriction filter : Option Predicate) :
    Sql.valuesOf ((conjoin restriction filter).map Predicate.condition)
      = restriction.elim [] Predicate.values ++ filter.elim [] Predicate.values := by
  cases restriction with
  | none =>
    cases filter with
    | none => rfl
    | some p => exact p.values_condition
  | some r =>
    cases filter with
    | none => exact r.values_condition.trans (List.append_nil _).symm
    | some p => exact (Predicate.and r p).values_condition

/-- Both statements of a request line up with their parameters, which are the values of the joins,
those of the restriction and those of the filter; the statement for a page has in addition the size
of the page and the exact number of items before it, kept between 0 and the greatest number. -/
theorem statements_params (base : BaseQuery) (filter : Option Predicate) (order : SortOrder)
    (request : PageRequest) (dialect : Sql.Dialect) :
    let s := statements base filter order request dialect
    let values := base.joins.flatMap (fun join => join.on.flatMap JoinTerm.values)
      ++ base.restriction.elim [] Predicate.values ++ filter.elim [] Predicate.values
    s.count.LinesUp ∧ s.page.LinesUp ∧ s.count.params = values ∧
      ∃ offset : Int64,
        offset.toInt
          = max 0 (min (request.page.toInt * request.perPage.toInt) Int64.maxValue.toInt) ∧
        s.page.params
          = values ++ if 0 < request.perPage then [.integer request.perPage, .integer offset]
            else [] := by
  intro s values
  have shared : (base.joins.map BaseJoin.leftJoin).flatMap (fun join => Sql.valuesOf join.on)
        ++ Sql.valuesOf ((conjoin base.restriction filter).map Predicate.condition)
      = values := by
    rw [List.flatMap_map, valuesOf_conjoin, ← List.append_assoc]
    simp only [valuesOf_leftJoin]
    rfl
  refine ⟨s.count.linesUp, s.page.linesUp, ?_, request.offset, request.toInt_offset, ?_⟩
  · rw [← shared]
    exact (Sql.Select.params_eq s.count.select).trans (List.append_nil _)
  · rw [← shared]
    refine (Sql.Select.params_eq s.page.select).trans ?_
    show _ ++ request.window?.elim [] Sql.Window.values = _
    unfold PageRequest.window?
    by_cases h : 0 < request.perPage
    · rw [if_pos h, if_pos h]
      rfl
    · rw [if_neg h, if_neg h]
      rfl

end Listings
