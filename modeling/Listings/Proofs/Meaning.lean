import Listings.Proofs.Placeholders
import Listings.Proofs.Reading
import Listings.Sql.Select
import Listings.Store.Database

/-!
# The meaning of predicates

* `Predicate.truth`: the truth of a predicate on a row, in the logic of three values and without any
  statement.
* `truth_condition`: the condition of a predicate is as true as the predicate.
* `whereText_truth`: the text of the condition in a statement has exactly one reading, and it is as
  true as the predicate.
-/

namespace Listings

open Sql Store

/-! ## Truth on a row -/

/-- The truth of a comparison with a value of a filter. What a pattern is matched with is text, and
so is the pattern, whatever the value. -/
def comparisonTruth (op : Comparator) (stored given : Value) : Truth :=
  match op with
  | .like => holds .like stored given.pattern
  | _ => holds op stored given

/-- The ids that are linked to one of the members of an association. -/
def linkedIds (db : Database) (scope : Scope) (association : Association) (members : List String) :
    List Value :=
  let rows := (db.rowsOf association.table).filter fun row =>
    isOneOf (Scope.value ([row] :: scope) association.member) (members.map .text) = .yes
  rows.map fun row => Scope.value ([row] :: scope) association.row

/-- The truth of a predicate where some rows stand side by side. -/
def Predicate.truth (db : Database) (scope : Scope) : Predicate → Truth
  | and left right => (left.truth db scope).and (right.truth db scope)
  | or left right => (left.truth db scope).or (right.truth db scope)
  | not inner => (inner.truth db scope).not
  | isNull column negated => (Store.isNull (scope.value column.path)).negateIf negated
  | compare op column value => comparisonTruth op (scope.value column.path) value
  | oneOf column values negated => (isOneOf (scope.value column.path) values).negateIf negated
  | linked association id members negated =>
    (isOneOf (scope.value id) (linkedIds db scope association members)).negateIf negated

/-! ## Truth of the condition -/

theorem holds_operand (op : Comparator) (stored given : Value) :
    holds op stored (operand op given) = comparisonTruth op stored given := by
  cases op <;> rfl

/-- A list without values is as true as the comparison of two constants that it becomes. -/
theorem testTruth_memberTest (db : Database) (scope : Scope) (path : ColumnPath)
    (values : List Value) (negated : Bool) :
    testTruth db scope (memberTest path values negated)
      = (isOneOf (scope.value path) values).negateIf negated := by
  cases values with
  | nil => cases negated <;> rfl
  | cons v vs => rfl

/-- The condition of a predicate is as true as the predicate. -/
theorem truth_condition (db : Database) (scope : Scope) (p : Predicate) :
    truth db scope p.condition = p.truth db scope := by
  induction p with
  | and left right ihl ihr | or left right ihl ihr =>
    rw [Predicate.condition, truth, ihl, ihr, Predicate.truth]
  | not inner ih => rw [Predicate.condition, truth, ih, Predicate.truth]
  | isNull column negated => rfl
  | compare op column value => exact holds_operand op _ value
  | oneOf column values negated => exact testTruth_memberTest db scope _ values negated
  | linked association id members negated =>
    simp only [Predicate.condition, truth, testTruth, testTruth_memberTest, Predicate.truth,
      linkedIds]
    rfl

/-! ## Truth of the text -/

/-- Every text of a condition can be told apart into its tokens again. -/
theorem plain_condition (c : Condition) : c.tokens.map Token.plain = c.tokens := by
  have same : Revalues Token.plain id :=
    ⟨fun _ => rfl, fun _ => rfl, rfl, rfl, rfl, rfl, fun _ => rfl⟩
  rw [same.map_condition, c.mapValues_id]

/-- The condition that a text is read as when values are bound to its placeholders; `used` values
have been bound before it. -/
def ReadsText (values : List Value) (used : Nat) (text : List Char) (c : Condition) : Prop :=
  ∃ ts, readTokens values used text = some ts ∧ Reads .disjunction ts c

/-- The text of a predicate as the condition of a statement in which `used` placeholders stand
before it. -/
def Predicate.whereText (p : Predicate) (dialect : Dialect) (used : Nat) : List Char :=
  renderFrom dialect (used + 1) (.word "WHERE") p.condition.tokens

/-- The tokens of a select statement before its condition. -/
def Sql.Select.headTokens (s : Select) : List Token :=
  .word "SELECT" :: s.projection.tokens ++ .word "FROM" :: tableTokens s.source
    ++ s.joins.flatMap LeftJoin.tokens

/-- The tokens of a select statement after its condition. -/
def Sql.Select.tailTokens (s : Select) : List Token :=
  orderTokens s.order
    ++ (match s.window with
        | none => []
        | some w => w.tokens)

theorem Sql.Select.tokens_of_condition {s : Select} {c : Condition} (h : s.condition = some c) :
    s.tokens = s.headTokens ++ [.word "WHERE"] ++ (c.tokens ++ s.tailTokens) := by
  unfold tokens bodyTokens headTokens tailTokens
  rw [h]
  cases s.window with
  | none => simp only [List.cons_append, List.append_assoc, List.nil_append]
  | some w => simp only [List.cons_append, List.append_assoc, List.nil_append]

/-- The text of a condition stands in that of its statement, numbered after what is before it. -/
theorem Sql.Select.render_of_condition {s : Select} {c : Condition} (h : s.condition = some c)
    (dialect : Dialect) :
    ∃ back, render dialect s.tokens
      = render dialect (s.headTokens ++ [.word "WHERE"])
          ++ renderFrom dialect ((params s.headTokens).length + 1) (.word "WHERE") c.tokens
          ++ back := by
  have numbers : 1 + (params (s.headTokens ++ [.word "WHERE"])).length
      = (params s.headTokens).length + 1 := by
    rw [params_append, params_word, params_nil, List.append_nil, Nat.add_comm]
  let number := (params s.headTokens).length + 1
  refine ⟨renderFrom dialect (number + (params c.tokens).length) (c.tokens.getLastD (.word "WHERE"))
    s.tailTokens, ?_⟩
  rw [tokens_of_condition h, render, renderFrom_append, List.getLastD_concat, numbers,
    renderFrom_append dialect number, ← List.append_assoc]
  rfl

/-- A condition is the only one that its text is read as, among the parameters of the statement. -/
theorem readsText_iff (dialect : Dialect) (before : Token) (earlier later : List Value)
    (c c' : Condition) :
    ReadsText (earlier ++ params c.tokens ++ later) earlier.length
        (renderFrom dialect (earlier.length + 1) before c.tokens) c'
      ↔ c' = c := by
  have tokens := readTokens_renderFrom dialect before earlier later (spelled_condition c)
  rw [plain_condition] at tokens
  have own := (reads_tokens c).1
  constructor
  · rintro ⟨ts, found, reads⟩
    rw [tokens] at found
    cases found
    exact reads.unique own
  · rintro rfl
    exact ⟨_, tokens, own⟩

/-- The text of a predicate in a statement, between `WHERE` and what follows the condition, has
exactly one reading with the parameters of the statement, and on every row of every database this is
as true as the predicate. -/
theorem whereText_truth (s : Select) (p : Predicate) (dialect : Dialect) :
    let statement : Statement := ⟨{ s with condition := some p.condition }, dialect⟩
    let used := (params s.headTokens).length
    (∃ back, statement.text.toList
        = render dialect (s.headTokens ++ [.word "WHERE"]) ++ p.whereText dialect used ++ back) ∧
      ∃ c, (∀ c', ReadsText statement.params used (p.whereText dialect used) c' ↔ c' = c) ∧
        ∀ db scope, truth db scope c = p.truth db scope := by
  intro statement used
  have tokens : statement.select.tokens
      = s.headTokens ++ [.word "WHERE"] ++ (p.condition.tokens ++ s.tailTokens) :=
    Sql.Select.tokens_of_condition rfl
  refine ⟨?_, p.condition, fun c' => ?_, fun db scope => truth_condition db scope p⟩
  · rw [Statement.text, String.toList_ofList]
    exact Sql.Select.render_of_condition rfl dialect
  · have values : statement.params
        = params s.headTokens ++ params p.condition.tokens ++ params s.tailTokens := by
      rw [Statement.params, tokens, params_append, params_append, params_append, params_word,
        params_nil, List.append_nil, List.append_assoc]
    rw [values]
    exact readsText_iff dialect _ _ _ _ _

end Listings
