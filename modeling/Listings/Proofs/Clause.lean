import Listings.Proofs.Meaning
import Listings.Proofs.Parameters
import Listings.Text.Run

/-!
# The condition of a statement

What a reader of the text of a statement takes its condition to be.

* `clause?`: the tokens between `WHERE` and the order or the window.
* `Statement.ReadsCondition`: the condition that a text is read to have, or that it is read to have
  none.
* `Statement.readsCondition_iff`: it is the condition of the statement and no other.
-/

namespace Listings.Sql

/-! ## Words that do not occur -/

/-- Some words are not read among the tokens. -/
def Lacks (ws : List String) (ts : List Token) : Prop := ∀ w ∈ ws, .word w ∉ ts.map Token.plain

section Lacks

variable {ws : List String} {ts : List Token}

@[simp] theorem lacks_nil : Lacks ws [] := fun _ _ => List.not_mem_nil

@[simp] theorem lacks_append {ts' : List Token} :
    Lacks ws (ts ++ ts') ↔ Lacks ws ts ∧ Lacks ws ts' := by
  simp only [Lacks, List.map_append, List.mem_append, not_or, forall_and]

theorem lacks_cons {t : Token} :
    Lacks ws (t :: ts) ↔ (∀ w ∈ ws, .word w ≠ t.plain) ∧ Lacks ws ts := by
  simp only [Lacks, List.map_cons, List.mem_cons, not_or, forall_and]

@[simp] theorem lacks_word {w : String} : Lacks ws (.word w :: ts) ↔ w ∉ ws ∧ Lacks ws ts :=
  lacks_cons.trans (and_congr_left fun _ => ⟨fun h hw => h w hw rfl, by rintro h _ hv ⟨⟩; exact h hv⟩)

@[simp] theorem lacks_function {w : String} :
    Lacks ws (.function w :: ts) ↔ w ∉ ws ∧ Lacks ws ts := lacks_word

theorem lacks_other {t : Token} (h : ∀ w, .word w ≠ t.plain) :
    Lacks ws (t :: ts) ↔ Lacks ws ts :=
  lacks_cons.trans (and_iff_right fun w _ => h w)

@[simp] theorem lacks_name {s : String} : Lacks ws (.name s :: ts) ↔ Lacks ws ts :=
  lacks_other nofun

@[simp] theorem lacks_dot : Lacks ws (.dot :: ts) ↔ Lacks ws ts := lacks_other nofun

@[simp] theorem lacks_comma : Lacks ws (.comma :: ts) ↔ Lacks ws ts := lacks_other nofun

@[simp] theorem lacks_leftParen : Lacks ws (.leftParen :: ts) ↔ Lacks ws ts := lacks_other nofun

@[simp] theorem lacks_rightParen : Lacks ws (.rightParen :: ts) ↔ Lacks ws ts :=
  lacks_other nofun

@[simp] theorem lacks_param {v : Value} : Lacks ws (.param v :: ts) ↔ Lacks ws ts :=
  lacks_other nofun

@[simp] theorem lacks_parenthesized : Lacks ws (parenthesized ts) ↔ Lacks ws ts := by
  simp [parenthesized]

@[simp] theorem lacks_bracketed {needed : Bool} :
    Lacks ws (Condition.bracketed needed ts) ↔ Lacks ws ts := by
  cases needed <;> simp [Condition.bracketed]

theorem lacks_separated {items : List (List Token)} (h : ∀ ts ∈ items, Lacks ws ts) :
    Lacks ws (separated .comma items) := by
  induction items with
  | nil => exact lacks_nil
  | cons first rest ih =>
    obtain ⟨hfirst, hrest⟩ := List.forall_mem_cons.1 h
    cases rest with
    | nil => rwa [separated_singleton]
    | cons second others =>
      rw [separated_cons_cons, lacks_append, lacks_comma]
      exact ⟨hfirst, ih hrest⟩

@[simp] theorem lacks_columnTokens {path : ColumnPath} : Lacks ws (columnTokens path) := by
  unfold columnTokens
  split <;> simp

theorem Lacks.subset {us : List String} (h : Lacks ws ts) (sub : us ⊆ ws) : Lacks us ts :=
  fun w hw => h w (sub hw)

end Lacks

/-- The words that begin the clauses after the tables. -/
def clauseWords : List String := ["WHERE", "ORDER", "LIMIT"]

@[simp] theorem mem_clauseWords {w : String} :
    w ∈ clauseWords ↔ w = "WHERE" ∨ w = "ORDER" ∨ w = "LIMIT" := by
  simp [clauseWords]

/-- No order and no window begins inside a test. -/
theorem lacks_test (t : Test) : Lacks ["ORDER", "LIMIT"] t.tokens := by
  induction t with
  | compare path op value => cases op <;> simp [Test.tokens, Comparator.sql]
  | sameColumns left right => simp [Test.tokens]
  | sameValues left right => simp [Test.tokens]
  | isNull path negated => cases negated <;> simp [Test.tokens]
  | inValues path values negated =>
    have list : Lacks ["ORDER", "LIMIT"] (separated .comma (values.map fun v => [.param v])) := by
      refine lacks_separated fun ts hts => ?_
      obtain ⟨v, -, rfl⟩ := List.mem_map.1 hts
      simp
    cases negated <;> simp [Test.tokens, inWords, list]
  | inRows path projection table where_ negated ih =>
    cases negated <;> simp [Test.tokens, inWords, tableTokens, ih]

/-- No order and no window begins inside a condition. -/
theorem lacks_condition (c : Condition) : Lacks ["ORDER", "LIMIT"] c.tokens := by
  induction c with
  | test t => exact lacks_test t
  | not inner ih => simp [Condition.tokens, ih]
  | and left right ihl ihr | or left right ihl ihr => simp [Condition.tokens, ihl, ihr]

/-! ## Reading the condition -/

/-- The tokens of the condition among those of a statement: from the first `WHERE` to the order or the
window. -/
def clause? : List Token → Option (List Token)
  | [] => none
  | t :: ts =>
    if t = .word "WHERE" then some (ts.takeWhile fun t => t ≠ .word "ORDER" ∧ t ≠ .word "LIMIT")
    else clause? ts

/-- The condition that a statement is read to have when its parameters are bound to its placeholders:
`none` where there is no `WHERE`. -/
def Statement.ReadsCondition (s : Statement) (c : Option Condition) : Prop :=
  ∃ ts, readTokens s.params 0 s.text.toList = some ts ∧
    Option.Rel (Reads .disjunction) (clause? ts) c

theorem clause?_append {before : List Token} (h : Lacks ["WHERE"] before) (ts : List Token) :
    clause? (before.map Token.plain ++ ts) = clause? ts := by
  induction before with
  | nil => rfl
  | cons t before ih =>
    obtain ⟨first, rest⟩ := lacks_cons.1 h
    rw [List.map_cons, List.cons_append, clause?, if_neg (first "WHERE" (by simp)).symm, ih rest]

theorem Select.tokens_of_no_condition {s : Select} (h : s.condition = none) :
    s.tokens = s.headTokens ++ s.tailTokens := by
  unfold tokens bodyTokens headTokens tailTokens
  rw [h]
  cases s.window with
  | none => simp only [List.cons_append, List.append_assoc, List.nil_append]
  | some w => simp only [List.cons_append, List.append_assoc, List.nil_append]

theorem lacks_projection (p : Projection) : Lacks clauseWords p.tokens := by
  cases p with
  | count => simp [Projection.tokens]
  | everything => simp [Projection.tokens]
  | columns paths =>
    refine lacks_separated fun ts hts => ?_
    obtain ⟨path, -, rfl⟩ := List.mem_map.1 hts
    exact lacks_columnTokens

theorem lacks_order (order : SortOrder) : Lacks ["WHERE", "LIMIT"] (orderTokens order) := by
  cases order with
  | random => simp [orderTokens, orderWords]
  | byKeys keys =>
    cases keys with
    | nil => exact lacks_nil
    | cons key keys =>
      have list : Lacks ["WHERE", "LIMIT"] (separated .comma ((key :: keys).map keyTokens)) := by
        refine lacks_separated fun ts hts => ?_
        obtain ⟨⟨column, direction⟩, -, rfl⟩ := List.mem_map.1 hts
        cases direction <;> simp [keyTokens]
      simp only [orderTokens, lacks_append, list, and_true]
      simp [orderWords]

/-- No clause begins before the condition of a statement if none begins in a join. -/
theorem lacks_headTokens {s : Select} (h : ∀ join ∈ s.joins, Lacks clauseWords join.tokens) :
    Lacks clauseWords s.headTokens := by
  have joins : Lacks clauseWords (s.joins.flatMap LeftJoin.tokens) := by
    intro w hw
    rw [List.map_flatMap, List.mem_flatMap]
    rintro ⟨join, hjoin, found⟩
    exact h join hjoin w hw found
  simp [Select.headTokens, lacks_projection, tableTokens, joins]

theorem lacks_tailTokens (s : Select) : Lacks ["WHERE"] s.tailTokens := by
  have order : Lacks ["WHERE"] (orderTokens s.order) := (lacks_order s.order).subset (by simp)
  unfold Select.tailTokens
  cases s.window with
  | none => simpa using order
  | some w => simp [order, Window.tokens]

/-- What follows the condition of a statement begins with the order or the window. -/
theorem head?_tailTokens (s : Select) :
    ∀ t ∈ s.tailTokens.head?, t = .word "ORDER" ∨ t = .word "LIMIT" := by
  obtain ⟨projection, source, joins, condition, order, window⟩ := s
  intro t ht
  rcases order with _ | _ | ⟨key, keys⟩ <;> cases window <;> cases ht
  all_goals first | exact .inl rfl | exact .inr rfl

/-- The condition of a statement ends where its order or its window begins. -/
theorem takeWhile_condition (c : Condition) (s : Select) :
    ((c.tokens ++ s.tailTokens).map Token.plain).takeWhile
        (fun t => t ≠ .word "ORDER" ∧ t ≠ .word "LIMIT")
      = c.tokens := by
  have inside : ∀ t ∈ c.tokens, t ≠ .word "ORDER" ∧ t ≠ .word "LIMIT" := by
    have lacks := lacks_condition c
    rw [Lacks, plain_condition] at lacks
    exact fun t ht => ⟨fun e => lacks "ORDER" (by simp) (e ▸ ht),
      fun e => lacks "LIMIT" (by simp) (e ▸ ht)⟩
  have ends : ∀ t ∈ (s.tailTokens.map Token.plain).head?,
      decide (t ≠ .word "ORDER" ∧ t ≠ .word "LIMIT") = false := by
    intro t ht
    rw [List.head?_map] at ht
    obtain ⟨first, head, rfl⟩ := Option.map_eq_some_iff.1 ht
    obtain rfl | rfl := head?_tailTokens s first head <;> rfl
  rw [List.map_append, plain_condition]
  exact Text.takeWhile_run (fun t ht => decide_eq_true (inside t ht)) ends

/-- A statement in whose joins no clause begins is read to have its condition and no other. -/
theorem Statement.readsCondition_iff {s : Statement}
    (h : ∀ join ∈ s.select.joins, Lacks clauseWords join.tokens) (c : Option Condition) :
    s.ReadsCondition c ↔ c = s.select.condition := by
  have head : Lacks ["WHERE"] s.select.headTokens := (lacks_headTokens h).subset (by simp)
  have tail := lacks_tailTokens s.select
  have read := s.linesUp.binding
  cases own : s.select.condition with
  | none =>
    have none : clause? (s.select.tokens.map Token.plain) = none := by
      rw [Select.tokens_of_no_condition own, List.map_append, clause?_append head]
      exact (congrArg clause? (List.append_nil _)).symm.trans (clause?_append tail [])
    constructor
    · rintro ⟨ts, found, rel⟩
      cases read.symm.trans found
      rw [none] at rel
      cases rel
      rfl
    · rintro rfl
      exact ⟨_, read, none ▸ .none⟩
  | some own' =>
    have clause : clause? (s.select.tokens.map Token.plain) = some own'.tokens := by
      rw [Select.tokens_of_condition own, List.append_assoc, List.map_append, clause?_append head]
      exact congrArg some (takeWhile_condition own' s.select)
    have reads := (reads_tokens own').1
    constructor
    · rintro ⟨ts, found, rel⟩
      cases read.symm.trans found
      rw [clause] at rel
      cases rel with
      | some rel => rw [rel.unique reads]
    · rintro rfl
      exact ⟨_, read, clause ▸ .some reads⟩

end Listings.Sql
