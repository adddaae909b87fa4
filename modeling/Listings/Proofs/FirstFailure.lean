import Listings.Proofs.Conditions
import Listings.Proofs.Tokenizing
import Listings.Request

/-!
# The first failure

A filter that an entity refuses is refused for one reason, and that is the one that stands first.

* `FailsFirst`: the reason of the first item of a list on which a step fails.
* `mapM_eq_error_iff`: a step that goes through a list fails so.
* `Entity.resolve_eq_error_iff`: a filter fails as the first of its conditions that fails on its own.
* `Entity.inColumn_eq_error_iff`, `Entity.inTable_eq_error_iff`: a membership test fails as the first of
  its arguments.
* `Entity.reportsFirst`: every failure of a filter is that of its first part that fails.
-/

namespace Listings

/-! ## The first of some items -/

section FailsFirst

variable {ε α β γ : Type} {f : α → Except ε β} {g : α → Except ε γ} {a : α} {as bs : List α} {e : ε}

/-- A step fails on the first item of a list on which it fails at all: on those before it the step
succeeds, and what comes after it does not count. -/
def FailsFirst (f : α → Except ε β) (as : List α) (e : ε) : Prop :=
  ∃ before a after, as = before ++ a :: after ∧ (∀ b ∈ before, ∃ v, f b = .ok v) ∧ f a = .error e

theorem exists_ok_iff_ne_error {x : Except ε α} : (∃ a, x = .ok a) ↔ ¬∃ e, x = .error e := by
  cases x <;> simp

/-- What is made of a value fails as the value does. -/
theorem bind_pure_eq_error_iff {x : Except ε α} {make : α → β} :
    (do return make (← x)) = .error e ↔ x = .error e := by
  rw [bind_eq_error_iff]
  refine or_iff_left ?_
  rintro ⟨a, -, h⟩
  cases h

theorem not_failsFirst_nil : ¬FailsFirst f [] e := by
  rintro ⟨before, a, after, whole, -⟩
  simp at whole

/-- Either the first item fails, or it succeeds and the others are left. -/
theorem failsFirst_cons_iff :
    FailsFirst f (a :: as) e ↔ f a = .error e ∨ (∃ v, f a = .ok v) ∧ FailsFirst f as e := by
  constructor
  · rintro ⟨before, b, after, whole, ok, fails⟩
    cases before with
    | nil =>
      cases whole
      exact .inl fails
    | cons first before =>
      cases whole
      obtain ⟨first, rest⟩ := List.forall_mem_cons.1 ok
      exact .inr ⟨first, before, b, after, rfl, rest, fails⟩
  · rintro (fails | ⟨first, before, b, after, rfl, rest, fails⟩)
    · exact ⟨[], a, as, rfl, nofun, fails⟩
    · exact ⟨a :: before, b, after, rfl, List.forall_mem_cons.2 ⟨first, rest⟩, fails⟩

theorem failsFirst_singleton_iff : FailsFirst f [a] e ↔ f a = .error e := by
  rw [failsFirst_cons_iff, or_iff_left fun h => not_failsFirst_nil h.2]

/-- Of two lists the second one counts if nothing fails in the first. -/
theorem failsFirst_append_iff :
    FailsFirst f (as ++ bs) e ↔
      FailsFirst f as e ∨ (∀ a ∈ as, ∃ v, f a = .ok v) ∧ FailsFirst f bs e := by
  induction as with
  | nil => simp [not_failsFirst_nil]
  | cons a as ih =>
    rw [List.cons_append, failsFirst_cons_iff, failsFirst_cons_iff, ih, List.forall_mem_cons]
    tauto

/-- There is a first item that fails if one fails. -/
theorem exists_failsFirst_iff : (∃ e, FailsFirst f as e) ↔ ∃ a ∈ as, ∃ e, f a = .error e := by
  induction as with
  | nil => simp [not_failsFirst_nil]
  | cons a as ih =>
    simp only [failsFirst_cons_iff, exists_or, exists_and_left, ih, List.exists_mem_cons_iff]
    rw [exists_ok_iff_ne_error]
    tauto

/-- Steps that fail on the same items, each for the same reason, fail on the same first item. -/
theorem failsFirst_congr (h : ∀ a ∈ as, ∀ e, f a = .error e ↔ g a = .error e) :
    FailsFirst f as e ↔ FailsFirst g as e := by
  induction as with
  | nil => exact iff_of_false not_failsFirst_nil not_failsFirst_nil
  | cons a as ih =>
    obtain ⟨first, rest⟩ := List.forall_mem_cons.1 h
    rw [failsFirst_cons_iff, failsFirst_cons_iff, ih rest, first, exists_ok_iff_ne_error,
      exists_ok_iff_ne_error]
    simp only [first]

/-- What fails on the first item of a list succeeds if nothing fails. -/
theorem exists_ok_iff_of_failsFirst {x : Except ε γ} (hx : ∀ e, x = .error e ↔ FailsFirst f as e) :
    (∃ v, x = .ok v) ↔ ∀ a ∈ as, ∃ v, f a = .ok v := by
  simp only [exists_ok_iff_ne_error, hx, exists_failsFirst_iff, not_exists, not_and]

/-- What needs two steps fails on the first item of both. -/
theorem failsFirst_both {δ ζ : Type} {x : Except ε γ} {y : Except ε δ} {make : γ → δ → ζ}
    (hx : ∀ e, x = .error e ↔ FailsFirst f as e) (hy : ∀ e, y = .error e ↔ FailsFirst f bs e) :
    (do return make (← x) (← y)) = .error e ↔ FailsFirst f (as ++ bs) e := by
  rw [failsFirst_append_iff, ← hx, ← hy, ← exists_ok_iff_of_failsFirst hx, bind_eq_error_iff]
  refine or_congr_right ⟨?_, ?_⟩
  · rintro ⟨v, first, h⟩
    rcases bind_eq_error_iff.1 h with second | ⟨w, -, h⟩
    · exact ⟨⟨v, first⟩, second⟩
    · cases h
  · rintro ⟨⟨v, first⟩, second⟩
    exact ⟨v, first, bind_eq_error_iff.2 (.inl second)⟩

/-- What goes through a list fails on its first item that fails. -/
theorem mapM_eq_error_iff : as.mapM f = .error e ↔ FailsFirst f as e := by
  induction as generalizing e with
  | nil => exact iff_of_false nofun not_failsFirst_nil
  | cons a as ih =>
    rw [List.mapM_cons, ← List.singleton_append]
    exact failsFirst_both (fun _ => failsFirst_singleton_iff.symm) fun _ => ih

end FailsFirst

/-! ## Filters -/

namespace Entity

variable {entity : Entity}

/-- A filter fails as the first of its conditions that fails on its own. -/
theorem resolve_eq_error_iff (e : Expr) (err : ResolveError) :
    entity.resolve e = .error err ↔ FailsFirst entity.resolve e.conditions err := by
  fun_induction Expr.conditions e generalizing err with
  | case1 left right ihl ihr | case2 left right ihl ihr => exact failsFirst_both ihl ihr
  | case3 inner ih => exact bind_pure_eq_error_iff.trans (ih err)
  | case4 other => exact failsFirst_singleton_iff.symm

/-! ## Arguments -/

/-- A test of a column that is there fails on the first argument that is no value of its kind. -/
theorem inColumn_eq_error_iff {field : String} {column : Column} {args : List Expr}
    (hc : entity.column? field = some column) (ne : args ≠ []) (function : String)
    (err : ResolveError) :
    entity.inColumn function field args = .error err ↔ FailsFirst (column.value field) args err := by
  unfold inColumn
  rw [if_neg (by simpa using ne), column_eq_ok_iff.2 hc, ← mapM_eq_error_iff]
  exact bind_pure_eq_error_iff

/-- A test through a table that is there fails on the first argument that names no member. -/
theorem inTable_eq_error_iff {association : String} {table : Association} {args : List Expr}
    (ht : entity.association? association = some table) (ne : args ≠ []) (function : String)
    (id : ColumnPath) (err : ResolveError) :
    entity.inTable function association id args = .error err ↔
      FailsFirst (entity.member function association) args err := by
  unfold inTable
  rw [if_neg (by simpa using ne), ht, ← mapM_eq_error_iff]
  exact bind_pure_eq_error_iff

/-- What fails on the first of its arguments fails on the first that it fails on alone. -/
theorem failsFirst_alone {β γ : Type} {f : Expr → Except ResolveError β}
    {test : List Expr → Except ResolveError γ}
    (h : ∀ args ≠ [], ∀ err, test args = .error err ↔ FailsFirst f args err) {args : List Expr}
    (ne : args ≠ []) (err : ResolveError) :
    test args = .error err ↔ FailsFirst (fun arg => test [arg]) args err := by
  rw [h args ne]
  refine failsFirst_congr fun arg _ e => ?_
  rw [h [arg] (List.cons_ne_nil _ _), failsFirst_singleton_iff]

/-! ## What is reported -/

/-- A call that tests a membership, as an expression of the arguments that it tests. What it tests is
there, so that nothing but an argument can be wrong. -/
inductive TakesArguments (entity : Entity) : (List Expr → Expr) → Prop
  | member {field : String} {column : Column} (hc : entity.column? field = some column) :
      TakesArguments entity fun args => .call membershipFunction (.name field :: args)
  | inColumn {function field : String} {column : Column} (hf : function ≠ membershipFunction)
      (found : entity.function? function = some (.inColumn field))
      (hc : entity.column? field = some column) : TakesArguments entity (.call function)
  | inTable {function association : String} {id : ColumnPath} {table : Association}
      (hf : function ≠ membershipFunction)
      (found : entity.function? function = some (.inTable association id))
      (ht : entity.association? association = some table) : TakesArguments entity (.call function)

/-- A call of the general membership function tests the column of its first argument. -/
theorem resolve_membership (field : String) (args : List Expr) :
    entity.resolve (.call membershipFunction (.name field :: args))
      = entity.inColumn membershipFunction field args := rfl

/-- A call of another function is what the entity has under its name. -/
theorem resolve_call_of_ne {function : String} (hf : function ≠ membershipFunction)
    (args : List Expr) :
    entity.resolve (.call function args)
      = match entity.function? function with
        | none => .error (.unknownFunction function)
        | some (.inTable association id) => entity.inTable function association id args
        | some (.inColumn field) => entity.inColumn function field args
        | some (.own resolve) => resolve args := by
  rw [resolve]
  exact if_neg hf

/-- A call fails on the first argument that it fails on alone. -/
theorem TakesArguments.eq_error_iff {call : List Expr → Expr} (h : entity.TakesArguments call)
    {args : List Expr} (ne : args ≠ []) (err : ResolveError) :
    entity.resolve (call args) = .error err ↔
      FailsFirst (fun arg => entity.resolve (call [arg])) args err := by
  cases h with
  | member hc =>
    simp only [resolve_membership]
    exact failsFirst_alone (fun args ne => inColumn_eq_error_iff hc ne _) ne err
  | inColumn hf found hc =>
    simp only [resolve_call_of_ne hf, found]
    exact failsFirst_alone (fun args ne => inColumn_eq_error_iff hc ne _) ne err
  | inTable hf found ht =>
    simp only [resolve_call_of_ne hf, found]
    exact failsFirst_alone (fun args ne => inTable_eq_error_iff ht ne _ _) ne err

/-- A filter with an expression is not blank. -/
theorem not_blank_of_parse {filter : String} {e : Expr} (h : Expr.parse filter = .ok e) :
    (Text.trim filter.toList).isEmpty = false := by
  by_contra blank
  have trims := Text.trim_eq_iff.1 (List.isEmpty_iff.1 (by simpa using blank))
  generalize whole : filter.toList = cs at trims
  cases trims with
  | intro hb ha _ =>
    rw [List.append_nil] at whole
    have none := Filter.tokensFrom_blanks (List.forall_mem_append.2 ⟨hb, ha⟩) 0
    obtain ⟨ts, read, h⟩ := bind_eq_ok_iff.1 h
    rw [Filter.tokens, whole, none] at read
    cases read
    cases h

/-- The answer to a filter that is read as an expression is the answer to the expression. -/
theorem compileFilter_of_parse {filter : String} {e : Expr} (h : Expr.parse filter = .ok e) :
    entity.compileFilter filter
      = ((entity.resolve e).mapError fun err => .filter (.unresolved err)).map some := by
  unfold compileFilter understand
  rw [not_blank_of_parse h, h, if_neg Bool.false_ne_true]
  show (((entity.resolve e).mapError FilterError.unresolved).map some).mapError _ = _
  cases entity.resolve e <;> rfl

/-- Every failure of a filter is that of its first part that fails. -/
structure ReportsFirst (entity : Entity) : Prop where
  /-- A filter fails as the first of its conditions that fails on its own. -/
  conditions : ∀ e err,
    entity.resolve e = .error err ↔ FailsFirst entity.resolve e.conditions err
  /-- It fails only if one of them does. -/
  fails_iff : ∀ e,
    (∃ err, entity.resolve e = .error err) ↔ ∃ c ∈ e.conditions, ∃ err, entity.resolve c = .error err
  /-- What stands after the condition that fails does not count. -/
  right : ∀ before c err, (∀ b ∈ before, ∃ p, entity.resolve b = .ok p) →
    entity.resolve c = .error err →
      ∀ e : Expr, before ++ [c] <+: e.conditions → entity.resolve e = .error err
  /-- A test of a column that is there fails on the first argument that it fails on alone. -/
  column : ∀ function field column args err, entity.column? field = some column → args ≠ [] →
    (entity.inColumn function field args = .error err ↔
      FailsFirst (fun arg => entity.inColumn function field [arg]) args err)
  /-- So does a test through a table that is there. -/
  table : ∀ function association id table args err, entity.association? association = some table →
    args ≠ [] →
      (entity.inTable function association id args = .error err ↔
        FailsFirst (fun arg => entity.inTable function association id [arg]) args err)
  /-- And so do the calls in a filter that make these tests. -/
  call : ∀ call args err, entity.TakesArguments call → args ≠ [] →
    (entity.resolve (call args) = .error err ↔
      FailsFirst (fun arg => entity.resolve (call [arg])) args err)
  /-- The answer to a filter that fails is the failure and nothing else. -/
  answer : ∀ filter e err, Expr.parse filter = .ok e → FailsFirst entity.resolve e.conditions err →
    entity.compileFilter filter = .error (.filter (.unresolved err))

/-- Whatever entity it is, a filter is refused for the first reason that there is. -/
theorem reportsFirst (entity : Entity) : entity.ReportsFirst where
  conditions := resolve_eq_error_iff
  fails_iff e := by simp only [resolve_eq_error_iff e, exists_failsFirst_iff]
  right := by
    rintro before c err ok fails e ⟨after, whole⟩
    refine (resolve_eq_error_iff e err).2 ⟨before, c, after, ?_, ok, fails⟩
    rw [← whole, List.append_assoc, List.singleton_append]
  column function field column args err hc ne :=
    failsFirst_alone (fun args ne => inColumn_eq_error_iff hc ne function) ne err
  table function association id table args err ht ne :=
    failsFirst_alone (fun args ne => inTable_eq_error_iff ht ne function id) ne err
  call call args err h ne := h.eq_error_iff ne err
  answer filter e err parsed fails := by
    rw [compileFilter_of_parse parsed, (resolve_eq_error_iff e err).2 fails]
    rfl

end Entity

end Listings
