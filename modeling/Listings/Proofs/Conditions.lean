import Listings.Proofs.Acceptance
import Listings.Proofs.Dates

/-!
# Conditions and tests

A filter consists of conditions with `&&`, `||` and `!` between them, and the predicate that it is
resolved to of tests.

* `Expr.conditions`, `Predicate.tests`: the parts, from left to right.
* `Kind.Denotes`: the value that a constant stands for beside a column.
* `Entity.Tests`: the test that a condition stands for.
* `Resolves.tests`: the tests of a predicate are those of the conditions of its filter, one by one.
-/

namespace Listings

/-! ## The parts -/

/-- The conditions of a filter, from left to right. -/
def Expr.conditions : Expr → List Expr
  | binary .and left right | binary .or left right => left.conditions ++ right.conditions
  | not inner => inner.conditions
  | other => [other]

/-- What is collected from both sides of `&&` and `||` and from under `!` is collected from the
conditions. -/
theorem Expr.eq_flatMap_conditions {α : Type} {f : Expr → List α}
    (and : ∀ left right, f (.binary .and left right) = f left ++ f right)
    (or : ∀ left right, f (.binary .or left right) = f left ++ f right)
    (not : ∀ inner, f (.not inner) = f inner) (e : Expr) : f e = e.conditions.flatMap f := by
  fun_induction conditions e with
  | case1 left right ihl ihr => rw [and, ihl, ihr, List.flatMap_append]
  | case2 left right ihl ihr => rw [or, ihl, ihr, List.flatMap_append]
  | case3 inner ih => rw [not, ih]
  | case4 other => exact (List.flatMap_singleton f other).symm

/-- The tests of a predicate, from left to right, none of them negated. -/
def Predicate.tests : Predicate → List Predicate
  | and left right | or left right => left.tests ++ right.tests
  | not inner => inner.tests
  | isNull column _ => [isNull column false]
  | compare op column v => [compare op column v]
  | oneOf column values _ => [oneOf column values false]
  | linked association id members _ => [linked association id members false]

theorem Predicate.tests_negate (p : Predicate) : p.negate.tests = p.tests := by
  cases p <;> rfl

/-! ## Constants -/

/-- A constant stands for a value beside a column of a kind. A text beside a date stands for the normal
form of the date that it spells. Null stands for nothing. -/
inductive Kind.Denotes : Kind → Literal → Value → Prop
  | text (s : String) : Denotes .string (.text s) (.text s)
  | integer (n : Int64) : Denotes .number (.number (.integer n)) (.integer n)
  | real (x : Binary64) : Denotes .number (.number (.real x)) (.real x)
  | date {s : String} {date : Date} (h : Date.Spells s date.year date.month date.day) :
      Denotes .date (.text s) (.text date.write)

/-- A constant stands for no more than one value. -/
theorem Kind.Denotes.unique {kind : Kind} {l : Literal} {v v' : Value} (h : kind.Denotes l v)
    (h' : kind.Denotes l v') : v = v' := by
  cases h with
  | text | integer | real =>
    cases h'
    rfl
  | date spells =>
    cases h' with
    | date spells' =>
      have read := Date.parse?_eq_some_iff.2 spells
      rw [Date.parse?_eq_some_iff.2 spells', Option.some.injEq] at read
      rw [read]

/-- What is accepted beside a column are constants that stand for a value. -/
theorem Column.accepts_iff {column : Column} {field : String} {e : Expr} {v : Value} :
    column.Accepts field e v ↔ ∃ l, e = .literal l ∧ column.kind.Denotes l v := by
  unfold Accepts Column.value
  constructor
  · intro h
    split at h
    · next kind =>
      cases h
      rw [kind]
      exact ⟨_, rfl, .text _⟩
    · next kind =>
      cases h
      rw [kind]
      exact ⟨_, rfl, .integer _⟩
    · next kind =>
      cases h
      rw [kind]
      exact ⟨_, rfl, .real _⟩
    · next kind =>
      split at h
      · next date read =>
        cases h
        rw [kind]
        exact ⟨_, rfl, .date (Date.parse?_eq_some_iff.1 read)⟩
      · cases h
    · cases h
  · rintro ⟨l, rfl, h⟩
    cases column with
    | mk kind path nullable =>
      cases h with
      | text | integer | real => rfl
      | date spells => simp only [Date.parse?_eq_some_iff.2 spells]

/-- Items that are all of one form, item by item. -/
theorem forall₂_form_iff {α β γ : Type} {f : γ → α} {R : γ → β → Prop} {as : List α} {bs : List β} :
    List.Forall₂ (fun a b => ∃ c, a = f c ∧ R c b) as bs ↔
      ∃ cs, as = cs.map f ∧ List.Forall₂ R cs bs := by
  constructor
  · intro h
    induction h with
    | nil => exact ⟨[], rfl, .nil⟩
    | cons first _ ih =>
      obtain ⟨c, rfl, first⟩ := first
      obtain ⟨cs, rfl, rest⟩ := ih
      exact ⟨c :: cs, rfl, .cons first rest⟩
  · rintro ⟨cs, rfl, h⟩
    exact List.forall₂_map_left_iff.2 (h.imp fun c b related => ⟨c, rfl, related⟩)

/-- Of lists that belong together item by item, both are empty or none is. -/
theorem ne_nil_of_forall₂ {α β : Type} {R : α → β → Prop} {as : List α} {bs : List β}
    (h : List.Forall₂ R as bs) (ne : as ≠ []) : bs ≠ [] := by
  rintro rfl
  cases h
  exact ne rfl

/-- A list of constants stands for a list of values. -/
theorem Column.forall₂_accepts_iff {column : Column} {field : String} {args : List Expr}
    {vs : List Value} :
    List.Forall₂ (column.Accepts field) args vs ↔
      ∃ ls : List Literal, args = ls.map .literal ∧ List.Forall₂ column.kind.Denotes ls vs := by
  rw [← forall₂_form_iff]
  exact ⟨fun h => h.imp fun _ _ => accepts_iff.1, fun h => h.imp fun _ _ => accepts_iff.2⟩

namespace Entity

/-- A text is the display name of a member of an association, which has a stored id. -/
def Stores (entity : Entity) (association name id : String) : Prop :=
  entity.id? association name = some id ∧ id ≠ ""

variable {entity : Entity}

/-- A list of texts names the members of an association. -/
theorem forall₂_names_iff {association : String} {args : List Expr} {ids : List String} :
    List.Forall₂ (entity.Names association) args ids ↔
      ∃ names : List String, args = names.map (fun s => .literal (.text s)) ∧
        List.Forall₂ (entity.Stores association) names ids := by
  have stores : ∀ s id, (entity.id? association s = some id ∧ id.isEmpty = false) ↔
      entity.Stores association s id := fun s id =>
    and_congr_right fun _ => by rw [String.isEmpty_eq_false_iff]
  rw [← forall₂_form_iff]
  simp only [← stores]
  rfl

/-! ## The test of a condition -/

/-- The test that a condition stands for, whether it is negated or not. -/
inductive Tests (entity : Entity) : Expr → Predicate → Prop
  | isNull {op : Comparator} {field : String} {column : Column}
      (ho : op = .equal ∨ op = .notEqual) (hc : entity.column? field = some column)
      (hn : column.nullable) :
      Tests entity (.binary (.compare op) (.name field) (.literal .null)) (.isNull column false)
  | compare {op : Comparator} {field : String} {column : Column} {l : Literal} {v : Value}
      (hc : entity.column? field = some column) (ho : op ∈ entity.operators column)
      (hv : column.kind.Denotes l v) :
      Tests entity (.binary (.compare op) (.name field) (.literal l)) (.compare op column v)
  | member {field : String} {column : Column} {ls : List Literal} {vs : List Value}
      (ne : ls ≠ []) (hc : entity.column? field = some column)
      (hv : List.Forall₂ column.kind.Denotes ls vs) :
      Tests entity (.call membershipFunction (.name field :: ls.map .literal))
        (.oneOf column vs false)
  | inColumn {function field : String} {column : Column} {ls : List Literal} {vs : List Value}
      (hf : function ≠ membershipFunction)
      (found : entity.function? function = some (.inColumn field)) (ne : ls ≠ [])
      (hc : entity.column? field = some column) (hv : List.Forall₂ column.kind.Denotes ls vs) :
      Tests entity (.call function (ls.map .literal)) (.oneOf column vs false)
  | inTable {function association : String} {id : ColumnPath} {table : Association}
      {names ids : List String} (hf : function ≠ membershipFunction)
      (found : entity.function? function = some (.inTable association id)) (ne : names ≠ [])
      (ht : entity.association? association = some table)
      (hm : List.Forall₂ (entity.Stores association) names ids) :
      Tests entity (.call function (names.map fun s => .literal (.text s)))
        (.linked table id ids false)

end Entity

theorem Comparator.nullTest?_isSome_iff {op : Comparator} :
    op.nullTest?.isSome ↔ op = .equal ∨ op = .notEqual := by
  cases op <;> simp [nullTest?]

/-- The tests of a predicate are those of the conditions of the filter that it is resolved from. -/
theorem Resolves.tests {entity : Entity} {e : Expr} {p : Predicate} (h : Resolves entity e p) :
    List.Forall₂ entity.Tests e.conditions p.tests := by
  induction h with
  | and _ _ ihl ihr | or _ _ ihl ihr => exact List.rel_append ihl ihr
  | @not e p _ ih => rwa [Expr.conditions, p.tests_negate]
  | @isNull op negated field column ho hc hn =>
    have equality := Comparator.nullTest?_isSome_iff.1 (Option.isSome_of_eq_some ho)
    exact .cons (.isNull equality hc hn) .nil
  | compare hc ho hv =>
    obtain ⟨l, rfl, denotes⟩ := Column.accepts_iff.1 hv
    exact .cons (.compare hc ho denotes) .nil
  | member ha hc hv =>
    obtain ⟨ls, rfl, denotes⟩ := Column.forall₂_accepts_iff.1 hv
    exact .cons (.member (by simpa using ha) hc denotes) .nil
  | inColumn hf found ha hc hv =>
    obtain ⟨ls, rfl, denotes⟩ := Column.forall₂_accepts_iff.1 hv
    exact .cons (.inColumn hf found (by simpa using ha) hc denotes) .nil
  | inTable hf found ha ht hm =>
    obtain ⟨names, rfl, stores⟩ := Entity.forall₂_names_iff.1 hm
    exact .cons (.inTable hf found (by simpa using ha) ht stores) .nil

end Listings
