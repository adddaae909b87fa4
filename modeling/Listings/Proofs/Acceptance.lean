import Listings.Entity.Catalog
import Listings.Proofs.Outcome
import Listings.Request

/-!
# Accepted filters

Which filters an entity accepts, and what they are resolved to.

* `Resolves`: an accepted filter and its predicate, rule by rule.
* `Entity.resolve_eq_ok_iff`: exactly the filters that a rule allows are accepted.
* `Catalog.testsMembership_of_mem`: every listed entity is one that the rules are about.
-/

namespace Listings

/-! ## The rules -/

/-- The functions test memberships: of a column, or through a table of links. -/
def Entity.TestsMembership (entity : Entity) : Prop :=
  ∀ name resolve, entity.function? name ≠ some (.own resolve)

/-- The value that a constant stands for beside a column. A text beside a date is a date, however it
is written. -/
def Column.denoted? (column : Column) : Literal → Option Value
  | .text s =>
    match column.kind with
    | .date => (Date.parse? s).map fun date => .text date.write
    | _ => some (.text s)
  | .number (.integer n) => some (.integer n)
  | .number (.real x) => some (.real x)
  | .null => some .null

/-- An expression stands for a value beside a column. -/
def Column.Accepts (column : Column) (field : String) (e : Expr) (v : Value) : Prop :=
  column.value field e = .ok v

/-- An expression names a member of an association, which has a stored id. -/
def Entity.Names (entity : Entity) (association : String) (e : Expr) (id : String) : Prop :=
  ∃ s, e = .literal (.text s) ∧ entity.id? association s = some id ∧ id.isEmpty = false

/-- Whether a comparison with null is the opposite of a test for null, if it is one of the two. -/
def Comparator.nullTest? : Comparator → Option Bool
  | .equal => some false
  | .notEqual => some true
  | _ => none

/-- The filters that are accepted for an entity that tests memberships, and their predicates. -/
inductive Resolves (entity : Entity) : Expr → Predicate → Prop
  | and {left right : Expr} {p q : Predicate} (hl : Resolves entity left p)
      (hr : Resolves entity right q) : Resolves entity (.binary .and left right) (.and p q)
  | or {left right : Expr} {p q : Predicate} (hl : Resolves entity left p)
      (hr : Resolves entity right q) : Resolves entity (.binary .or left right) (.or p q)
  | not {e : Expr} {p : Predicate} (h : Resolves entity e p) : Resolves entity (.not e) p.negate
  | isNull {op : Comparator} {negated : Bool} {field : String} {column : Column}
      (ho : op.nullTest? = some negated) (hc : entity.column? field = some column)
      (hn : column.nullable) :
      Resolves entity (.binary (.compare op) (.name field) (.literal .null))
        (.isNull column negated)
  | compare {op : Comparator} {field : String} {column : Column} {e : Expr} {v : Value}
      (hc : entity.column? field = some column) (ho : op ∈ entity.operators column)
      (hv : column.Accepts field e v) :
      Resolves entity (.binary (.compare op) (.name field) e) (.compare op column v)
  | member {field : String} {column : Column} {args : List Expr} {values : List Value}
      (ha : args ≠ []) (hc : entity.column? field = some column)
      (hv : List.Forall₂ (column.Accepts field) args values) :
      Resolves entity (.call Entity.membershipFunction (.name field :: args))
        (.oneOf column values false)
  | inColumn {function field : String} {column : Column} {args : List Expr} {values : List Value}
      (hf : function ≠ Entity.membershipFunction)
      (found : entity.function? function = some (.inColumn field)) (ha : args ≠ [])
      (hc : entity.column? field = some column)
      (hv : List.Forall₂ (column.Accepts field) args values) :
      Resolves entity (.call function args) (.oneOf column values false)
  | inTable {function association : String} {id : ColumnPath} {table : Association}
      {args : List Expr} {members : List String} (hf : function ≠ Entity.membershipFunction)
      (found : entity.function? function = some (.inTable association id)) (ha : args ≠ [])
      (ht : entity.association? association = some table)
      (hm : List.Forall₂ (entity.Names association) args members) :
      Resolves entity (.call function args) (.linked table id members false)

/-! ## What is accepted -/

/-- Beside a column only constants are accepted, and null is none of them. -/
theorem Column.Accepts.denoted {column : Column} {field : String} {e : Expr} {v : Value}
    (h : column.Accepts field e v) :
    ∃ l, e = .literal l ∧ l ≠ .null ∧ column.denoted? l = some v := by
  unfold Accepts Column.value at h
  split at h
  · next s kind =>
    cases h
    exact ⟨.text s, rfl, nofun, by rw [denoted?, kind]⟩
  · next n kind =>
    cases h
    exact ⟨.number (.integer n), rfl, nofun, rfl⟩
  · next x kind =>
    cases h
    exact ⟨.number (.real x), rfl, nofun, rfl⟩
  · next s kind =>
    refine ⟨.text s, rfl, nofun, ?_⟩
    split at h
    · next date found =>
      cases h
      rw [denoted?, kind]
      simp only [found, Option.map_some]
    · cases h
  · cases h

namespace Entity

variable {entity : Entity}

theorem column_eq_ok_iff {field : String} {column : Column} :
    entity.column field = .ok column ↔ entity.column? field = some column := by
  unfold Entity.column
  split
  · next found =>
    rw [found, Except.ok.injEq, Option.some.injEq]
  · next missing =>
    rw [missing]
    exact ⟨nofun, nofun⟩

theorem fieldName_eq_ok_iff {e : Expr} {field : String} :
    e.fieldName = .ok field ↔ e = .name field := by
  cases e with
  | name word => rw [Expr.fieldName, Except.ok.injEq, Expr.name.injEq]
  | _ => exact ⟨nofun, nofun⟩

theorem textArgument_eq_ok_iff {function : String} {e : Expr} {s : String} :
    e.textArgument function = .ok s ↔ e = .literal (.text s) := by
  unfold Expr.textArgument
  split
  · rw [Except.ok.injEq, Expr.literal.injEq, Literal.text.injEq]
  · next other =>
    refine ⟨nofun, ?_⟩
    rintro rfl
    exact absurd rfl (other s)

theorem member_eq_ok_iff {function association : String} {e : Expr} {id : String} :
    entity.member function association e = .ok id ↔ entity.Names association e id := by
  unfold Entity.member
  rw [bind_eq_ok_iff]
  refine exists_congr fun s => ?_
  rw [textArgument_eq_ok_iff]
  refine and_congr_right fun _ => ?_
  split
  · next missing =>
    rw [missing]
    exact ⟨nofun, nofun⟩
  · next stored found =>
    rw [found, Option.some.injEq]
    split
    · next empty =>
      refine ⟨nofun, ?_⟩
      rintro ⟨rfl, nonempty⟩
      rw [empty] at nonempty
      cases nonempty
    · next nonempty =>
      constructor
      · intro h
        cases h
        exact ⟨rfl, by simpa using nonempty⟩
      · rintro ⟨rfl, -⟩
        rfl

theorem inColumn_eq_ok_iff {function field : String} {args : List Expr} {p : Predicate} :
    entity.inColumn function field args = .ok p ↔
      args ≠ [] ∧ ∃ column, entity.column? field = some column ∧
        ∃ values, List.Forall₂ (column.Accepts field) args values ∧
          p = .oneOf column values false := by
  unfold Entity.inColumn
  cases args with
  | nil => exact ⟨nofun, fun h => absurd rfl h.1⟩
  | cons first others =>
    simp only [List.isEmpty_cons, Bool.false_eq_true, if_false]
    rw [bind_eq_ok_iff, and_iff_right (List.cons_ne_nil first others)]
    refine exists_congr fun column => ?_
    rw [column_eq_ok_iff, bind_eq_ok_iff]
    refine and_congr_right fun _ => exists_congr fun values => ?_
    rw [mapM_eq_ok_iff]
    exact and_congr_right fun _ => ok_eq_ok_iff

theorem inTable_eq_ok_iff {function association : String} {id : ColumnPath} {args : List Expr}
    {p : Predicate} :
    entity.inTable function association id args = .ok p ↔
      args ≠ [] ∧ ∃ members, List.Forall₂ (entity.Names association) args members ∧
        ∃ table, entity.association? association = some table ∧
          p = .linked table id members false := by
  unfold Entity.inTable
  cases args with
  | nil => exact ⟨nofun, fun h => absurd rfl h.1⟩
  | cons first others =>
    simp only [List.isEmpty_cons, Bool.false_eq_true, if_false]
    rw [bind_eq_ok_iff, and_iff_right (List.cons_ne_nil first others)]
    refine exists_congr fun members => ?_
    simp only [mapM_eq_ok_iff, member_eq_ok_iff]
    refine and_congr_right fun _ => ?_
    split
    · next missing =>
      rw [missing]
      exact ⟨nofun, nofun⟩
    · next table found =>
      rw [found]
      constructor
      · intro h
        exact ⟨table, rfl, ok_eq_ok_iff.1 h⟩
      · rintro ⟨table', same, rfl⟩
        cases same
        rfl

theorem nullTest_eq_ok_iff {op : Comparator} {field : String} {column : Column} {p : Predicate} :
    nullTest op field column = .ok p ↔
      ∃ negated, op.nullTest? = some negated ∧ column.nullable ∧ p = .isNull column negated := by
  have test : ∀ negated,
      (if column.nullable then pure (Predicate.isNull column negated)
        else throw (ResolveError.notNullable field) : Except ResolveError Predicate) = .ok p ↔
      column.nullable ∧ p = .isNull column negated := by
    intro negated
    split
    · next nullable =>
      rw [and_iff_right nullable]
      exact ok_eq_ok_iff
    · next notNullable =>
      exact ⟨nofun, fun h => absurd h.1 notNullable⟩
  unfold nullTest
  cases op with
  | equal => exact (test false).trans ⟨fun h => ⟨false, rfl, h⟩, fun ⟨_, rfl, h⟩ => h⟩
  | notEqual => exact (test true).trans ⟨fun h => ⟨true, rfl, h⟩, fun ⟨_, rfl, h⟩ => h⟩
  | _ => exact ⟨nofun, nofun⟩

theorem comparison_eq_ok_iff {op : Comparator} {left right : Expr} {p : Predicate} :
    entity.comparison op left right = .ok p ↔
      Resolves entity (.binary (.compare op) left right) p := by
  constructor
  · intro h
    obtain ⟨field, hf, h⟩ := bind_eq_ok_iff.1 h
    obtain ⟨column, hc, h⟩ := bind_eq_ok_iff.1 h
    rw [column_eq_ok_iff] at hc
    rw [fieldName_eq_ok_iff.1 hf]
    split at h
    · obtain ⟨negated, ho, hn, rfl⟩ := nullTest_eq_ok_iff.1 h
      exact .isNull ho hc hn
    · split at h
      · next allowed =>
        obtain ⟨v, hv, h⟩ := bind_eq_ok_iff.1 h
        cases h
        exact .compare hc allowed hv
      · cases h
  · intro h
    cases h with
    | isNull ho hc hn =>
      refine bind_eq_ok_iff.2 ⟨_, rfl, bind_eq_ok_iff.2 ⟨_, column_eq_ok_iff.2 hc, ?_⟩⟩
      exact nullTest_eq_ok_iff.2 ⟨_, ho, hn, rfl⟩
    | compare hc ho hv =>
      obtain ⟨l, rfl, notNull, -⟩ := hv.denoted
      refine bind_eq_ok_iff.2 ⟨_, rfl, bind_eq_ok_iff.2 ⟨_, column_eq_ok_iff.2 hc, ?_⟩⟩
      cases l with
      | null => exact absurd rfl notNull
      | text | number =>
        refine (if_pos ho).trans ?_
        exact bind_eq_ok_iff.2 ⟨_, hv, rfl⟩

theorem call_eq_ok_iff (plain : entity.TestsMembership) {function : String} {args : List Expr}
    {p : Predicate} :
    entity.call function args = .ok p ↔ Resolves entity (.call function args) p := by
  constructor
  · intro h
    unfold call at h
    split at h
    · next name =>
      split at h
      · cases h
      · obtain ⟨field, hf, h⟩ := bind_eq_ok_iff.1 h
        obtain ⟨ha, column, hc, values, hv, rfl⟩ := inColumn_eq_ok_iff.1 h
        rw [fieldName_eq_ok_iff.1 hf, name]
        exact .member ha hc hv
    · next name =>
      split at h
      · cases h
      · next found =>
        obtain ⟨ha, members, hm, table, ht, rfl⟩ := inTable_eq_ok_iff.1 h
        exact .inTable name found ha ht hm
      · next found =>
        obtain ⟨ha, column, hc, values, hv, rfl⟩ := inColumn_eq_ok_iff.1 h
        exact .inColumn name found ha hc hv
      · next found => exact absurd found (plain function _)
  · intro h
    cases h with
    | member ha hc hv =>
      refine bind_eq_ok_iff.2 ⟨_, rfl, ?_⟩
      exact inColumn_eq_ok_iff.2 ⟨ha, _, hc, _, hv, rfl⟩
    | inColumn hf found ha hc hv =>
      unfold call
      rw [if_neg hf, found]
      exact inColumn_eq_ok_iff.2 ⟨ha, _, hc, _, hv, rfl⟩
    | inTable hf found ha ht hm =>
      unfold call
      rw [if_neg hf, found]
      exact inTable_eq_ok_iff.2 ⟨ha, _, hm, _, ht, rfl⟩

/-- What is accepted is accepted by a rule, and what a rule allows is accepted. -/
theorem resolve_eq_ok_iff (plain : entity.TestsMembership) {e : Expr} {p : Predicate} :
    entity.resolve e = .ok p ↔ Resolves entity e p := by
  constructor
  · intro h
    fun_induction entity.resolve e generalizing p with
    | case1 left right ihl ihr =>
      obtain ⟨q, hl, h⟩ := bind_eq_ok_iff.1 h
      obtain ⟨r, hr, h⟩ := bind_eq_ok_iff.1 h
      cases h
      exact .and (ihl hl) (ihr hr)
    | case2 left right ihl ihr =>
      obtain ⟨q, hl, h⟩ := bind_eq_ok_iff.1 h
      obtain ⟨r, hr, h⟩ := bind_eq_ok_iff.1 h
      cases h
      exact .or (ihl hl) (ihr hr)
    | case3 op left right => exact comparison_eq_ok_iff.1 h
    | case4 inner ih =>
      obtain ⟨q, hq, h⟩ := bind_eq_ok_iff.1 h
      cases h
      exact .not (ih hq)
    | case5 function args => exact (call_eq_ok_iff plain).1 h
    | case6 | case7 => cases h
  · intro h
    induction h with
    | and _ _ ihl ihr | or _ _ ihl ihr =>
      exact bind_eq_ok_iff.2 ⟨_, ihl, bind_eq_ok_iff.2 ⟨_, ihr, rfl⟩⟩
    | not _ ih => exact bind_eq_ok_iff.2 ⟨_, ih, rfl⟩
    | isNull ho hc hn => exact comparison_eq_ok_iff.2 (.isNull ho hc hn)
    | compare hc ho hv => exact comparison_eq_ok_iff.2 (.compare hc ho hv)
    | member ha hc hv => exact (call_eq_ok_iff plain).2 (.member ha hc hv)
    | inColumn hf found ha hc hv => exact (call_eq_ok_iff plain).2 (.inColumn hf found ha hc hv)
    | inTable hf found ha ht hm => exact (call_eq_ok_iff plain).2 (.inTable hf found ha ht hm)

/-- The predicate of a filter is what an expression is resolved to that the filter is read as. -/
theorem exists_resolves_of_compileFilter (plain : entity.TestsMembership) {filter : String}
    {p : Predicate} (h : entity.compileFilter filter = .ok (some p)) :
    ∃ e, Expr.parse filter = .ok e ∧ Resolves entity e p := by
  unfold compileFilter at h
  split at h
  · cases h
  · obtain ⟨q, understood, same⟩ := map_eq_ok_iff.1 (mapError_eq_ok_iff.1 h)
    cases same
    obtain ⟨e, parsed, resolved⟩ := bind_eq_ok_iff.1 understood
    have resolves := (resolve_eq_ok_iff plain).1 (mapError_eq_ok_iff.1 resolved)
    exact ⟨e, mapError_eq_ok_iff.1 parsed, resolves⟩

end Entity

namespace Catalog

/-- A function that is found in a table is an entry of it. -/
theorem mem_of_functions {table : List (String × Function)} {name : String} {function : Function}
    (found : functions table name = some function) : (name, function) ∈ table := by
  rw [functions, List.lookup_eq_some_iff] at found
  obtain ⟨before, after, rfl, -⟩ := found
  simp

/-- An entity with a table of functions tests memberships if no function in it is its own. -/
theorem testsMembership_of_table {entity : Entity} (table : List (String × Function))
    (hf : entity.function? = functions table)
    (membership : ∀ entry ∈ table, ∀ resolve, entry.2 ≠ .own resolve) : entity.TestsMembership := by
  intro name resolve found
  rw [hf] at found
  exact membership _ (mem_of_functions found) resolve rfl

/-- Every listed entity tests memberships. -/
theorem testsMembership_of_mem {entity : Entity}
    (listed : entity ∈ [media, anime, collection, notification, release, shows]) :
    entity.TestsMembership := by
  simp only [List.mem_cons, List.not_mem_nil, or_false] at listed
  rcases listed with rfl | rfl | rfl | rfl | rfl | rfl
  · exact testsMembership_of_table [hasTag "media.id", hasType, hasStatus] rfl
      (by simp [hasTag, hasType, hasStatus])
  · exact testsMembership_of_table [hasTag "animes.id", hasStatus] rfl (by simp [hasTag, hasStatus])
  · exact testsMembership_of_table [] rfl (by simp)
  · exact testsMembership_of_table [hasType] rfl (by simp [hasType])
  · exact testsMembership_of_table [hasTag "media.id"] rfl (by simp [hasTag])
  · exact testsMembership_of_table [hasType] rfl (by simp [hasType])

end Catalog

end Listings
