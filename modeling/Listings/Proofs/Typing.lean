import Listings.Proofs.Conditions

/-!
# Well-typed filters

A filter fits an entity or it does not, whatever order its parts are looked at in, and the predicate
that it is resolved to says nothing but what the entity knows.

* `Entity.WellTyped`: the filters that fit, part by part.
* `exists_resolve_iff_wellTyped`: they are accepted, and no others.
* `Entity.Trusts`: what a test may be about, given the condition that it comes from.
* `resolve_trusted`: every test of the predicate of an accepted filter.
-/

namespace Listings

/-! ## Constants of a kind -/

/-- The constants that fit beside a column of a kind. -/
def Kind.Admits : Kind → Literal → Prop
  | .string, .text _ => True
  | .number, .number _ => True
  | .date, .text s => ∃ date : Date, Date.Spells s date.year date.month date.day
  | _, _ => False

/-- The values that a column of a kind is compared with. -/
def Kind.Holds : Kind → Value → Prop
  | .string, v => ∃ s, v = .text s
  | .number, v => (∃ n, v = .integer n) ∨ ∃ x, v = .real x
  | .date, v => ∃ date : Date, v = .text date.write

/-- A constant fits exactly if it stands for a value. -/
theorem Kind.exists_denotes_iff {kind : Kind} {l : Literal} :
    (∃ v, kind.Denotes l v) ↔ kind.Admits l := by
  constructor
  · rintro ⟨v, h⟩
    cases h with
    | text | integer | real => trivial
    | date spells => exact ⟨_, spells⟩
  · intro h
    match kind, l with
    | .string, .text s => exact ⟨_, .text s⟩
    | .number, .number (.integer n) => exact ⟨_, .integer n⟩
    | .number, .number (.real x) => exact ⟨_, .real x⟩
    | .date, .text s =>
      obtain ⟨date, spells⟩ := h
      exact ⟨_, .date spells⟩

theorem Kind.Denotes.holds {kind : Kind} {l : Literal} {v : Value} (h : kind.Denotes l v) :
    kind.Holds v := by
  cases h with
  | text s => exact ⟨s, rfl⟩
  | integer n => exact .inl ⟨n, rfl⟩
  | real x => exact .inr ⟨x, rfl⟩
  | date spells => exact ⟨_, rfl⟩

/-- All items of a list are related to something if the list is related to some list. -/
theorem exists_forall₂_iff {α β : Type} {R : α → β → Prop} {as : List α} :
    (∃ bs, List.Forall₂ R as bs) ↔ ∀ a ∈ as, ∃ b, R a b := by
  induction as with
  | nil => exact ⟨nofun, fun _ => ⟨[], .nil⟩⟩
  | cons a as ih =>
    rw [List.forall_mem_cons, ← ih]
    constructor
    · rintro ⟨_, _ | ⟨first, rest⟩⟩
      exact ⟨⟨_, first⟩, _, rest⟩
    · rintro ⟨⟨b, first⟩, bs, rest⟩
      exact ⟨b :: bs, .cons first rest⟩

/-! ## Which filters fit -/

namespace Entity

/-- The filters that fit an entity. -/
inductive WellTyped (entity : Entity) : Expr → Prop
  | and {left right : Expr} (hl : WellTyped entity left) (hr : WellTyped entity right) :
      WellTyped entity (.binary .and left right)
  | or {left right : Expr} (hl : WellTyped entity left) (hr : WellTyped entity right) :
      WellTyped entity (.binary .or left right)
  | not {e : Expr} (h : WellTyped entity e) : WellTyped entity (.not e)
  /-- A field that may be null is tested for it. -/
  | isNull {op : Comparator} {field : String} {column : Column}
      (hc : entity.column? field = some column) (ho : op = .equal ∨ op = .notEqual)
      (hn : column.nullable) :
      WellTyped entity (.binary (.compare op) (.name field) (.literal .null))
  /-- A field is compared with a constant of its kind as its column allows. -/
  | compare {op : Comparator} {field : String} {column : Column} {l : Literal}
      (hc : entity.column? field = some column) (hl : column.kind.Admits l)
      (ho : op ∈ entity.operators column) :
      WellTyped entity (.binary (.compare op) (.name field) (.literal l))
  /-- A field is looked for among constants of its kind, whatever comparators its column allows. -/
  | member {field : String} {column : Column} {ls : List Literal}
      (hc : entity.column? field = some column) (ne : ls ≠ []) (hl : ∀ l ∈ ls, column.kind.Admits l) :
      WellTyped entity (.call membershipFunction (.name field :: ls.map .literal))
  /-- So is the field of a function. -/
  | inColumn {function field : String} {column : Column} {ls : List Literal}
      (hf : function ≠ membershipFunction)
      (found : entity.function? function = some (.inColumn field))
      (hc : entity.column? field = some column) (ne : ls ≠ []) (hl : ∀ l ∈ ls, column.kind.Admits l) :
      WellTyped entity (.call function (ls.map .literal))
  /-- Members of an association that has a table are named by texts. -/
  | inTable {function association : String} {id : ColumnPath} {table : Association}
      {names : List String} (hf : function ≠ membershipFunction)
      (found : entity.function? function = some (.inTable association id))
      (ht : entity.association? association = some table) (ne : names ≠ [])
      (hm : ∀ name ∈ names, ∃ id, entity.Stores association name id) :
      WellTyped entity (.call function (names.map fun s => .literal (.text s)))

variable {entity : Entity}

/-- A filter fits if its conditions do. -/
theorem wellTyped_of_conditions {e : Expr} (h : ∀ c ∈ e.conditions, entity.WellTyped c) :
    entity.WellTyped e := by
  fun_induction Expr.conditions e with
  | case1 left right ihl ihr =>
    obtain ⟨hl, hr⟩ := List.forall_mem_append.1 h
    exact .and (ihl hl) (ihr hr)
  | case2 left right ihl ihr =>
    obtain ⟨hl, hr⟩ := List.forall_mem_append.1 h
    exact .or (ihl hl) (ihr hr)
  | case3 inner ih => exact .not (ih h)
  | case4 other => exact h other List.mem_cons_self

/-- A condition that stands for a test fits. -/
theorem Tests.wellTyped {condition : Expr} {test : Predicate} (h : entity.Tests condition test) :
    entity.WellTyped condition := by
  have all {kind : Kind} {ls : List Literal} {vs : List Value}
      (denote : List.Forall₂ kind.Denotes ls vs) : ∀ l ∈ ls, kind.Admits l :=
    fun l hl => Kind.exists_denotes_iff.1 (exists_forall₂_iff.1 ⟨vs, denote⟩ l hl)
  cases h with
  | isNull ho hc hn => exact .isNull hc ho hn
  | compare hc ho hv => exact .compare hc (Kind.exists_denotes_iff.1 ⟨_, hv⟩) ho
  | member ne hc hv => exact .member hc ne (all hv)
  | inColumn hf found ne hc hv => exact .inColumn hf found hc ne (all hv)
  | inTable hf found ne ht hm =>
    exact .inTable hf found ht ne (exists_forall₂_iff.1 ⟨_, hm⟩)

/-- A filter that fits is resolved by the rules. -/
theorem WellTyped.exists_resolves {e : Expr} (h : entity.WellTyped e) :
    ∃ p, Resolves entity e p := by
  have values {column : Column} (field : String) {ls : List Literal}
      (admitted : ∀ l ∈ ls, column.kind.Admits l) :
      ∃ vs, List.Forall₂ (column.Accepts field) (ls.map .literal) vs := by
    obtain ⟨vs, denote⟩ :=
      exists_forall₂_iff.2 fun l hl => Kind.exists_denotes_iff.2 (admitted l hl)
    exact ⟨vs, Column.forall₂_accepts_iff.2 ⟨ls, rfl, denote⟩⟩
  induction h with
  | and _ _ ihl ihr =>
    obtain ⟨p, left⟩ := ihl
    obtain ⟨q, right⟩ := ihr
    exact ⟨_, .and left right⟩
  | or _ _ ihl ihr =>
    obtain ⟨p, left⟩ := ihl
    obtain ⟨q, right⟩ := ihr
    exact ⟨_, .or left right⟩
  | not _ ih =>
    obtain ⟨p, inner⟩ := ih
    exact ⟨_, .not inner⟩
  | isNull hc ho hn =>
    obtain ⟨negated, test⟩ := Option.isSome_iff_exists.1 (Comparator.nullTest?_isSome_iff.2 ho)
    exact ⟨_, .isNull test hc hn⟩
  | compare hc hl ho =>
    obtain ⟨v, denotes⟩ := Kind.exists_denotes_iff.2 hl
    exact ⟨_, .compare hc ho (Column.accepts_iff.2 ⟨_, rfl, denotes⟩)⟩
  | @member field column ls hc ne hl =>
    obtain ⟨vs, accepted⟩ := values field hl
    exact ⟨_, .member (by simpa using ne) hc accepted⟩
  | @inColumn function field column ls hf found hc ne hl =>
    obtain ⟨vs, accepted⟩ := values field hl
    exact ⟨_, .inColumn hf found (by simpa using ne) hc accepted⟩
  | inTable hf found ht ne hm =>
    obtain ⟨ids, stored⟩ := exists_forall₂_iff.2 hm
    exact ⟨_, .inTable hf found (by simpa using ne) ht (forall₂_names_iff.2 ⟨_, rfl, stored⟩)⟩

end Entity

/-- Exactly the filters that fit an entity are accepted. -/
theorem exists_resolve_iff_wellTyped {entity : Entity} (plain : entity.TestsMembership) (e : Expr) :
    (∃ p, entity.resolve e = .ok p) ↔ entity.WellTyped e := by
  constructor
  · rintro ⟨p, h⟩
    have tests := ((Entity.resolve_eq_ok_iff plain).1 h).tests
    refine Entity.wellTyped_of_conditions fun c hc => ?_
    obtain ⟨test, tested⟩ := exists_forall₂_iff.1 ⟨_, tests⟩ c hc
    exact tested.wellTyped
  · intro h
    obtain ⟨p, resolves⟩ := h.exists_resolves
    exact ⟨p, (Entity.resolve_eq_ok_iff plain).2 resolves⟩

/-! ## What a predicate is about -/

namespace Entity

/-- The field that a condition is about: the one that it names, or the one of the function that it
calls. -/
def fieldOf? (entity : Entity) : Expr → Option String
  | .binary (.compare _) (.name field) _ => some field
  | .call function args =>
    if function = membershipFunction then
      match args with
      | .name field :: _ => some field
      | _ => none
    else
      match entity.function? function with
      | some (.inColumn field) => some field
      | _ => none
  | _ => none

/-- A column is the one that the entity has for the field of a condition. -/
def Sees (entity : Entity) (condition : Expr) (column : Column) : Prop :=
  ∃ field, entity.fieldOf? condition = some field ∧ entity.column? field = some column

/-- What is tested is known to the entity, and what it is tested for is of the right kind. -/
def Trusts (entity : Entity) (condition : Expr) : Predicate → Prop
  | .isNull column _ => entity.Sees condition column ∧ column.nullable
  | .compare op column v =>
    entity.Sees condition column ∧ op ∈ entity.operators column ∧ column.kind.Holds v
  | .oneOf column vs _ =>
    entity.Sees condition column ∧ vs ≠ [] ∧ ∀ v ∈ vs, column.kind.Holds v
  | .linked table id ids _ =>
    ∃ function association names,
      condition = .call function (names.map fun s => .literal (.text s)) ∧
      function ≠ membershipFunction ∧
      entity.function? function = some (.inTable association id) ∧
      entity.association? association = some table ∧
      ids ≠ [] ∧ List.Forall₂ (entity.Stores association) names ids
  | .and _ _ | .or _ _ | .not _ => False

/-- The test that a condition stands for is about what the entity knows. -/
theorem Tests.trusts {entity : Entity} {condition : Expr} {test : Predicate}
    (h : entity.Tests condition test) : entity.Trusts condition test := by
  have hold {kind : Kind} {ls : List Literal} {vs : List Value}
      (denote : List.Forall₂ kind.Denotes ls vs) : ∀ v ∈ vs, kind.Holds v := by
    intro v hv
    obtain ⟨l, denotes⟩ := exists_forall₂_iff.1 ⟨_, denote.flip⟩ v hv
    exact denotes.holds
  cases h with
  | isNull ho hc hn => exact ⟨⟨_, rfl, hc⟩, hn⟩
  | compare hc ho hv => exact ⟨⟨_, rfl, hc⟩, ho, hv.holds⟩
  | member ne hc hv => exact ⟨⟨_, rfl, hc⟩, ne_nil_of_forall₂ hv ne, hold hv⟩
  | inColumn hf found ne hc hv =>
    refine ⟨⟨_, ?_, hc⟩, ne_nil_of_forall₂ hv ne, hold hv⟩
    simp only [fieldOf?, if_neg hf, found]
  | inTable hf found ne ht hm =>
    exact ⟨_, _, _, rfl, hf, found, ht, ne_nil_of_forall₂ hm ne, hm⟩

end Entity

/-- The tests of the predicate that a filter is resolved to come from its conditions, one from each, and
all of them are about what the entity knows. -/
theorem resolve_trusted {entity : Entity} (plain : entity.TestsMembership) {e : Expr} {p : Predicate}
    (h : entity.resolve e = .ok p) : List.Forall₂ entity.Trusts e.conditions p.tests :=
  ((Entity.resolve_eq_ok_iff plain).1 h).tests.imp fun _ _ tested => tested.trusts

namespace Catalog

/-- The filter `startDate >= " 2024-1-5" && !(malId == null || in(score, 8, 9)) &&
hasTag("Slice of Life")`, with any text as the date. -/
def recentShows (date : String) : Expr :=
  .binary .and
    (.binary .and
      (.binary (.compare .greaterEqual) (.name "startDate") (.literal (.text date)))
      (.not (.binary .or
        (.binary (.compare .equal) (.name "malId") (.literal .null))
        (.call "in" [.name "score", .literal (.number (.integer 8)),
          .literal (.number (.integer 9))]))))
    (.call "hasTag" [.literal (.text "Slice of Life")])

/-- The predicate of the filter. -/
def recentShowsPredicate : Predicate :=
  .and
    (.and
      (.compare .greaterEqual (.optional .date "media.start_date") (.text "2024-01-05"))
      (.not (.or
        (.isNull (.optional .string "media.mal_id") false)
        (.oneOf (.optional .number "media.score") [.integer 8, .integer 9] false))))
    (.linked ⟨⟨"media_tags"⟩, ⟨"media_id"⟩, ⟨"tag_slug"⟩⟩ ⟨"media.id"⟩ ["slice-of-life"] false)

theorem resolve_recentShows :
    media.resolve (recentShows " 2024-1-5") = .ok recentShowsPredicate :=
  toOption_eq_some_iff.1 (by decide +kernel)

/-- The filter fits with a date, and not with a day that its month does not have. -/
theorem wellTyped_recentShows :
    media.TestsMembership ∧ media.WellTyped (recentShows " 2024-1-5") ∧
      ¬media.WellTyped (recentShows "2023-02-29") := by
  have plain : media.TestsMembership := testsMembership_of_mem (by simp)
  have refused : (media.resolve (recentShows "2023-02-29")).toOption = none := by decide +kernel
  refine ⟨plain, (exists_resolve_iff_wellTyped plain _).1 ⟨_, resolve_recentShows⟩, fun fits => ?_⟩
  obtain ⟨p, accepted⟩ := (exists_resolve_iff_wellTyped plain _).2 fits
  rw [accepted] at refused
  cases refused

theorem resolve_trusted_recentShows :
    media.TestsMembership ∧ media.resolve (recentShows " 2024-1-5") = .ok recentShowsPredicate ∧
      List.Forall₂ media.Trusts (recentShows " 2024-1-5").conditions recentShowsPredicate.tests := by
  have plain : media.TestsMembership := testsMembership_of_mem (by simp)
  exact ⟨plain, resolve_recentShows, resolve_trusted plain resolve_recentShows⟩

end Catalog

end Listings
