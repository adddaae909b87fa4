import Listings.Proofs.Meaning
import Listings.Proofs.Negation

/-!
# The meaning of filters

What a filter says about a row when it is read word by word, and that the predicate it is resolved
to says the same.

* `Expr.truth?`: the truth of a filter on a row, with `!` as the opposite of what it stands before.
* `Predicate.truth_negate`: a predicate and its opposite have opposite truth values, on nulls too.
* `resolve_truth`: a filter and its predicate are equally true, under any number of negations.
-/

namespace Listings

open Store

/-! ## The truth of a filter -/

/-- The constant that an expression is. -/
def Expr.literal? : Expr → Option Literal
  | .literal l => some l
  | _ => none

/-- The text that an expression is. -/
def Expr.text? : Expr → Option String
  | .literal (.text s) => some s
  | _ => none

namespace Entity

variable (entity : Entity) (db : Database) (scope : Scope)

/-- The truth of a comparison of a field with a constant. Compared with null, it is tested for it. -/
def comparisonTruth? (op : Comparator) (field : String) (l : Literal) : Option Truth := do
  let column ← entity.column? field
  let stored := scope.value column.path
  match l, op with
  | .null, .equal => some (isNull stored)
  | .null, .notEqual => some (isNull stored).not
  | .null, _ => none
  | l, op => return comparisonTruth op stored (← column.denoted? l)

/-- The truth of a membership of a field in the constants that are given. -/
def columnTruth? (field : String) (args : List Expr) : Option Truth := do
  let column ← entity.column? field
  let values ← args.mapM fun arg => arg.literal? >>= column.denoted?
  return isOneOf (scope.value column.path) values

/-- The truth of a link to one of the members whose names are given. -/
def tableTruth? (association : String) (id : ColumnPath) (args : List Expr) : Option Truth := do
  let table ← entity.association? association
  let members ← args.mapM fun arg => arg.text? >>= entity.id? association
  return isOneOf (scope.value id) (linkedIds db scope table members)

/-- The truth of a call. -/
def callTruth? (function : String) (args : List Expr) : Option Truth :=
  if function = membershipFunction then
    match args with
    | .name field :: values => entity.columnTruth? scope field values
    | _ => none
  else
    match entity.function? function with
    | some (.inColumn field) => entity.columnTruth? scope field args
    | some (.inTable association id) => entity.tableTruth? db scope association id args
    | _ => none

end Entity

/-- The truth of a filter where some rows stand side by side, if it has one. -/
def Expr.truth? (entity : Entity) (db : Database) (scope : Scope) : Expr → Option Truth
  | binary .and left right => do
    return (← left.truth? entity db scope).and (← right.truth? entity db scope)
  | binary .or left right => do
    return (← left.truth? entity db scope).or (← right.truth? entity db scope)
  | binary (.compare op) (name field) (literal l) => entity.comparisonTruth? scope op field l
  | binary (.compare _) _ _ => none
  | not inner => (inner.truth? entity db scope).map Truth.not
  | call function args => entity.callTruth? db scope function args
  | name _ | literal _ => none
/-! ## The predicate is as true as the filter -/

/-- A predicate and its opposite have opposite truth values; what depends on a null is unknown in
both. -/
theorem Predicate.truth_negate (db : Database) (scope : Scope) (p : Predicate) :
    p.negate.truth db scope = (p.truth db scope).not := by
  cases p with
  | and | or | compare => rfl
  | not inner => rw [negate, truth, Truth.not_not]
  | isNull | oneOf | linked => rw [negate, truth, Truth.negateIf_not, truth]

private theorem mapM_of_forall₂ {α β : Type} {f : α → Option β} {as : List α} {bs : List β}
    (h : List.Forall₂ (fun a b => f a = some b) as bs) : as.mapM f = some bs := by
  induction h with
  | nil => rfl
  | cons first _ ih =>
    rw [List.mapM_cons, first, ih]
    rfl

section

variable {entity : Entity} (db : Database) (scope : Scope)

theorem columnTruth?_of_accepts {field : String} {column : Column} {args : List Expr}
    {values : List Value} (hc : entity.column? field = some column)
    (hv : List.Forall₂ (column.Accepts field) args values) :
    entity.columnTruth? scope field args = some (isOneOf (scope.value column.path) values) := by
  have read : args.mapM (fun arg => arg.literal? >>= column.denoted?) = some values := by
    refine mapM_of_forall₂ (hv.imp fun e v accepts => ?_)
    obtain ⟨l, rfl, -, denoted⟩ := accepts.denoted
    exact denoted
  unfold Entity.columnTruth?
  rw [hc, Option.bind_eq_bind, Option.bind_some, read]
  rfl

theorem tableTruth?_of_names {association : String} {id : ColumnPath} {table : Association}
    {args : List Expr} {members : List String}
    (ht : entity.association? association = some table)
    (hm : List.Forall₂ (entity.Names association) args members) :
    entity.tableTruth? db scope association id args
      = some (isOneOf (scope.value id) (linkedIds db scope table members)) := by
  have read : args.mapM (fun arg => arg.text? >>= entity.id? association) = some members := by
    refine mapM_of_forall₂ (hm.imp fun e id names => ?_)
    obtain ⟨s, rfl, stored, -⟩ := names
    exact stored
  unfold Entity.tableTruth?
  rw [ht, Option.bind_eq_bind, Option.bind_some, read]
  rfl

theorem callTruth?_of_ne {function : String} (hf : function ≠ Entity.membershipFunction)
    (args : List Expr) :
    entity.callTruth? db scope function args
      = match entity.function? function with
        | some (.inColumn field) => entity.columnTruth? scope field args
        | some (.inTable association id) => entity.tableTruth? db scope association id args
        | _ => none := by
  unfold Entity.callTruth?
  exact if_neg hf

/-- By every rule the predicate is as true as the filter. -/
theorem Resolves.truth? {e : Expr} {p : Predicate} (h : Resolves entity e p) :
    e.truth? entity db scope = some (p.truth db scope) := by
  induction h with
  | and _ _ ihl ihr | or _ _ ihl ihr =>
    rw [Expr.truth?, ihl, ihr]
    rfl
  | @not e p _ ih => rw [Expr.truth?, ih, Option.map_some, p.truth_negate]
  | @isNull op _ _ _ ho hc _ =>
    rw [Expr.truth?, Entity.comparisonTruth?, hc]
    cases op with
    | equal | notEqual =>
      cases ho
      rfl
    | _ => cases ho
  | @compare op field column e v hc _ hv =>
    obtain ⟨l, rfl, notNull, denoted⟩ := hv.denoted
    rw [Expr.truth?, Entity.comparisonTruth?, hc]
    cases l with
    | null => exact absurd rfl notNull
    | text s | number n =>
      show (column.denoted? _ >>= fun v => some (comparisonTruth op _ v)) = _
      rw [denoted]
      rfl
  | member _ hc hv =>
    exact columnTruth?_of_accepts scope hc hv
  | inColumn hf found _ hc hv =>
    rw [Expr.truth?, callTruth?_of_ne db scope hf, found]
    exact columnTruth?_of_accepts scope hc hv
  | inTable hf found _ ht hm =>
    rw [Expr.truth?, callTruth?_of_ne db scope hf, found]
    exact tableTruth?_of_names db scope ht hm

end

/-- Negations before an accepted filter are accepted, and every one of them turns the truth value
round. -/
theorem Entity.resolve_nots {entity : Entity} {e : Expr} {p : Predicate}
    (h : entity.resolve e = .ok p) (db : Database) (scope : Scope) (n : Nat) :
    ∃ q, entity.resolve (Expr.not^[n] e) = .ok q ∧
      q.truth db scope = Truth.not^[n] (p.truth db scope) := by
  refine ⟨_, resolve_iterate_not h n, ?_⟩
  induction n with
  | zero => rfl
  | succ n ih => rw [Function.iterate_succ_apply', Predicate.truth_negate, ih, Function.iterate_succ_apply']

/-- On every row of every database an accepted filter has a truth value, and the predicate that it
is resolved to has the same. Any number of negations may be put before it: they are resolved to a
predicate whose truth value is turned round as often. -/
theorem resolve_truth {entity : Entity} (plain : entity.TestsMembership) {e : Expr} {p : Predicate}
    (h : entity.resolve e = .ok p) (db : Database) (scope : Scope) :
    e.truth? entity db scope = some (p.truth db scope) ∧
      ∀ n, ∃ q, entity.resolve (Expr.not^[n] e) = .ok q ∧
        q.truth db scope = Truth.not^[n] (p.truth db scope) := by
  have resolves := (Entity.resolve_eq_ok_iff plain).1 h
  exact ⟨resolves.truth? db scope, Entity.resolve_nots h db scope⟩

namespace Catalog

/-- The filter `!(score > 8 || malId == null) && !!hasTag("comedy")`. -/
def knownComedies : Expr :=
  .binary .and
    (.not (.binary .or
      (.binary (.compare .greater) (.name "score") (.literal (.number (.integer 8))))
      (.binary (.compare .equal) (.name "malId") (.literal .null))))
    (.not (.not (.call "hasTag" [.literal (.text "comedy")])))

/-- The predicate of the filter: of the negations only the first is left. -/
def knownComediesPredicate : Predicate :=
  .and
    (.not (.or
      (.compare .greater (.optional .number "media.score") (.integer 8))
      (.isNull (.optional .string "media.mal_id") false)))
    (.linked ⟨⟨"media_tags"⟩, ⟨"media_id"⟩, ⟨"tag_slug"⟩⟩ ⟨"media.id"⟩ ["comedy"] false)

/-- A comedy without a score is in doubt under the filter, and stays so under three negations. -/
theorem resolve_truth_knownComedies :
    media.TestsMembership ∧ media.resolve knownComedies = .ok knownComediesPredicate ∧
      let db : Database :=
        ⟨[⟨"media_tags", ["media_id", "tag_slug"], [[.text "1", .text "comedy"]]⟩]⟩
      let scope : Scope :=
        [[⟨"media", [("id", .text "1"), ("mal_id", .text "5"), ("score", .null)]⟩]]
      knownComedies.truth? media db scope = some .unknown ∧
        ∃ q, media.resolve (Expr.not^[3] knownComedies) = .ok q ∧ q.truth db scope = .unknown := by
  have plain : media.TestsMembership := testsMembership_of_mem (by simp)
  have found : (media.resolve knownComedies).toOption = some knownComediesPredicate := by
    decide +kernel
  have accepted : media.resolve knownComedies = .ok knownComediesPredicate := by
    cases h : media.resolve knownComedies with
    | error e =>
      rw [h] at found
      cases found
    | ok p =>
      rw [h] at found
      cases found
      rfl
  refine ⟨plain, accepted, ?_⟩
  intro db scope
  have unknown : knownComediesPredicate.truth db scope = .unknown := by decide +kernel
  obtain ⟨direct, negated⟩ := resolve_truth plain accepted db scope
  obtain ⟨q, hq, same⟩ := negated 3
  rw [unknown] at direct same
  exact ⟨direct, q, hq, same⟩

end Catalog

end Listings
