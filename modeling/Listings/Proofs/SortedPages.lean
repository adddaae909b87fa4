import Mathlib.Data.List.Perm.Subperm
import Listings.Proofs.FirstFailure
import Listings.Proofs.OrderClause
import Listings.Proofs.Restriction
import Listings.Proofs.SortGrammar
import Listings.Proofs.Tiling

/-!
# Sorted pages

What a sort that is accepted does to the rows of a page.

* `Store.Precedes`, `Store.Ties`: which of two values stands first; a null stands last whatever the
  direction.
* `Store.InOrder`: rows in order under keys, the first key that tells them apart deciding.
* `Store.inOrder_iff`: this is the order that rows are arranged in.
* `Entity.IsKey`, `Entity.FirstUnknown`: the key of a field, and the first field that has none.
* `PagesInOrder`: the rows of every page are in order, and its text says so.
* `Entity.sortsPages`: which sorts are accepted, and how the rows of their pages are ordered.
-/

namespace Listings

open Std (OrientedCmp)
open Store

namespace Store

/-! ## Values and rows in order -/

/-- A value stands before another one under a direction. A null stands after everything else. -/
inductive Precedes : Direction → Value → Value → Prop
  | null {direction : Direction} {u : Value} (hu : u ≠ .null) : Precedes direction u .null
  | ascending {u v : Value} (hu : u ≠ .null) (hv : v ≠ .null) (h : order u v = .lt) :
      Precedes .ascending u v
  | descending {u v : Value} (hu : u ≠ .null) (hv : v ≠ .null) (h : order u v = .gt) :
      Precedes .descending u v

/-- Two values have the same place. -/
inductive Ties : Value → Value → Prop
  | nulls : Ties .null .null
  | values {u v : Value} (hu : u ≠ .null) (hv : v ≠ .null) (h : order u v = .eq) : Ties u v

/-- Rows are in order under keys: the first key under which they have not the same place decides, and
without one they are in order either way. -/
inductive InOrder : List SortKey → Frame → Frame → Prop
  | ties {a b : Frame} : InOrder [] a b
  | first {key : SortKey} {keys : List SortKey} {a b : Frame}
      (h : Precedes key.direction (Scope.value [a] key.column) (Scope.value [b] key.column)) :
      InOrder (key :: keys) a b
  | next {key : SortKey} {keys : List SortKey} {a b : Frame}
      (tie : Ties (Scope.value [a] key.column) (Scope.value [b] key.column))
      (rest : InOrder keys a b) : InOrder (key :: keys) a b

section Values

variable {direction : Direction} {u v : Value}

theorem order_eq_gt_iff : order u v = .gt ↔ order v u = .lt := OrientedCmp.gt_iff_lt

theorem directed_eq_eq_iff : directed direction u v = .eq ↔ order u v = .eq := by
  cases direction with
  | ascending => exact .rfl
  | descending => exact transCmp_order.eq_comm

theorem orderUnder_of_ne (hu : u ≠ .null) (hv : v ≠ .null) :
    orderUnder direction u v = directed direction u v := by
  cases u with
  | null => exact absurd rfl hu
  | _ =>
    cases v with
    | null => exact absurd rfl hv
    | _ => cases direction <;> rfl

theorem orderUnder_null_left (hv : v ≠ .null) : orderUnder direction .null v = .gt := by
  cases v with
  | null => exact absurd rfl hv
  | _ => rfl

theorem orderUnder_null_right (hu : u ≠ .null) : orderUnder direction u .null = .lt := by
  cases u with
  | null => exact absurd rfl hu
  | _ => rfl

theorem precedes_iff : Precedes direction u v ↔ orderUnder direction u v = .lt := by
  constructor
  · intro h
    cases h with
    | null hu => exact orderUnder_null_right hu
    | ascending hu hv h =>
      rw [orderUnder_of_ne hu hv]
      exact h
    | descending hu hv h =>
      rw [orderUnder_of_ne hu hv]
      exact order_eq_gt_iff.1 h
  · intro h
    have hu : u ≠ .null := by
      rintro rfl
      cases v <;> cases h
    by_cases hv : v = .null
    · subst hv
      exact .null hu
    · rw [orderUnder_of_ne hu hv] at h
      cases direction with
      | ascending => exact .ascending hu hv h
      | descending => exact .descending hu hv (order_eq_gt_iff.2 h)

theorem ties_iff : Ties u v ↔ orderUnder direction u v = .eq := by
  constructor
  · intro h
    cases h with
    | nulls => rfl
    | values hu hv h =>
      rw [orderUnder_of_ne hu hv]
      exact directed_eq_eq_iff.2 h
  · intro h
    by_cases hu : u = .null
    · subst hu
      by_cases hv : v = .null
      · subst hv
        exact .nulls
      · rw [orderUnder_null_left hv] at h
        cases h
    · by_cases hv : v = .null
      · subst hv
        rw [orderUnder_null_right hu] at h
        cases h
      · rw [orderUnder_of_ne hu hv] at h
        exact .values hu hv (directed_eq_eq_iff.1 h)

end Values

theorem then_ne_gt_iff {x y : Ordering} : x.then y ≠ .gt ↔ x = .lt ∨ x = .eq ∧ y ≠ .gt := by
  cases x <;> simp

/-- Rows are in order if they may be given in it. -/
theorem inOrder_iff {keys : List SortKey} {a b : Frame} :
    InOrder keys a b ↔ orderFrames keys a b ≠ .gt := by
  induction keys with
  | nil => exact iff_of_true .ties nofun
  | cons key keys ih =>
    rw [orderFrames_cons, compareLex, then_ne_gt_iff, ← ih]
    constructor
    · intro h
      cases h with
      | first h => exact .inl (precedes_iff.1 h)
      | next tie rest => exact .inr ⟨ties_iff.1 tie, rest⟩
    · rintro (h | ⟨tie, rest⟩)
      · exact .first (precedes_iff.2 h)
      · exact .next (ties_iff.2 tie) rest

theorem arranged_byKeys_iff {keys : List SortKey} {frames arranged : List Frame} :
    Arranged (.byKeys keys) frames arranged ↔
      arranged.Perm frames ∧ arranged.Pairwise (InOrder keys) :=
  and_congr_right fun _ => List.Pairwise.iff fun _ _ => inOrder_iff.symm

/-- A window shows a part of a list. -/
theorem sublist_window {α : Type} (window : Option Sql.Window) (items : List α) :
    (Window.apply window items).Sublist items := by
  cases window with
  | none => exact .refl items
  | some w => exact (List.take_sublist _ _).trans (List.drop_sublist _ _)

end Store

/-! ## Pages -/

/-- The pages of every listing are in order under keys. -/
structure PagesInOrder (keys : List SortKey) : Prop where
  /-- The text of the statement for a page is read to have these keys, and nothing else. -/
  text : ∀ base filter request dialect order,
    (statements base filter (.byKeys keys) request dialect).page.ReadsOrder order ↔
      order = .byKeys keys
  /-- It is answered with a part of the matching rows in order. -/
  answer : ∀ (db : Database) base filter request dialect records,
    let s := (statements base filter (.byKeys keys) request dialect).page.select
    db.MayAnswer s records ↔ ∃ frames : List Frame, frames.Perm (db.matching s) ∧
      frames.Pairwise (InOrder keys) ∧
        records = (Window.apply s.window frames).map (project s.projection)
  /-- The rows on a page are in order, those that follow each other and all others. -/
  rows : ∀ (db : Database) base filter request dialect records,
    let s := (statements base filter (.byKeys keys) request dialect).page.select
    db.MayAnswer s records → ∃ frames : List Frame, records = frames.map (project s.projection) ∧
      frames.Subperm (db.matching s) ∧ frames.Pairwise (InOrder keys)

theorem pagesInOrder (keys : List SortKey) : PagesInOrder keys := by
  have answer (db : Database) base filter request dialect records :
      let s := (statements base filter (.byKeys keys) request dialect).page.select
      db.MayAnswer s records ↔ ∃ frames : List Frame, frames.Perm (db.matching s) ∧
        frames.Pairwise (InOrder keys) ∧
          records = (Window.apply s.window frames).map (project s.projection) := by
    intro s
    refine exists_congr fun frames => ?_
    rw [← and_assoc]
    exact and_congr_left fun _ => arranged_byKeys_iff
  refine ⟨?_, answer, ?_⟩
  · intro base filter request dialect
    refine Sql.Statement.readsOrder_iff ?_
    exact List.forall_mem_map.2 fun join _ => lacks_baseJoin join
  · intro db base filter request dialect records s shown
    obtain ⟨frames, perm, sorted, rfl⟩ := (answer db base filter request dialect records).1 shown
    have part := sublist_window s.window frames
    exact ⟨_, rfl, part.subperm.trans perm.subperm, sorted.sublist part⟩

/-! ## Sorts -/

/-- Fields are asked for only if there are some. -/
theorem SortRequest.ne_nil_of_parse {text : String} {items : List SortField}
    (h : parse text = .ok (.fields items)) : items ≠ [] := by
  obtain ⟨body, -, asks⟩ := parse_eq_ok_iff.1 h
  cases asks with
  | fields _ divided wished =>
    rintro rfl
    cases wished
    exact divided.ne_nil rfl

namespace Entity

variable {entity : Entity}

/-- A key is that of a field: it has the column of the field and the direction that is asked for. -/
def IsKey (entity : Entity) (f : SortField) (key : SortKey) : Prop :=
  ∃ column, entity.column? f.field = some column ∧ key = ⟨column.path, f.direction⟩

/-- A name is that of the first of some fields that the entity does not have. -/
def FirstUnknown (entity : Entity) (items : List SortField) (field : String) : Prop :=
  ∃ before f after, items = before ++ f :: after ∧ (∀ g ∈ before, entity.column? g.field ≠ none) ∧
    entity.column? f.field = none ∧ f.field = field

theorem sortKey_eq_ok_iff {f : SortField} {key : SortKey} :
    entity.sortKey f = .ok key ↔ entity.IsKey f key := by
  unfold sortKey IsKey
  cases entity.column? f.field with
  | none => simp
  | some column => simp [eq_comm]

theorem sortKey_eq_error_iff {f : SortField} {e : SortError} :
    entity.sortKey f = .error e ↔ entity.column? f.field = none ∧ e = .unknownField f.field := by
  unfold sortKey
  cases entity.column? f.field with
  | none => simp [eq_comm]
  | some column => simp

/-- Fields have no keys if one of them is unknown, and the first such is blamed. -/
theorem failsFirst_sortKey_iff {items : List SortField} {e : SortError} :
    FailsFirst entity.sortKey items e ↔
      ∃ field, entity.FirstUnknown items field ∧ e = .unknownField field := by
  have known (f : SortField) : (∃ key, entity.sortKey f = .ok key) ↔ entity.column? f.field ≠ none := by
    simp only [exists_ok_iff_ne_error, sortKey_eq_error_iff, exists_and_left, exists_eq, and_true]
  unfold FailsFirst FirstUnknown
  simp only [known, sortKey_eq_error_iff]
  constructor
  · rintro ⟨before, f, after, whole, ok, unknown, rfl⟩
    exact ⟨_, ⟨before, f, after, whole, ok, unknown, rfl⟩, rfl⟩
  · rintro ⟨_, ⟨before, f, after, whole, ok, unknown, rfl⟩, rfl⟩
    exact ⟨before, f, after, whole, ok, unknown, rfl⟩

/-- The answer to a sort that is read is the order that it asks for. -/
theorem compileSort_of_parse {sort : String} {request : SortRequest}
    (h : SortRequest.parse sort = .ok request) :
    entity.compileSort sort = (entity.resolveSort request).mapError .sort := by
  rw [compileSort, h]
  rfl

section Fields

variable {sort : String} {items : List SortField}
  (h : SortRequest.parse sort = .ok (.fields items))
include h

/-- Fields are accepted with their keys, one for each and in their order. -/
theorem compileSort_eq_ok_iff_of_fields {order : SortOrder} :
    entity.compileSort sort = .ok order ↔
      ∃ keys, order = .byKeys keys ∧ List.Forall₂ entity.IsKey items keys := by
  rw [compileSort_of_parse h, mapError_eq_ok_iff, resolveSort, map_eq_ok_iff]
  refine exists_congr fun keys => ?_
  rw [mapM_eq_ok_iff, and_comm, eq_comm]
  simp only [sortKey_eq_ok_iff]

/-- They are refused if one of them is unknown, and the first such is blamed. -/
theorem compileSort_eq_error_iff_of_fields {e : RequestError} :
    entity.compileSort sort = .error e ↔
      ∃ field, entity.FirstUnknown items field ∧ e = .sort (.unknownField field) := by
  rw [compileSort_of_parse h, mapError_eq_error_iff, resolveSort, ← bind_pure_comp]
  simp only [bind_pure_eq_error_iff, mapM_eq_error_iff, failsFirst_sortKey_iff]
  constructor
  · rintro ⟨_, ⟨field, first, rfl⟩, rfl⟩
    exact ⟨field, first, rfl⟩
  · rintro ⟨field, first, rfl⟩
    exact ⟨_, ⟨field, first, rfl⟩, rfl⟩

end Fields

/-- A sort is accepted with a random order or with keys, and then the rows of its pages are in order
under them. -/
structure SortsPages (entity : Entity) (sort : String) : Prop where
  /-- A sort that is not read is refused for the reason for that. -/
  unread : ∀ e, SortRequest.parse sort = .error e → entity.compileSort sort = .error (.sort e)
  /-- The natural order is that of the entity. -/
  natural : SortRequest.parse sort = .ok .default →
    entity.compileSort sort = .ok (.byKeys [entity.defaultSort])
  random : SortRequest.parse sort = .ok .random → entity.compileSort sort = .ok .random
  /-- Fields are accepted with their keys, one for each and in their order. -/
  fields : ∀ items, SortRequest.parse sort = .ok (.fields items) → ∀ order,
    entity.compileSort sort = .ok order ↔
      ∃ keys, order = .byKeys keys ∧ List.Forall₂ entity.IsKey items keys
  /-- They are refused if one of them is unknown, and the first such is blamed. -/
  unknown : ∀ items, SortRequest.parse sort = .ok (.fields items) → ∀ e,
    entity.compileSort sort = .error e ↔
      ∃ field, entity.FirstUnknown items field ∧ e = .sort (.unknownField field)
  /-- An order that is not random has a key. -/
  nonempty : ∀ order, entity.compileSort sort = .ok order →
    order = .random ∨ ∃ keys, keys ≠ [] ∧ order = .byKeys keys
  pages : ∀ keys, entity.compileSort sort = .ok (.byKeys keys) → PagesInOrder keys

/-- Whatever the entity and the sort, the pages are ordered as the sort asks. -/
theorem sortsPages (entity : Entity) (sort : String) : entity.SortsPages sort := by
  have unread (e) (h : SortRequest.parse sort = .error e) :
      entity.compileSort sort = .error (.sort e) := by
    rw [compileSort, h]
    rfl
  have natural (h : SortRequest.parse sort = .ok .default) :
      entity.compileSort sort = .ok (.byKeys [entity.defaultSort]) := compileSort_of_parse h
  have random (h : SortRequest.parse sort = .ok .random) :
      entity.compileSort sort = .ok .random := compileSort_of_parse h
  refine ⟨unread, natural, random, fun items h order => compileSort_eq_ok_iff_of_fields h,
    fun items h e => compileSort_eq_error_iff_of_fields h, ?_, fun keys _ => pagesInOrder keys⟩
  intro order accepted
  cases h : SortRequest.parse sort with
  | error e => cases (unread e h).symm.trans accepted
  | ok request =>
    cases request with
    | default =>
      cases (natural h).symm.trans accepted
      exact .inr ⟨_, List.cons_ne_nil _ _, rfl⟩
    | random =>
      cases (random h).symm.trans accepted
      exact .inl rfl
    | fields items =>
      obtain ⟨keys, rfl, each⟩ := (compileSort_eq_ok_iff_of_fields h).1 accepted
      exact .inr ⟨keys, ne_nil_of_forall₂ each (SortRequest.ne_nil_of_parse h), rfl⟩

/-- The signs of a request are the directions of its keys. -/
example : (Catalog.media.compileSort "sort=-score, title").toOption
    = some (.byKeys [⟨⟨"media.score"⟩, .descending⟩, ⟨⟨"media.title"⟩, .ascending⟩]) := by
  decide +kernel

end Entity

end Listings
