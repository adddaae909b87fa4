import Listings.Paging.BaseQuery
import Listings.Request

/-!
# Listings

A listing answers a request with one page of rows and with what there is to say about the pages.

* `Executor`: what runs statements, over a state of its own that a failure does not undo.
* `paginate`: the rows of a page and their number, in one unit of work.
* `Listing.fetch`: the same for a filter and a sort as text. Nothing is run for a request that is
  refused.
* `Listing.Refuses`, `Listing.Accepts`: which requests are refused, and which are not.
-/

namespace Listings

open Sql (Dialect Statement)

/-- A step of an executor: it may change the state, and fail. -/
abbrev Run (σ ε α : Type) := ExceptT ε (StateM σ) α

namespace Run

variable {σ ε α β : Type}

/-- A step gives a value or fails. -/
theorem ok_or_error (x : Run σ ε α) (s : σ) :
    (∃ a s', x s = (.ok a, s')) ∨ ∃ e s', x s = (.error e, s') := by
  rcases x s with ⟨e | a, s'⟩
  · exact .inr ⟨e, s', rfl⟩
  · exact .inl ⟨a, s', rfl⟩

theorem bind_ok {x : Run σ ε α} {f : α → Run σ ε β} {a : α} {s s' : σ}
    (h : x s = (.ok a, s')) : (x >>= f) s = f a s' := by
  show (ExceptT.bindCont f (x s).1) (x s).2 = _
  rw [h]
  rfl

/-- Nothing follows a step that fails. -/
theorem bind_error {x : Run σ ε α} {f : α → Run σ ε β} {e : ε} {s s' : σ}
    (h : x s = (.error e, s')) : (x >>= f) s = (.error e, s') := by
  show (ExceptT.bindCont f (x s).1) (x s).2 = _
  rw [h]
  rfl

theorem tryCatch_ok {x : Run σ ε α} {f : ε → Run σ ε α} {a : α} {s s' : σ}
    (h : x s = (.ok a, s')) : (tryCatch x f) s = (.ok a, s') := by
  show (match (x s).1 with
    | .ok a => pure (.ok a)
    | .error e => f e : StateM σ (Except ε α)) (x s).2 = _
  rw [h]
  rfl

theorem tryCatch_error {x : Run σ ε α} {f : ε → Run σ ε α} {e : ε} {s s' : σ}
    (h : x s = (.error e, s')) : (tryCatch x f) s = f e s' := by
  show (match (x s).1 with
    | .ok a => pure (.ok a)
    | .error e => f e : StateM σ (Except ε α)) (x s).2 = _
  rw [h]

theorem adapt_ok {x : Run σ ε α} {ε' : Type} {f : ε → ε'} {a : α} {s s' : σ}
    (h : x s = (.ok a, s')) : (x.adapt f) s = (.ok a, s') := by
  show (Except.mapError f (x s).1, (x s).2) = _
  rw [h]
  rfl

theorem adapt_error {x : Run σ ε α} {ε' : Type} {f : ε → ε'} {e : ε} {s s' : σ}
    (h : x s = (.error e, s')) : (x.adapt f) s = (.error (f e), s') := by
  show (Except.mapError f (x s).1, (x s).2) = _
  rw [h]
  rfl

end Run

/-- What runs statements. -/
structure Executor (σ ε ρ : Type) where
  /-- Runs a statement that counts rows. -/
  count : Statement → Run σ ε Int64
  /-- Runs a statement that gives rows. -/
  fetch : Statement → Run σ ε (List ρ)
  /-- Runs several steps as one unit of work. -/
  consistent : {α : Type} → Run σ ε α → Run σ ε α := fun body => body

/-- Why a listing gives no rows. -/
inductive ListError (ε : Type) where
  /-- The filter or the sort is refused. -/
  | request (e : RequestError)
  /-- There are no pages before the first. -/
  | invalidPage (page : Int64)
  /-- The executor failed. -/
  | store (e : ε)

/-- The reason in words, given the words for the executor's reasons. -/
def ListError.message {ε : Type} (describe : ε → String) : ListError ε → String
  | request e => e.message
  | invalidPage page => "page must not be negative, got " ++ toString page.toInt
  | store e => describe e

variable {σ ε ρ : Type}

/-- The number of rows and the rows of a page, in this order. -/
def Executor.run (executor : Executor σ ε ρ) (s : Statements) : Run σ ε (Int64 × List ρ) := do
  let totalItems ← executor.count s.count
  let rows ← executor.fetch s.page
  return (totalItems, rows)

/-- One page of the rows that satisfy a filter. -/
def paginate (executor : Executor σ ε ρ) (base : BaseQuery) (filter : Option Predicate)
    (order : SortOrder) (request : PageRequest) (dialect : Dialect) :
    Run σ (ListError ε) (List ρ × Page) :=
  if request.page < 0 then throw (.invalidPage request.page)
  else do
    let work := executor.consistent (executor.run (statements base filter order request dialect))
    let (totalItems, rows) ← work.adapt ListError.store
    return (rows, .ofCount request totalItems)

/-- The listing of an entity. -/
structure Listing where
  entity : Entity
  base : BaseQuery
  dialect : Dialect := .sqlite

/-- The answer to a request. -/
def Listing.fetch (listing : Listing) (executor : Executor σ ε ρ) (filter sort : String)
    (request : PageRequest) : Run σ (ListError ε) (List ρ × Page) := do
  let filter ← (liftExcept (listing.entity.compileFilter filter))
  let order ← (liftExcept (listing.entity.compileSort sort))
  paginate executor listing.base filter order request listing.dialect
where
  /-- A refused request runs nothing. -/
  liftExcept {α : Type} : Except RequestError α → Run σ (ListError ε) α
    | .ok a => pure a
    | .error e => throw (.request e)

/-! ## Refused and accepted requests -/

/-- A request is refused for the first of three things: its filter, its sort and its page. -/
inductive Listing.Refuses (listing : Listing) (filter sort : String) (request : PageRequest) :
    ListError ε → Prop
  | filter {e : RequestError} (hf : listing.entity.compileFilter filter = .error e) :
      Refuses listing filter sort request (.request e)
  | sort {p : Option Predicate} {e : RequestError}
      (hf : listing.entity.compileFilter filter = .ok p)
      (hs : listing.entity.compileSort sort = .error e) :
      Refuses listing filter sort request (.request e)
  | page {p : Option Predicate} {order : SortOrder}
      (hf : listing.entity.compileFilter filter = .ok p)
      (hs : listing.entity.compileSort sort = .ok order) (hp : request.page < 0) :
      Refuses listing filter sort request (.invalidPage request.page)

/-- A request is accepted with the condition of its filter and the order of its sort. -/
structure Listing.Accepts (listing : Listing) (filter sort : String) (request : PageRequest)
    (p : Option Predicate) (order : SortOrder) : Prop where
  filter : listing.entity.compileFilter filter = .ok p
  sort : listing.entity.compileSort sort = .ok order
  page : 0 ≤ request.page

namespace Listing

variable {listing : Listing} {filter sort : String} {request : PageRequest}

/-- The statements for an accepted request. -/
def statements (listing : Listing) (p : Option Predicate) (order : SortOrder)
    (request : PageRequest) : Statements :=
  Listings.statements listing.base p order request listing.dialect

theorem refuses_or_accepts (ε : Type) (listing : Listing) (filter sort : String)
    (request : PageRequest) :
    (∃ e : ListError ε, listing.Refuses filter sort request e) ∨
      ∃ p order, listing.Accepts filter sort request p order := by
  cases hf : listing.entity.compileFilter filter with
  | error e => exact .inl ⟨_, .filter hf⟩
  | ok p =>
    cases hs : listing.entity.compileSort sort with
    | error e => exact .inl ⟨_, .sort hf hs⟩
    | ok order =>
      by_cases hp : request.page < 0
      · exact .inl ⟨_, .page hf hs hp⟩
      · exact .inr ⟨p, order, hf, hs, Int64.not_lt.1 hp⟩

/-- A refused request leaves the state of the executor as it is. -/
theorem fetch_of_refuses {e : ListError ε} (h : listing.Refuses filter sort request e)
    (executor : Executor σ ε ρ) (s : σ) :
    listing.fetch executor filter sort request s = (.error e, s) := by
  unfold fetch
  cases h with
  | filter hf => rw [hf]; rfl
  | sort hf hs => rw [hf, hs]; rfl
  | page hf hs hp =>
    rw [hf, hs]
    show paginate executor listing.base _ _ request listing.dialect s = _
    rw [paginate, if_pos hp]
    rfl

section Accepted

variable {p : Option Predicate} {order : SortOrder} {executor : Executor σ ε ρ} {s s' : σ}
  (h : listing.Accepts filter sort request p order)
include h

/-- An accepted request is answered by the unit of work. -/
theorem fetch_eq :
    listing.fetch executor filter sort request =
      let work := executor.consistent (executor.run (listing.statements p order request))
      work.adapt ListError.store >>= fun (total, rows) => return (rows, .ofCount request total) := by
  unfold fetch
  rw [h.filter, h.sort]
  show paginate executor listing.base p order request listing.dialect = _
  rw [paginate, if_neg (Int64.not_lt.2 h.page)]
  rfl

theorem fetch_ok {total : Int64} {rows : List ρ}
    (done : executor.consistent (executor.run (listing.statements p order request)) s
      = (.ok (total, rows), s')) :
    listing.fetch executor filter sort request s = (.ok (rows, .ofCount request total), s') := by
  rw [fetch_eq h]
  exact Run.bind_ok (Run.adapt_ok done)

theorem fetch_error {e : ε}
    (failed : executor.consistent (executor.run (listing.statements p order request)) s
      = (.error e, s')) :
    listing.fetch executor filter sort request s = (.error (.store e), s') := by
  rw [fetch_eq h]
  exact Run.bind_error (Run.adapt_error failed)

/-- What comes of an accepted request is decided by what comes of the unit of work. -/
theorem fetch_outcome :
    (listing.fetch executor filter sort request s).1 =
      ((executor.consistent (executor.run (listing.statements p order request)) s).1.mapError
        ListError.store).map fun (total, rows) => (rows, .ofCount request total) := by
  rcases Run.ok_or_error
      (executor.consistent (executor.run (listing.statements p order request))) s with
    ⟨⟨total, rows⟩, s', done⟩ | ⟨e, s', failed⟩
  · rw [fetch_ok h done, done]
    rfl
  · rw [fetch_error h failed, failed]
    rfl

end Accepted

end Listing

end Listings
