import Listings.Paging.Script

/-!
# The calls of a listing

Which calls a listing makes to its executor, and what comes of them.

* `Service.recorded`: a service whose calls are written down.
* `Works`: how a unit of work with a count and a page goes.
* `Course`: how a listing goes.
* `Listing.allOrNothing`: a listing goes one of these ways, whatever the executor does.
-/

namespace Listings

open Sql (Statement)

variable {σ ε ρ : Type}

/-! ## Recording -/

/-- A step for which some calls are written down. -/
def recorded {α : Type} (calls : List Call) (step : Run σ ε α) : Run (σ × List Call) ε α :=
  fun (s, log) =>
    let (outcome, s') := step s
    (outcome, s', log ++ calls)

/-- A unit of work whose begin and commit are written down. -/
def UnitOfWork.recorded (unit : UnitOfWork σ ε) : UnitOfWork (σ × List Call) ε where
  begin := Listings.recorded [.begin] unit.begin
  commit := Listings.recorded [.commit] unit.commit
  abandon := Prod.map unit.abandon id

namespace Service

/-- A service whose calls are written down. -/
def recorded (service : Service σ ε ρ) : Service (σ × List Call) ε ρ where
  count s := Listings.recorded [.count s] (service.count s)
  fetch s := Listings.recorded [.fetch s] (service.fetch s)
  unit := service.unit.map UnitOfWork.recorded

/-- A call that is made only if there are units of work. -/
def bracket (service : Service σ ε ρ) (call : Call) : List Call :=
  if service.unit.isSome then [call] else []

end Service

/-! ## The ways of a listing -/

/-- How a unit of work with the two statements of a request goes: the calls, the outcome and the state
after them. -/
inductive Works (service : Service σ ε ρ) (q : Statements) (s : σ) :
    List Call → Except ε (Int64 × List ρ) → σ → Prop
  | beginFails {e : ε} {s₁ : σ} (hb : service.work.begin s = (.error e, s₁)) :
      Works service q s (service.bracket .begin) (.error e) s₁
  | countFails {e : ε} {s₁ s₂ : σ} (hb : service.work.begin s = (.ok (), s₁))
      (hc : service.count q.count s₁ = (.error e, s₂)) :
      Works service q s (service.bracket .begin ++ [.count q.count]) (.error e)
        (service.work.abandon s₂)
  | fetchFails {e : ε} {total : Int64} {s₁ s₂ s₃ : σ} (hb : service.work.begin s = (.ok (), s₁))
      (hc : service.count q.count s₁ = (.ok total, s₂))
      (hf : service.fetch q.page s₂ = (.error e, s₃)) :
      Works service q s (service.bracket .begin ++ [.count q.count, .fetch q.page]) (.error e)
        (service.work.abandon s₃)
  | commitFails {e : ε} {total : Int64} {rows : List ρ} {s₁ s₂ s₃ s₄ : σ}
      (hb : service.work.begin s = (.ok (), s₁)) (hc : service.count q.count s₁ = (.ok total, s₂))
      (hf : service.fetch q.page s₂ = (.ok rows, s₃))
      (he : service.work.commit s₃ = (.error e, s₄)) :
      Works service q s
        (service.bracket .begin ++ [.count q.count, .fetch q.page] ++ service.bracket .commit)
        (.error e) (service.work.abandon s₄)
  | answered {total : Int64} {rows : List ρ} {s₁ s₂ s₃ s₄ : σ}
      (hb : service.work.begin s = (.ok (), s₁)) (hc : service.count q.count s₁ = (.ok total, s₂))
      (hf : service.fetch q.page s₂ = (.ok rows, s₃))
      (he : service.work.commit s₃ = (.ok (), s₄)) :
      Works service q s
        (service.bracket .begin ++ [.count q.count, .fetch q.page] ++ service.bracket .commit)
        (.ok (total, rows)) s₄

/-- How a listing goes: the calls, the outcome and the state after them. -/
inductive Course (listing : Listing) (service : Service σ ε ρ) (filter sort : String)
    (request : PageRequest) (s : σ) :
    List Call → Except (ListError ε) (List ρ × Page) → σ → Prop
  | refused {e : ListError ε} (h : listing.Refuses filter sort request e) :
      Course listing service filter sort request s [] (.error e) s
  | failed {p : Option Predicate} {order : SortOrder} {calls : List Call} {e : ε} {s' : σ}
      (h : listing.Accepts filter sort request p order)
      (hw : Works service (listing.statements p order request) s calls (.error e) s') :
      Course listing service filter sort request s calls (.error (.store e)) s'
  | answered {p : Option Predicate} {order : SortOrder} {calls : List Call} {total : Int64}
      {rows : List ρ} {s' : σ} (h : listing.Accepts filter sort request p order)
      (hw : Works service (listing.statements p order request) s calls (.ok (total, rows)) s') :
      Course listing service filter sort request s calls
        (.ok (rows,
          { page := request.page
            perPage := request.perPage
            totalItems := total
            totalPages := totalPages request.perPage total }))
        s'

/-- A listing is all or nothing towards its executor. -/
structure Listing.AllOrNothing (listing : Listing) (service : Service σ ε ρ)
    (filter sort : String) (request : PageRequest) (s : σ) : Prop where
  /-- It goes one of the ways, whatever has been written down before. -/
  course : ∀ log outcome s' log',
    listing.fetch service.recorded.executor filter sort request (s, log) = (outcome, s', log')
      ↔ ∃ calls, log' = log ++ calls ∧
          Course listing service filter sort request s calls outcome s'
  /-- What comes of it does not depend on whether the calls are written down. -/
  unseen : ∀ log,
    listing.fetch service.executor filter sort request s
      = Prod.map id Prod.fst
          (listing.fetch service.recorded.executor filter sort request (s, log))

/-! ## Recorded units of work -/

theorem recorded_eq {α : Type} {calls : List Call} {step : Run σ ε α} {s s' : σ}
    {outcome : Except ε α} (h : step s = (outcome, s')) (log : List Call) :
    recorded calls step (s, log) = (outcome, s', log ++ calls) := by
  show ((step s).1, (step s).2, log ++ calls) = _
  rw [h]

/-- Nothing is written down for a step that does nothing. -/
theorem recorded_nil : recorded [] (pure () : Run σ ε Unit) = pure () := by
  funext ⟨s, log⟩
  have idle : (pure () : Run σ ε Unit) s = (.ok (), s) := rfl
  rw [recorded_eq idle log, List.append_nil]
  rfl

namespace Service

variable (service : Service σ ε ρ)

theorem bracket_recorded (call : Call) : service.recorded.bracket call = service.bracket call := by
  unfold bracket recorded
  rw [Option.isSome_map]

/-- The beginning and the end of a unit of work are written down if there are units of work. -/
theorem work_recorded :
    service.recorded.work =
      { begin := Listings.recorded (service.bracket .begin) service.work.begin
        commit := Listings.recorded (service.bracket .commit) service.work.commit
        abandon := Prod.map service.work.abandon id } := by
  unfold work recorded bracket
  cases service.unit with
  | none =>
    show UnitOfWork.trivial
      = ⟨Listings.recorded [] (pure ()), Listings.recorded [] (pure ()), Prod.map id id⟩
    rw [recorded_nil]
    rfl
  | some unit => rfl

variable {service} {s s' : σ} {outcome : Except ε Unit}

theorem recorded_begin (h : service.work.begin s = (outcome, s')) (log : List Call) :
    service.recorded.work.begin (s, log) = (outcome, s', log ++ service.bracket .begin) := by
  rw [work_recorded]
  exact recorded_eq h log

theorem recorded_commit (h : service.work.commit s = (outcome, s')) (log : List Call) :
    service.recorded.work.commit (s, log) = (outcome, s', log ++ service.bracket .commit) := by
  rw [work_recorded]
  exact recorded_eq h log

theorem recorded_abandon (s : σ) (log : List Call) :
    service.recorded.work.abandon (s, log) = (service.work.abandon s, log) := by
  rw [work_recorded]
  rfl

end Service

/-! ## Every unit of work goes one way -/

namespace Works

variable {service : Service σ ε ρ} {q : Statements} {s s' : σ} {calls : List Call}
  {outcome : Except ε (Int64 × List ρ)}

theorem exists_works (service : Service σ ε ρ) (q : Statements) (s : σ) :
    ∃ calls outcome s', Works service q s calls outcome s' := by
  rcases Run.ok_or_error service.work.begin s with ⟨⟨⟩, s₁, hb⟩ | ⟨e, s₁, hb⟩
  · rcases Run.ok_or_error (service.count q.count) s₁ with ⟨total, s₂, hc⟩ | ⟨e, s₂, hc⟩
    · rcases Run.ok_or_error (service.fetch q.page) s₂ with ⟨rows, s₃, hf⟩ | ⟨e, s₃, hf⟩
      · rcases Run.ok_or_error service.work.commit s₃ with ⟨⟨⟩, s₄, he⟩ | ⟨e, s₄, he⟩
        · exact ⟨_, _, _, .answered hb hc hf he⟩
        · exact ⟨_, _, _, .commitFails hb hc hf he⟩
      · exact ⟨_, _, _, .fetchFails hb hc hf⟩
    · exact ⟨_, _, _, .countFails hb hc⟩
  · exact ⟨_, _, _, .beginFails hb⟩

/-- What comes of a unit of work that goes this way. -/
theorem outcome_eq (h : Works service q s calls outcome s') :
    service.executor.consistent (service.executor.run q) s = (outcome, s') := by
  rw [Service.consistent_executor]
  cases h with
  | beginFails hb => exact UnitOfWork.run_begin_error hb
  | countFails hb hc => exact UnitOfWork.run_error hb (Run.bind_error hc)
  | fetchFails hb hc hf =>
    exact UnitOfWork.run_error hb ((Run.bind_ok hc).trans (Run.bind_error hf))
  | commitFails hb hc hf he =>
    exact UnitOfWork.run_commit_error hb ((Run.bind_ok hc).trans (Run.bind_ok hf)) he
  | answered hb hc hf he =>
    exact UnitOfWork.run_ok hb ((Run.bind_ok hc).trans (Run.bind_ok hf)) he

/-- It goes the same way when it is written down. -/
theorem recorded (h : Works service q s calls outcome s') (log : List Call) :
    Works service.recorded q (s, log) calls outcome (s', log ++ calls) := by
  cases h with
  | beginFails hb =>
    have whole := beginFails (q := q) (Service.recorded_begin hb log)
    simpa [Service.bracket_recorded] using whole
  | countFails hb hc =>
    have whole := countFails (Service.recorded_begin hb log) (recorded_eq hc _)
    simpa [Service.recorded_abandon, Service.bracket_recorded] using whole
  | fetchFails hb hc hf =>
    have whole :=
      fetchFails (Service.recorded_begin hb log) (recorded_eq hc _) (recorded_eq hf _)
    simpa [Service.recorded_abandon, Service.bracket_recorded] using whole
  | commitFails hb hc hf he =>
    have whole := commitFails (Service.recorded_begin hb log) (recorded_eq hc _) (recorded_eq hf _)
      (Service.recorded_commit he _)
    simpa [Service.recorded_abandon, Service.bracket_recorded] using whole
  | answered hb hc hf he =>
    have whole := answered (Service.recorded_begin hb log) (recorded_eq hc _) (recorded_eq hf _)
      (Service.recorded_commit he _)
    simpa [Service.bracket_recorded] using whole

end Works

/-! ## Every listing goes one way -/

section Courses

variable {listing : Listing} {service : Service σ ε ρ} {filter sort : String}
  {request : PageRequest} {s s' : σ} {calls : List Call}
  {outcome : Except (ListError ε) (List ρ × Page)}

theorem exists_course (listing : Listing) (service : Service σ ε ρ) (filter sort : String)
    (request : PageRequest) (s : σ) :
    ∃ calls outcome s', Course listing service filter sort request s calls outcome s' := by
  rcases listing.refuses_or_accepts ε filter sort request with ⟨e, refused⟩ | ⟨p, order, accepted⟩
  · exact ⟨_, _, _, .refused refused⟩
  · obtain ⟨calls, outcome, s', works⟩ :=
      Works.exists_works service (listing.statements p order request) s
    cases outcome with
    | error e => exact ⟨_, _, _, .failed accepted works⟩
    | ok answer => exact ⟨_, _, _, .answered accepted works⟩

theorem Course.outcome_eq
    (h : Course listing service filter sort request s calls outcome s') :
    listing.fetch service.executor filter sort request s = (outcome, s') := by
  cases h with
  | refused refused => exact Listing.fetch_of_refuses refused _ _
  | failed accepted works => exact Listing.fetch_error accepted works.outcome_eq
  | answered accepted works => exact Listing.fetch_ok accepted works.outcome_eq

theorem Course.recorded
    (h : Course listing service filter sort request s calls outcome s') (log : List Call) :
    Course listing service.recorded filter sort request (s, log) calls outcome
      (s', log ++ calls) := by
  cases h with
  | refused refused =>
    rw [List.append_nil]
    exact .refused refused
  | failed accepted works => exact .failed accepted (works.recorded log)
  | answered accepted works => exact .answered accepted (works.recorded log)

theorem Listing.allOrNothing (listing : Listing) (service : Service σ ε ρ) (filter sort : String)
    (request : PageRequest) (s : σ) :
    listing.AllOrNothing service filter sort request s := by
  constructor
  · intro log outcome s' log'
    constructor
    · intro fetched
      obtain ⟨calls, outcome', end_, course⟩ :=
        exists_course listing service filter sort request s
      rw [(course.recorded log).outcome_eq] at fetched
      cases fetched
      exact ⟨calls, rfl, course⟩
    · rintro ⟨calls, rfl, course⟩
      exact (course.recorded log).outcome_eq
  · intro log
    obtain ⟨calls, outcome, end_, course⟩ := exists_course listing service filter sort request s
    rw [(course.recorded log).outcome_eq, course.outcome_eq]
    rfl

end Courses

end Listings
