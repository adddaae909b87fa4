import Listings.Paging.Listing

/-!
# Units of work

An executor may have a way to begin and to commit a unit of work, so that the count and the rows of a
listing agree.

* `UnitOfWork.run`: steps as one unit of work, which is abandoned when one of them fails.
* `Service.executor`: the executor that a service makes, with a unit of work or without.
-/

namespace Listings

open Sql (Statement)

variable {σ ε ρ : Type}

/-- How a unit of work begins and ends. -/
structure UnitOfWork (σ ε : Type) where
  begin : Run σ ε Unit
  commit : Run σ ε Unit
  /-- What becomes of the state when a unit of work does not end with its commit. -/
  abandon : σ → σ := id

namespace UnitOfWork

variable {α : Type} {unit : UnitOfWork σ ε} {body : Run σ ε α} {s s₁ s₂ s₃ : σ} {a : α} {e : ε}

/-- Runs steps as one unit of work. It is abandoned when a step fails, or the commit. -/
def run (unit : UnitOfWork σ ε) (body : Run σ ε α) : Run σ ε α := do
  unit.begin
  let work := do
    let a ← body
    unit.commit
    return a
  tryCatch work fun e => do
    modify unit.abandon
    throw e

theorem run_begin_error (hb : unit.begin s = (.error e, s₁)) :
    unit.run body s = (.error e, s₁) :=
  Run.bind_error hb

theorem run_error (hb : unit.begin s = (.ok (), s₁)) (h : body s₁ = (.error e, s₂)) :
    unit.run body s = (.error e, unit.abandon s₂) := by
  rw [run, Run.bind_ok hb, Run.tryCatch_error (Run.bind_error h)]
  rfl

theorem run_commit_error (hb : unit.begin s = (.ok (), s₁)) (h : body s₁ = (.ok a, s₂))
    (hc : unit.commit s₂ = (.error e, s₃)) : unit.run body s = (.error e, unit.abandon s₃) := by
  rw [run, Run.bind_ok hb, Run.tryCatch_error ((Run.bind_ok h).trans (Run.bind_error hc))]
  rfl

theorem run_ok (hb : unit.begin s = (.ok (), s₁)) (h : body s₁ = (.ok a, s₂))
    (hc : unit.commit s₂ = (.ok (), s₃)) : unit.run body s = (.ok a, s₃) := by
  rw [run, Run.bind_ok hb, Run.tryCatch_ok ((Run.bind_ok h).trans (Run.bind_ok hc))]

/-- No unit of work: nothing is done to begin or to end it. -/
def trivial : UnitOfWork σ ε where
  begin := pure ()
  commit := pure ()

theorem run_trivial (body : Run σ ε α) : trivial.run body = body := by
  funext s
  rcases Run.ok_or_error body s with ⟨a, s', h⟩ | ⟨e, s', h⟩
  · rw [h]
    exact run_ok rfl h rfl
  · rw [h]
    exact run_error rfl h

end UnitOfWork

/-- What an executor is made of. -/
structure Service (σ ε ρ : Type) where
  count : Statement → Run σ ε Int64
  fetch : Statement → Run σ ε (List ρ)
  /-- How a unit of work begins and ends, if there are units of work. -/
  unit : Option (UnitOfWork σ ε) := none

namespace Service

/-- Without units of work the steps are run one after the other. -/
def executor (service : Service σ ε ρ) : Executor σ ε ρ where
  count := service.count
  fetch := service.fetch
  consistent body :=
    match service.unit with
    | none => body
    | some unit => unit.run body

/-- The unit of work of a service, which is the one that does nothing if there is none. -/
def work (service : Service σ ε ρ) : UnitOfWork σ ε := service.unit.getD .trivial

theorem consistent_executor {α : Type} (service : Service σ ε ρ) (body : Run σ ε α) :
    service.executor.consistent body = service.work.run body := by
  unfold executor work
  cases service.unit with
  | none => exact (UnitOfWork.run_trivial body).symm
  | some unit => rfl

end Service

end Listings
