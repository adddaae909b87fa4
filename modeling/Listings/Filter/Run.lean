import Listings.Filter.SyntaxError

/-!
# Runs

A run takes steps until it has a value or stops. What it passes on its way is kept.

* `Halt`: why a run stops.
* `Run`: what a run has passed, and what has come of it.
-/

namespace Listings.Filter

/-- Why a run stops. That a filter is refused is no fault; everything else would be one. -/
inductive Halt where
  | refused (e : SyntaxError)
  /-- Something is taken from where nothing is. -/
  | outside
  /-- A level is left that has not been entered. -/
  | notEntered
  /-- More calls are open in one another than may be. -/
  | tooManyCalls
  /-- A loop has gone round more often than there is something to take. -/
  | tooManyRounds
deriving DecidableEq

/-- A run that passes states or places of a type. -/
structure Run (σ α : Type) where
  passed : List σ
  outcome : Except Halt α

namespace Run

variable {σ α β : Type}

/-- A run, and what follows it if it has a value. -/
def bind (run : Run σ α) (next : α → Run σ β) : Run σ β :=
  match run.outcome with
  | .ok a => ⟨run.passed ++ (next a).passed, (next a).outcome⟩
  | .error h => ⟨run.passed, .error h⟩

instance : Monad (Run σ) where
  pure a := ⟨[], .ok a⟩
  bind := Run.bind

/-- A run that stops at once. -/
def stop (h : Halt) : Run σ α := ⟨[], .error h⟩

/-- What a step that may be refused comes to. -/
def ofExcept (step : Except SyntaxError α) : Run σ α := ⟨[], step.mapError .refused⟩

theorem bind_of_ok {run : Run σ α} {a : α} (h : run.outcome = .ok a) (next : α → Run σ β) :
    run >>= next = ⟨run.passed ++ (next a).passed, (next a).outcome⟩ := by
  show run.bind next = _
  rw [bind, h]

theorem bind_of_error {run : Run σ α} {halt : Halt} (h : run.outcome = .error halt)
    (next : α → Run σ β) : run >>= next = ⟨run.passed, .error halt⟩ := by
  show run.bind next = _
  rw [bind, h]

end Run

end Listings.Filter
