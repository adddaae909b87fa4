import Listings.Paging.UnitOfWork

/-!
# Scripted executors

An executor whose answers are fixed beforehand and which writes down what it is asked to do.
-/

namespace Listings

open Sql (Statement)

/-- What an executor was asked to do. -/
inductive Call where
  | begin
  | count (s : Statement)
  | fetch (s : Statement)
  | commit
deriving DecidableEq

/-- The answers of an executor. -/
structure Script (ε ρ : Type) where
  count : Except ε Int64
  fetch : Except ε (List ρ)
  /-- How a unit of work begins and ends, if the executor has units of work. -/
  unit : Option (Except ε Unit × Except ε Unit) := none

namespace Script

variable {ε ρ : Type}

/-- Writes a call down and answers it. -/
def answer {α : Type} (call : Call) (result : Except ε α) : Run (List Call) ε α := do
  modify (· ++ [call])
  match result with
  | .ok a => return a
  | .error e => throw e

/-- The service that follows the script. A unit of work that is abandoned leaves what is written. -/
def service (script : Script ε ρ) : Service (List Call) ε ρ where
  count s := answer (.count s) script.count
  fetch s := answer (.fetch s) script.fetch
  unit := script.unit.map fun (begin_, commit) =>
    { begin := answer .begin begin_, commit := answer .commit commit }

/-- The executor that follows the script. -/
def executor (script : Script ε ρ) : Executor (List Call) ε ρ := script.service.executor

end Script

end Listings
