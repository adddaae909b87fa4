import Listings.Paging.UnitOfWork
import Listings.Store.Plan

/-!
# Connections

A connection to a database runs statements, and remembers whether a transaction is open.

* `Connection.send`: begins and ends transactions, none of them inside another.
* `Connection.run`: runs a statement. It fails when a name in it stands for nothing, or when the plan
  for it comes to a pattern that is too long.
* `Connection.executor`: the executor of a connection. Its unit of work is a transaction, which is
  rolled back when a step fails.
-/

namespace Listings.Store

/-- A connection to a database. -/
structure Connection where
  database : Database
  inTransaction : Bool := false
deriving DecidableEq

/-- What is sent to a connection as it is. -/
inductive Control where
  | begin
  | commit
  | rollback
deriving DecidableEq

/-- Sends a control statement. A transaction cannot begin inside another, nor end if there is none. -/
def Connection.send (control : Control) : Run Connection StoreError Unit := do
  let connection ← get
  match control, connection.inTransaction with
  | .begin, false => set { connection with inTransaction := true }
  | .begin, true => throw .nestedTransaction
  | .commit, true | .rollback, true => set { connection with inTransaction := false }
  | .commit, false => throw (.noTransaction "commit")
  | .rollback, false => throw (.noTransaction "rollback")

/-- The connection after a control statement. -/
def Connection.control (connection : Connection) (control : Control) : Connection :=
  ((Connection.send control).run.run connection).2

/-- How a row of an answer is read. -/
abbrev Reader (ρ : Type) := Record → Except StoreError ρ

namespace Reader

/-- All values of a row. -/
def values : Reader (List Value) := fun record => .ok (record.map (·.2))

/-- The text in a column. -/
def text (index : Nat) : Reader String := fun record =>
  match record[index]? with
  | some (_, .text s) => .ok s
  | some (column, v) => .error (.wrongType index column (.ofValue v))
  | none => .error (.noSuchIndex index)

end Reader

namespace Connection

variable {ρ : Type}

/-- Runs a statement as it is planned. -/
def run {α : Type} (plan : Plan) (statement : Sql.Statement)
    (result : Database → Except StoreError α) : Run Connection StoreError α := do
  let connection ← get
  MonadExcept.ofExcept do
    plan.execute connection.database statement
    result connection.database

/-- Transactions as units of work. -/
def transactions : UnitOfWork Connection StoreError where
  begin := send .begin
  commit := send .commit
  abandon connection := connection.control .rollback

/-- The service of a connection, with a reader for the rows. -/
def service (read : Reader ρ) (plan : Plan) : Service Connection StoreError ρ where
  count statement := run plan statement fun db => .ok (db.count statement.select)
  fetch statement := run plan statement fun db => (db.answer statement.select).mapM read
  unit := some transactions

/-- The executor of a connection, with a reader for the rows. -/
def executor (read : Reader ρ) (plan : Plan := .nested) : Executor Connection StoreError ρ :=
  (service read plan).executor

end Connection

end Listings.Store
