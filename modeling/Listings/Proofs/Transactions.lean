import Listings.Store.Connection

/-!
# Transactions

Listings do not disturb the transactions of a connection.

* `Connection.after`: the connection after control statements and listings in any order.
* `Keeps`: steps that leave the state as it is.
* `transactions_run_of_open`, `transactions_run_of_closed`: such steps inside a transaction of their own.
* `Undisturbed`, `undisturbed`: what can be said of every listing, wherever it stands among other steps.
-/

namespace Listings.Store

/-! ## Steps -/

/-- A listing that is asked for on a connection. -/
structure ListingCall where
  row : Type
  listing : Listing
  read : Reader row
  plan : Plan
  filter : String
  sort : String
  request : PageRequest

/-- The listing on a connection. -/
def ListingCall.run (call : ListingCall) :
    Run Connection (ListError StoreError) (List call.row × Page) :=
  call.listing.fetch (Connection.executor call.read call.plan) call.filter call.sort call.request

/-- What is done with a connection. -/
inductive Step where
  | control (control : Control)
  | listing (call : ListingCall)

/-- The connection after a step. -/
def Connection.step (connection : Connection) : Step → Connection
  | .control c => connection.control c
  | .listing call => (call.run connection).2

/-- The connection after some steps. -/
def Connection.after (connection : Connection) (steps : List Step) : Connection :=
  steps.foldl Connection.step connection

/-- Whether a transaction is open after some steps if nothing but the control statements opens and
closes transactions. -/
def openAfter (before : Bool) : List Step → Bool
  | [] => before
  | .control c :: steps => openAfter (c == .begin) steps
  | .listing _ :: steps => openAfter before steps

/-- After some steps, whatever they are, a listing does not disturb the transactions. -/
structure Undisturbed (connection : Connection) (steps : List Step) : Prop where
  /-- A further listing leaves the connection as it is, whatever comes of it. -/
  kept : ∀ call, connection.after (steps ++ [.listing call]) = connection.after steps
  /-- If a transaction is open, a listing with a valid request fails in the store, and the transaction
  stays open. -/
  nested : ∀ call p order, call.listing.Accepts call.filter call.sort call.request p order →
    (connection.after steps).inTransaction = true →
      (call.run (connection.after steps)).1 = .error (.store .nestedTransaction) ∧
      (connection.after (steps ++ [.listing call])).inTransaction = true
  /-- The control statements alone have opened and closed transactions. -/
  controlled : (connection.after steps).inTransaction = openAfter connection.inTransaction steps

/-! ## Steps that keep the state -/

/-- Steps that leave the state as it is, whatever comes of them. -/
def Keeps {σ ε α : Type} (x : Run σ ε α) : Prop := ∀ s, (x s).2 = s

theorem Keeps.bind {σ ε α β : Type} {x : Run σ ε α} {f : α → Run σ ε β} (hx : Keeps x)
    (hf : ∀ a, Keeps (f a)) : Keeps (x >>= f) := by
  intro s
  rcases Run.ok_or_error x s with ⟨a, s', h⟩ | ⟨e, s', h⟩
  · obtain rfl : s' = s := by simpa [h] using hx s
    rw [Run.bind_ok h]
    exact hf a s'
  · obtain rfl : s' = s := by simpa [h] using hx s
    rw [Run.bind_error h]

theorem Keeps.adapt {σ ε ε' α : Type} {x : Run σ ε α} (hx : Keeps x) (f : ε → ε') :
    Keeps (x.adapt f) := by
  intro s
  rcases Run.ok_or_error x s with ⟨a, s', h⟩ | ⟨e, s', h⟩
  · rw [Run.adapt_ok h]
    simpa [h] using hx s
  · rw [Run.adapt_error h]
    simpa [h] using hx s

theorem Keeps.pure {σ ε α : Type} (a : α) : Keeps (Pure.pure a : Run σ ε α) := fun _ => rfl

namespace Connection

variable {ρ α : Type} {connection : Connection} {body : Run Connection StoreError α}

/-- A statement is executed, and then its result is made of the data. -/
theorem run_eq (plan : Plan) (statement : Sql.Statement)
    (result : Database → Except StoreError α) (connection : Connection) :
    run plan statement result connection
      = (plan.execute connection.database statement >>= fun _ => result connection.database,
          connection) := by
  show (MonadExcept.ofExcept (plan.execute connection.database statement >>= fun _ =>
    result connection.database) : Run Connection StoreError α) connection = _
  generalize (plan.execute connection.database statement >>= fun _ =>
    result connection.database) = outcome
  cases outcome with
  | error e => rfl
  | ok a => rfl

theorem keeps_run (plan : Plan) (statement : Sql.Statement)
    (result : Database → Except StoreError α) : Keeps (run plan statement result) := by
  intro connection
  rw [run_eq]

/-- Neither the count nor the rows change the connection. -/
theorem keeps_executor_run (read : Reader ρ) (plan : Plan) (q : Statements) :
    Keeps ((executor read plan).run q) := by
  refine Keeps.bind (keeps_run plan _ _) fun total => ?_
  refine Keeps.bind (keeps_run plan _ _) fun rows => ?_
  exact Keeps.pure (total, rows)

/-- No transaction begins inside another. -/
theorem transactions_run_of_open (inside : connection.inTransaction = true) :
    transactions.run body connection = (.error .nestedTransaction, connection) := by
  obtain ⟨db, before⟩ := connection
  obtain rfl : before = true := inside
  exact UnitOfWork.run_begin_error rfl

/-- Steps that keep the connection do so inside a transaction of their own, which is committed or
rolled back. -/
theorem transactions_run_of_closed (outside : connection.inTransaction = false)
    (h : Keeps body) :
    transactions.run body connection
      = ((body { connection with inTransaction := true }).1, connection) := by
  obtain ⟨db, before⟩ := connection
  obtain rfl : before = false := outside
  have begun : transactions.begin ⟨db, false⟩ = (.ok (), ⟨db, true⟩) := rfl
  have committed : transactions.commit ⟨db, true⟩ = (.ok (), ⟨db, false⟩) := rfl
  have same := h ⟨db, true⟩
  rcases Run.ok_or_error body ⟨db, true⟩ with ⟨a, inner, done⟩ | ⟨e, inner, failed⟩
  · obtain rfl : inner = ⟨db, true⟩ := by simpa [done] using same
    rw [UnitOfWork.run_ok begun done committed, done]
  · obtain rfl : inner = ⟨db, true⟩ := by simpa [failed] using same
    rw [UnitOfWork.run_error begun failed, failed]
    rfl

/-- Whatever the steps are, they run inside a transaction that was not open before. -/
theorem keeps_transactions_run (h : Keeps body) : Keeps (transactions.run body) := by
  intro connection
  cases inside : connection.inTransaction with
  | true => rw [transactions_run_of_open inside]
  | false => rw [transactions_run_of_closed inside h]

end Connection

/-! ## Listings -/

namespace ListingCall

variable (call : ListingCall)

/-- A valid request is refused by the store inside a transaction. -/
theorem run_of_open {connection : Connection} {p : Option Predicate} {order : SortOrder}
    (h : call.listing.Accepts call.filter call.sort call.request p order)
    (inside : connection.inTransaction = true) :
    call.run connection = (.error (.store .nestedTransaction), connection) :=
  Listing.fetch_error h (Connection.transactions_run_of_open inside)

/-- A listing keeps the connection. -/
theorem keeps_run : Keeps call.run := by
  intro connection
  rcases call.listing.refuses_or_accepts StoreError call.filter call.sort call.request with
    ⟨e, refused⟩ | ⟨p, order, accepted⟩
  · have left := Listing.fetch_of_refuses refused (Connection.executor call.read call.plan) connection
    rw [run, left]
  · have work := Connection.keeps_transactions_run
      (Connection.keeps_executor_run call.read call.plan (call.listing.statements p order call.request))
    have kept := (work.adapt ListError.store).bind fun answer => Keeps.pure
      (ε := ListError StoreError) (answer.2, Page.ofCount call.request answer.1)
    rw [run, Listing.fetch_eq accepted]
    exact kept connection

end ListingCall

/-! ## Runs -/

theorem Connection.after_listing (connection : Connection) (steps : List Step) (call : ListingCall) :
    connection.after (steps ++ [.listing call]) = connection.after steps := by
  rw [after, List.foldl_append]
  exact call.keeps_run _

/-- A control statement opens or closes the transaction, whether or not it fails. -/
theorem Connection.control_inTransaction (connection : Connection) (c : Control) :
    (connection.control c).inTransaction = (c == .begin) := by
  obtain ⟨db, inside⟩ := connection
  cases c <;> cases inside <;> rfl

/-- The control statements alone open and close transactions. -/
theorem Connection.after_inTransaction (connection : Connection) (steps : List Step) :
    (connection.after steps).inTransaction = openAfter connection.inTransaction steps := by
  induction steps generalizing connection with
  | nil => rfl
  | cons step steps ih =>
    rw [after, List.foldl_cons, ← after, ih]
    cases step with
    | control c => rw [openAfter, step, control_inTransaction]
    | listing call =>
      have kept := call.keeps_run connection
      rw [openAfter, step, kept]

/-- Listings never disturb the transactions of a connection. -/
theorem undisturbed (connection : Connection) (steps : List Step) :
    Undisturbed connection steps := by
  refine ⟨connection.after_listing steps, ?_, connection.after_inTransaction steps⟩
  intro call p order accepted inside
  rw [call.run_of_open accepted inside, connection.after_listing]
  exact ⟨rfl, inside⟩

end Listings.Store
