import LuminaRail.Concurrency.Lease
import LuminaRail.Concurrency.RelyGuarantee
import LuminaRail.Model.Decimal
import LuminaRail.Model.Errors
import LuminaRail.Model.Schema
import LuminaRail.Model.Text

/-! The world that the services act on, and the steps that their awaits wait for.
An SQL statement, a Redis command and a call to an external service are one action each. An
action may throw whenever its environment says so, and a statement that throws has had no
effect but the end of its transaction.
-/

namespace LuminaRail

open Concurrency Database

-----------------------------------------------------------------------------------------
-- State
-----------------------------------------------------------------------------------------

/-- The answers of Soroban RPC to `getTransaction`. -/
inductive GetTransactionStatus
  | SUCCESS
  | FAILED
  | NOT_FOUND
deriving DecidableEq

/-- What can be observed of a run besides its database. -/
inductive Event
  | refundClaimed (t : Tid) (refundId : Id) (status : RefundStatus)
  | refundRequested (t : Tid) (refundId orderId : Id) (amountInKobo : Int)
  | refundAnswered (t : Tid) (refundId : Id) (status : RefundStatus)
  | submissionStarted (t : Tid) (orderId : Id)
  | submissionReturned (t : Tid) (orderId : Id) (transactionHash : Option String)
  | broadcast (orderId : Id) (transactionHash : String)
  | paymentReported (reference : String)
  | paymentRequested (t : Tid) (paymentId : Id)
  | paymentAnswered (t : Tid) (name : String) (status : PaymentStatus) (amount : Decimal)
    (currency : String)
  | transactionVerified (reference status : String) (amountInKobo : Int) (currency : String)
  | paymentPicked (t : Tid) (orderId : Id) (paymentId refundId : Option Id)
  | statusAnswered (transactionHash : String) (status : GetTransactionStatus)
  | flowEnded (t : Tid) (orderId : Id)
  | transitionChecked (t : Tid) (orderId : Id) (status : SettlementStatus)
  | orderChecked (t : Tid) (orderId : Id) (status next : OrderStatus)
  | webhookClaimed (t : Tid) (providerId eventId : String)
  | webhookAnswered (t : Tid)
  | webhookFailed (t : Tid)
  | crashed (t : Tid)
deriving DecidableEq

/-- The program that an event is about, if it is an event of one program. -/
def Event.owner : Event → Option Tid
  | .refundClaimed t _ _ => some t
  | .refundRequested t _ _ _ => some t
  | .refundAnswered t _ _ => some t
  | .submissionStarted t _ => some t
  | .submissionReturned t _ _ => some t
  | .broadcast _ _ => none
  | .paymentReported _ => none
  | .paymentRequested t _ => some t
  | .paymentAnswered t _ _ _ _ => some t
  | .transactionVerified _ _ _ _ => none
  | .paymentPicked t _ _ _ => some t
  | .statusAnswered _ _ => none
  | .flowEnded t _ => some t
  | .transitionChecked t _ _ => some t
  | .orderChecked t _ _ _ => some t
  | .webhookClaimed t _ _ => some t
  | .webhookAnswered t => some t
  | .webhookFailed t => some t
  | .crashed t => some t

/-- What a sandbox provider remembers of a payment; it stores no refunds. -/
structure StoredPayment where
  providerPaymentId : String
  status : PaymentStatus
  amount : Decimal
  currency : String
  unrefunded : status ≠ .REFUNDED
deriving DecidableEq

/-- The payments of a sandbox provider, which are found by their reference as well. -/
structure Sandbox where
  idOf : String → Option String := fun _ => none
  payments : String → Option StoredPayment := fun _ => none

/-- `storeById.get(id) || storeByReference.get(id)`. -/
def Sandbox.find (sandbox : Sandbox) (id : String) : Option StoredPayment :=
  (sandbox.payments id).or ((sandbox.idOf id).bind sandbox.payments)

/-- The database, the Redis server, the locks that their processes know to be lost, the clock
in milliseconds, the memory of the two sandbox providers and the events so far, the newest
first.
-/
structure World where
  db : Server Row
  redis : Leases String
  lost : Token → Bool
  clock : Nat
  mock : Sandbox := {}
  ngn : Sandbox := {}
  trace : List Event

/-- A system that has just been started on a database. -/
def World.start (rows : AList Row) : World :=
  { db := Server.start rows
    redis := Leases.start
    lost := fun _ => false
    clock := 0
    trace := [] }

/-- The answers of the external services. -/
inductive Reply
  | nothing
  | account
  | simulationError (error : String)
  | simulationFailure
  | simulationSuccess
  | signature (isValid : Bool)
  | sent (isError : Bool) (hash : String)
  | sendLost (accepted : Option String)
  | transactionStatus (status : GetTransactionStatus) (ledger : Nat)
  | refund (id status reference : String)
  | initialized (reference : String)
  | verification (status reference : String) (amountInKobo : Int) (currency : String)
deriving DecidableEq

/-- What the environment decides about an action: whether it throws, and with which message,
and the values that the action cannot know. The message doubles as a fresh identifier.
-/
structure Input where
  throws : Bool := false
  text : String := ""
  number : Nat := 0
  reply : Reply := .nothing

/-- The processes that the services run in. -/
abbrev Service (α : Type) := ExceptT AppError (Program World Input) α

namespace Service

/-- One action; `none` while it waits. -/
def act {α : Type} (action : Tid → World → Input → Option (Except AppError α × World))
    : Service α :=
  ExceptT.mk (Program.action action)

/-- `if (bad) throw error`. -/
def throwIf (bad : Prop) [Decidable bad] (error : AppError) : Service Unit :=
  if bad then throw error else pure ()

/-- Run `cleanup` however `body` ends. -/
def finally' {α : Type} (body : Service α) (cleanup : Service Unit) : Service α := do
  let result ← tryCatch (Except.ok <$> body) fun error => pure (.error error)
  cleanup
  match result with
  | .ok value => pure value
  | .error error => throw error

-----------------------------------------------------------------------------------------
-- Statements
-----------------------------------------------------------------------------------------

/-- A statement of a transaction, or of the client outside any. The transactions of other programs
are not open to it.
-/
def statement {α : Type} (client : Option TxId)
    (run : Server Row → Option (Except AppError α × Server Row)) : Service α :=
  act fun t world input =>
    match client with
    | none =>
        if input.throws then
          some (.error ⟨input.text, 500, "P1001"⟩, world)
        else
          (run world.db).map fun answer => (answer.1, { world with db := answer.2 })
    | some x =>
        if (world.db.pending x).isNone ∨ x.owner ≠ t then
          some (.error .transactionClosed, world)
        else if input.throws then
          some (.error ⟨input.text, 500, "P1001"⟩, { world with db := world.db.rollback x })
        else
          (run world.db).map fun answer => (answer.1, { world with db := answer.2 })

/-- A SELECT of what a client sees. -/
def select {α : Type} (client : Option TxId) (query : AList Row → α) : Service α :=
  statement client fun db => some (.ok (query (db.visible client)), db)

def findUnique (client : Option TxId) (key : Key) : Service (Option (Row key)) :=
  select client (AList.lookup key)

def findUniqueOrThrow (client : Option TxId) (key : Key) : Service (Row key) := do
  match ← findUnique client key with
  | some row => pure row
  | none => throw .recordNotFound

/-- What follows a successful search is the rest; a missing row ends it. -/
theorem findUniqueOrThrow_bind {α : Type} (client : Option TxId) (key : Key)
    (rest : Row key → Service α)
    : findUniqueOrThrow client key >>= rest
      = findUnique client key >>= fun found =>
          match found with
          | some row => rest row
          | none => throw .recordNotFound := by
  rw [findUniqueOrThrow, bind_assoc]
  congr 1
  funext found
  cases found <;> rfl

/-- SELECT ... FOR UPDATE of one row. -/
def selectForUpdate (x : TxId) (key : Key) : Service Unit :=
  statement (some x) fun db =>
    match (db.visible (some x)).lookup key with
    | none => some (.ok (), db)
    | some _ => (db.lock x key).map fun after => (.ok (), after)

/-- UPDATE of one row, which must exist. -/
def update (client : Option TxId) (key : Key) (data : Row key → Row key) : Service (Row key) :=
  statement client fun db =>
    match (db.visible client).lookup key with
    | none => some (.error .recordNotFound, db)
    | some row => (db.save client [⟨key, data row⟩]).map fun after => (.ok (data row), after)

/-- UPDATE of one row where a condition holds; answers with the number of updated rows. -/
def updateMany (client : Option TxId) (key : Key) (condition : Row key → Bool)
    (data : Row key → Row key) : Service Nat :=
  statement client fun db =>
    match (db.visible client).lookup key with
    | none => some (.ok 0, db)
    | some row =>
        if condition row then
          (db.save client [⟨key, data row⟩]).map fun after => (.ok 1, after)
        else
          some (.ok 0, db)

/-- Such an UPDATE outside any transaction, of which the success is observed. -/
def claim (key : Key) (condition : Row key → Bool) (data : Row key → Row key)
    (event : Tid → Event) : Service Nat :=
  act fun t world input =>
    if input.throws then
      some (.error ⟨input.text, 500, "P1001"⟩, world)
    else
      match world.db.committed.lookup key with
      | none => some (.ok 0, world)
      | some row =>
          if condition row then
            (world.db.save none [⟨key, data row⟩]).map fun after =>
              (.ok 1, { world with db := after, trace := event t :: world.trace })
          else
            some (.ok 0, world)

/-- INSERT of a row with the index rows of its unique columns. A value that is taken already
aborts the transaction.
-/
def create (client : Option TxId) (key : Key) (row : Row key) (index : List (Sigma Row) := [])
    : Service (Row key) :=
  statement client fun db =>
    if (⟨key, row⟩ :: index).any fun entry => ((db.visible client).lookup entry.1).isSome then
      some (.error .uniqueConstraint,
        match client with
        | none => db
        | some x => db.rollback x)
    else
      (db.save client (⟨key, row⟩ :: index)).map fun after => (.ok row, after)

/-- INSERT of a row outside any transaction, of which the success is observed. -/
def insert (key : Key) (row : Row key) (event : Tid → Event) : Service Unit :=
  act fun t world input =>
    if input.throws then
      some (.error ⟨input.text, 500, "P1001"⟩, world)
    else if (world.db.committed.lookup key).isSome then
      some (.error .uniqueConstraint, world)
    else
      (world.db.save none [⟨key, row⟩]).map fun after =>
        (.ok (), { world with db := after, trace := event t :: world.trace })

def begin : Service TxId :=
  act fun t world input =>
    if input.throws then
      some (.error ⟨input.text, 500, "P1001"⟩, world)
    else
      some (.ok (world.db.begin t).1, { world with db := (world.db.begin t).2 })

/-- COMMIT; a transaction that has ended by itself cannot be committed. -/
def commit (x : TxId) : Service Unit :=
  act fun t world input =>
    if (world.db.pending x).isNone ∨ x.owner ≠ t then
      some (.error .transactionClosed, world)
    else if input.throws then
      some (.error ⟨input.text, 500, "P1001"⟩, { world with db := world.db.rollback x })
    else
      some (.ok (), { world with db := world.db.commit x })

def rollback (x : TxId) : Service Unit :=
  act fun t world _ =>
    if x.owner ≠ t then some (.ok (), world)
    else some (.ok (), { world with db := world.db.rollback x })

/-- `prisma.$transaction`. -/
def transaction {α : Type} (body : TxId → Service α) : Service α := do
  let x ← begin
  let result ← tryCatch (body x) fun error => do
    rollback x
    throw error
  commit x
  pure result

-----------------------------------------------------------------------------------------
-- Time, events and external services
-----------------------------------------------------------------------------------------

/-- `Date.now()`. -/
def now : Service Nat :=
  act fun _ world _ => some (.ok world.clock, world)

/-- An identifier or a random text of the environment's choice. -/
def randomText : Service String :=
  act fun _ world input => some (.ok input.text, world)

/-- How often a timed loop goes round is up to the environment. -/
def attempts : Service Nat :=
  act fun _ world input => some (.ok input.number, world)

/-- Record an event; a ghost step. -/
def emit (event : Tid → Event) : Service Unit :=
  act fun t world _ => some (.ok (), { world with trace := event t :: world.trace })

/-- A call to an external service, which is observed when it is made. Replies of the wrong
kind never arrive.
-/
def external {α : Type} (answer : Input → Option (Except AppError α × List Event))
    : Service α :=
  act fun _ world input =>
    (answer input).map fun reply =>
      (reply.1, { world with trace := reply.2 ++ world.trace })

/-- A step of a sandbox provider on its memory, at the time that it reads and with a random text
of the environment's choice.
-/
def onMock {α : Type} (run : Nat → String → Sandbox → α × Sandbox) : Service α :=
  act fun _ world input =>
    let answer := run world.clock input.text world.mock
    some (.ok answer.1, { world with mock := answer.2 })

def onNgn {α : Type} (run : Nat → String → Sandbox → α × Sandbox) : Service α :=
  act fun _ world input =>
    let answer := run world.clock input.text world.ngn
    some (.ok answer.1, { world with ngn := answer.2 })

/-- `findFirst`: which of several rows comes first is up to the environment. -/
def findFirst {α : Type} (client : Option TxId) (query : AList Row → List α)
    : Service (Option α) := do
  let found ← select client query
  let choice ← attempts
  pure found[choice % found.length]?

end Service

end LuminaRail
