import LuminaRail.Records.Terms
import LuminaRail.Services.PaymentProviders
import LuminaRail.Stellar.Environment

/-! What is known of the end of a run: which rows there have the terms of which earlier ones, what
the database has passed through, which transactions have been broadcast, and which of them the
network has reported as successful. It also says for which customers each program acts, so that each
answers for the records that it changes.
-/

namespace LuminaRail

open Concurrency Database Service

/-- The order was found fit to be paid out, at moments that the database has passed through. -/
structure Cleared (config : Config) (passed : AList Row → Prop) (orderId : Id) : Prop where
  unpaused : config.treasury.emergencyGlobalPause = false
  ordered : ∃ rows, passed rows ∧ ∃ order : Order, rows.lookup (.order orderId) = some order
    ∧ order.status = .SETTLEMENT_PENDING ∧ (truthy order.walletAddress).isSome
    ∧ config.treasury.minSettlementUsdc.value ≤ (stroops order.destinationAmount).value
    ∧ (stroops order.destinationAmount).value ≤ config.treasury.maxSingleSettlementUsdc.value
  unrefunded : ∃ rows, passed rows ∧ activeRefund orderId rows = none
  paid : ∃ rows, passed rows ∧ ∃ found ∈ paymentsOf orderId rows, found.2.status = .SUCCEEDED
  reserved : ∃ rows, passed rows ∧ ∃ reservation : LiquidityReservation,
    rows.lookup (.liquidityReservation orderId) = some reservation
      ∧ reservation.status = .CONFIRMED
  unsettled : ∃ rows, passed rows ∧ ∃ settlement : Settlement,
    rows.lookup (.settlement orderId) = some settlement ∧ settlement.status ≠ .COMPLETED

/-- Facts of a whole run. A settlement that was stored with a transaction or as COMPLETED when the
run began counts as sent or completed. The payments and the orders that were paid by then are
given as well.
-/
structure Foresight where
  config : Config
  offered : Quote → Prop
  passed : AList Row → Prop
  known : ∀ key, Row key → Prop
  sent : Id → String → Prop
  succeeded : String → Prop
  completed : Id → Prop
  reported : String → Prop
  receivedBefore : Id → Prop
  paidBefore : Id → Prop
  consumedBefore : Id → Prop
  actsFor : Tid → Id → Prop

namespace Foresight

variable {F : Foresight} {t : Tid} {world after : World}

/-- A transaction that was broadcast for the order has been reported as successful. -/
def Landed (F : Foresight) (orderId : Id) : Prop :=
  F.completed orderId ∨ ∃ transactionHash, F.sent orderId transactionHash
    ∧ F.succeeded transactionHash

/-- The names under which Paystack may be asked about a payment. A payment without a reference goes
by the idempotency key of its order.
-/
def Names (F : Foresight) (payment : Payment) (name : String) : Prop :=
  name = payment.reference ∨ payment.providerPaymentId = some name
    ∨ (payment.reference = "" ∧ ∃ order : Order, F.known (.order payment.orderId) order
      ∧ order.idempotencyKey = some name)

/-- Paystack has reported the payment as successful, if it is one of Paystack's. -/
def Reported (F : Foresight) (payment : Payment) : Prop :=
  payment.provider = Provider.PAYSTACK_NGN_BANK_TRANSFER.providerId
    → ∃ name, F.Names payment name ∧ F.reported name

def Received (F : Foresight) (paymentId : Id) : Prop :=
  F.receivedBefore paymentId
    ∨ ∃ rows, F.passed rows ∧ ∃ payment : Payment, rows.lookup (.payment paymentId) = some payment
      ∧ F.Reported payment

/-- A payment of the order has been received. -/
def Paid (F : Foresight) (orderId : Id) : Prop :=
  F.paidBefore orderId
    ∨ ∃ id, ∃ payment : Payment, F.known (.payment id) payment ∧ payment.orderId = orderId
      ∧ F.Received id

/-- Only what has been received is SUCCEEDED and only what has been paid is confirmed, only what has
been broadcast is stored as sent, and only what has landed is COMPLETED and CONSUMED.
-/
def Backed (F : Foresight) : (key : Key) → Row key → Prop
  | .order id, (order : Order) =>
      (order.status = .COMPLETED → F.Landed id)
        ∧ (order.status = .PAYMENT_CONFIRMED ∨ order.status = .SETTLEMENT_PENDING → F.Paid id)
  | .payment id, (payment : Payment) => payment.status = .SUCCEEDED → F.Received id
  | .settlement id, (settlement : Settlement) =>
      (∀ transactionHash ∈ settlement.stellarTransactionHash, F.sent id transactionHash)
        ∧ (settlement.status = .COMPLETED → F.Landed id)
  | .liquidityReservation id, (reservation : LiquidityReservation) =>
      (reservation.status = .CONFIRMED → F.Paid id)
        ∧ (reservation.status = .CONSUMED → F.consumedBefore id ∨ F.Landed id)
  | _, _ => True

/-- The program acts for the customer of an order. -/
def OwnOrder (F : Foresight) (t : Tid) (orderId : Id) : Prop :=
  (∀ user, F.actsFor t user)
    ∨ ∃ order : Order, F.known (.order orderId) order ∧ F.actsFor t order.userId

/-- The program acts for the customer of a payment. -/
def OwnPayment (F : Foresight) (t : Tid) (paymentId : Id) : Prop :=
  (∀ user, F.actsFor t user)
    ∨ ∃ payment : Payment, F.known (.payment paymentId) payment ∧ F.actsFor t payment.userId

/-- The program acts for the customer of a refund. -/
def OwnRefund (F : Foresight) (t : Tid) (refundId : Id) : Prop :=
  (∀ user, F.actsFor t user)
    ∨ ∃ refund : Refund, F.known (.refund refundId) refund ∧ F.actsFor t refund.userId

/-- The record is not that of a customer for whom the program does not act. -/
def MayChange (F : Foresight) (t : Tid) : Key → Prop
  | .order id | .settlement id | .liquidityReservation id => F.OwnOrder t id
  | .payment id | .providerTransaction id => F.OwnPayment t id
  | .refund id => F.OwnRefund t id
  | _ => True

/-- The record is not made in the name of a customer for whom the program does not act. -/
def MayMake (F : Foresight) (t : Tid) : (key : Key) → Row key → Prop
  | .order _, (order : Order) => F.actsFor t order.userId
  | .payment _, (payment : Payment) => F.actsFor t payment.userId
  | .settlement _, (settlement : Settlement) => F.actsFor t settlement.userId
  | .refund _, (refund : Refund) => F.actsFor t refund.userId
  | .providerTransaction paymentId, _ => F.OwnPayment t paymentId
  | _, _ => True

/-- A new row is linked; a row is replaced by one of the same terms. -/
structure Writes (F : Foresight) (key : Key) (old : Option (Row key)) (new : Row key) : Prop where
  same : ∀ row ∈ old, OfSameTerms key row new
  linked : old = none → Linked F.offered F.known key new
  backed : (∀ row ∈ old, F.Backed key row) → F.Backed key new

/-- The program writes only the records of customers for whom it acts. -/
structure WritesBy (F : Foresight) (t : Tid) (key : Key) (old : Option (Row key)) (new : Row key)
    : Prop extends F.Writes key old new where
  changes : old.isSome → F.MayChange t key
  makes : old = none → F.MayMake t key new

/-- The rows and the trace are part of the end of the run. -/
structure Foretells (F : Foresight) (world : World) : Prop where
  passed : F.passed world.db.committed
  known : ∀ {key row}, world.db.committed.lookup key = some row → F.known key row
  sent : ∀ {orderId transactionHash}, .broadcast orderId transactionHash ∈ world.trace
    → F.sent orderId transactionHash
  succeeded : ∀ {transactionHash}, .statusAnswered transactionHash .SUCCESS ∈ world.trace
    → F.succeeded transactionHash
  reported : ∀ {name}, .paymentReported name ∈ world.trace → F.reported name

/-- What is known of a row as soon as it is read. -/
structure Read (F : Foresight) (key : Key) (row : Row key) : Prop where
  known : F.known key row
  backed : F.Backed key row

/-- Who may make a row may make one of the same terms. -/
theorem MayMake.ofSameTerms {key : Key} {row next : Row key} (makes : F.MayMake t key row)
    (same : OfSameTerms key row next)
    : F.MayMake t key next := by
  cases key with
  | order id =>
      have terms : Order.terms next = Order.terms row := same
      simp only [Order.terms, Order.mk.injEq] at terms
      exact (congrArg (F.actsFor t) terms.1).mpr makes
  | payment id =>
      have terms : Payment.terms next = Payment.terms row := same
      simp only [Payment.terms, Payment.mk.injEq] at terms
      exact (congrArg (F.actsFor t) terms.2.1).mpr makes
  | settlement id =>
      have terms : Settlement.terms next = Settlement.terms row := same
      simp only [Settlement.terms, Settlement.mk.injEq] at terms
      exact (congrArg (F.actsFor t) terms.2.1).mpr makes
  | refund id =>
      have request : Refund.SameRequest row next := same
      exact (congrArg (F.actsFor t) request.userId).mpr makes
  | providerTransaction paymentId => exact makes
  | _ => trivial

/-- Two writes are one, by cases on the kind of row. -/
theorem writes_transitive : Server.Replaces.Transitive F.Writes := by
  intro key old row next first second
  refine ⟨fun before found => (first.same before found).trans (second.same row rfl),
    fun new => ?_, fun held => second.backed ?_⟩
  · exact (first.linked new).ofSameTerms (second.same row rfl)
      fun key row found => ⟨row, found, OfSameTerms.refl key row⟩
  · intro before found
    obtain rfl := Option.some.inj found
    exact first.backed held

/-- A row is kept under its terms, or replaced by one of the same terms. -/
theorem kept_terms {rows rows' : AList Row} (evolved : Server.Evolves F.Writes rows rows')
    {key : Key} {row : Row key} (stored : rows.lookup key = some row)
    : ∃ later, rows'.lookup key = some later ∧ OfSameTerms key row later := by
  have kept : (rows'.lookup key).isSome := evolved.kept (by simp [stored])
  obtain ⟨later, found⟩ := Option.isSome_iff_exists.mp kept
  refine ⟨later, found, ?_⟩
  rcases evolved.rows found with same | written
  · obtain rfl := Option.some.inj (stored.symm.trans same)
    exact OfSameTerms.refl key row
  · exact written.same row stored

/-- Two writes of one call are one, by cases on the kind of row. -/
theorem writesBy_transitive : Server.Replaces.Transitive (F.WritesBy t) := by
  intro key old row next first second
  exact ⟨writes_transitive first.toWrites second.toWrites, first.changes,
    fun new => (first.makes new).ofSameTerms (second.same row rfl)⟩

/-- What was broadcast had been found fit to be paid out, in a safe deployment. -/
def Vouches (F : Foresight) : Event → Prop
  | .broadcast orderId _ => MaySend F.config ∧ Cleared F.config F.passed orderId
  | _ => True

def discipline (F : Foresight) : Discipline where
  rows := F.Writes
  promised _ _ _ := id
  transitive := writes_transitive
  writes := F.WritesBy
  inv world := F.Foretells world
    ∧ (∀ key row, world.db.committed.lookup key = some row → F.Backed key row)
    ∧ ∀ event ∈ world.trace, F.Vouches event
  allowed _ _ after := F.Foretells after

/-- The writes of a call and its own events. -/
def footprint (F : Foresight) (t : Tid) : Footprint :=
  ⟨F.WritesBy t, fun event => (∀ u ∈ event.owner, u = t) ∧ F.Vouches event⟩

/-- A step without writes and events foretells as before. -/
theorem Foretells.calm (foretells : F.Foretells world)
    (rows : after.db.committed = world.db.committed) (trace : after.trace = world.trace)
    : F.Foretells after :=
  ⟨rows ▸ foretells.passed, fun found => foretells.known (rows ▸ found),
    fun member => foretells.sent (trace ▸ member),
    fun member => foretells.succeeded (trace ▸ member),
    fun member => foretells.reported (trace ▸ member)⟩

/-- The invariant is about committed rows and events only. -/
theorem observable : Observable F.discipline.inv where
  calm world after rows trace holds :=
    ⟨holds.1.calm rows trace, fun key row found => holds.2.1 key row (rows ▸ found),
      fun event member => holds.2.2 event (trace ▸ member)⟩
  crashed t world holds := by
    refine ⟨⟨holds.1.passed, holds.1.known, fun member => holds.1.sent ?_,
      fun member => holds.1.succeeded ?_, fun member => holds.1.reported ?_⟩, holds.2.1,
      fun event member => ?_⟩
    · simpa using member
    · simpa using member
    · simpa using member
    · rcases List.mem_cons.mp member with rfl | before
      · trivial
      · exact holds.2.2 event before

/-- The writes and events of every call are admitted. -/
theorem admits (t : Tid) : F.discipline.Admits (F.footprint t) t where
  transitive := writesBy_transitive
  writes := rfl
  events _ own := own.1

/-- Broadcasts apart, a call's own events need no warrant. -/
theorem footprint_own {event : Event} (own : event.owner = some t)
    : (F.footprint t).events event := by
  refine ⟨fun u owner => Option.some.inj (owner.symm.trans own), ?_⟩
  cases event with
  | broadcast orderId transactionHash => simp [Event.owner] at own
  | _ => trivial

/-- Writes in the footprint keep the discipline. -/
theorem keeps (t : Tid) : F.discipline.Keeps (F.footprint t) t where
  observable := observable
  admits := admits t
  keeps world after inv effect allowed := by
    refine ⟨effect.rows.mono fun _ _ _ written => written.toWrites, allowed,
      fun key row shown => ?_, fun event member => ?_⟩
    · rcases effect.rows.rows shown with same | written
      · exact inv.2.1 key row same
      · exact written.backed fun old stored => inv.2.1 key old stored
    · rcases effect.trace.mem.mp member with before | new
      · exact inv.2.2 event before
      · exact new.1.2

/-- What is read outside any transaction. -/
theorem learns_findUnique {key : Key}
    : F.discipline.Learns t (findUnique none key) fun found => ∀ row ∈ found, F.Read key row :=
  Discipline.Learns.select fun _ inv row found => ⟨inv.1.known found, inv.2.1 key row found⟩

/-- A row that is returned was read. -/
theorem learns_findUniqueOrThrow {key : Key}
    : F.discipline.Learns t (findUniqueOrThrow none key) (F.Read key) := by
  refine Discipline.Learns.bind learns_findUnique fun found learnt => ?_
  cases found with
  | none => exact Discipline.Learns.throw _
  | some row => exact Discipline.Learns.pure (learnt row rfl)

/-- A payment that was read has been stored like that at some moment. -/
structure Stored (F : Foresight) (paymentId : Id) (payment : Payment) : Prop
    extends F.Read (.payment paymentId) payment where
  held : ∃ rows, F.passed rows ∧ rows.lookup (.payment paymentId) = some payment

/-- A stored payment that was reported has been received. -/
theorem Stored.received {paymentId : Id} {payment : Payment} (stored : F.Stored paymentId payment)
    (reported : F.Reported payment)
    : F.Received paymentId := by
  obtain ⟨rows, passed, found⟩ := stored.held
  exact Or.inr ⟨rows, passed, payment, found, reported⟩

/-- The order of a stored payment that was received is paid. -/
theorem Stored.paid {paymentId : Id} {payment : Payment} (stored : F.Stored paymentId payment)
    (received : F.Received paymentId)
    : F.Paid payment.orderId :=
  Or.inr ⟨paymentId, payment, stored.known, rfl, received⟩

/-- A committed payment is stored. -/
theorem stored_of_lookup {paymentId : Id} {payment : Payment} (inv : F.discipline.inv world)
    (found : world.db.committed.lookup (.payment paymentId) = some payment)
    : F.Stored paymentId payment :=
  ⟨⟨inv.1.known found, inv.2.1 _ _ found⟩, _, inv.1.passed, found⟩

/-- A payment that is read is stored. -/
theorem learns_payment {paymentId : Id}
    : F.discipline.Learns t (findUnique none (.payment paymentId)) fun found =>
        ∀ payment ∈ found, F.Stored paymentId payment :=
  Discipline.Learns.select fun _ inv _ found => stored_of_lookup inv found

/-- The payments of an order. -/
theorem learns_paymentsOf (orderId : Id)
    : F.discipline.Learns t (select none (paymentsOf orderId)) fun payments =>
        ∀ found ∈ payments, F.Stored found.1 found.2 ∧ found.2.orderId = orderId :=
  Discipline.Learns.select fun _ inv _ member =>
    (mem_paymentsOf.mp member).imp_left fun found => stored_of_lookup inv found

-----------------------------------------------------------------------------------------
-- Writes
-----------------------------------------------------------------------------------------

/-- A row that is there is replaced by one of the same terms. -/
theorem WritesBy.update {key : Key} {row new : Row key} (own : F.MayChange t key)
    (same : OfSameTerms key row new) (backed : F.Backed key row → F.Backed key new)
    : F.WritesBy t key (some row) new where
  same _ found := Option.some.inj found ▸ same
  linked := nofun
  backed held := backed (held row rfl)
  changes _ := own
  makes := nofun

/-- A row is inserted. -/
theorem WritesBy.insert {key : Key} {new : Row key} (own : F.MayMake t key new)
    (linked : Linked F.offered F.known key new) (backed : F.Backed key new)
    : F.WritesBy t key none new where
  same := nofun
  linked _ := linked
  backed _ := backed
  changes := nofun
  makes _ := own

/-- A pool, a treasury transaction or an event is nobody's own. -/
theorem WritesBy.common {key : Key} {old : Option (Row key)} {new : Row key}
    (own : F.MayChange t key) (makes : F.MayMake t key new)
    (same : ∀ row, OfSameTerms key row new) (linked : Linked F.offered F.known key new)
    (backed : F.Backed key new)
    : F.WritesBy t key old new :=
  ⟨⟨fun row _ => same row, fun _ => linked, fun _ => backed⟩, fun _ => own, fun _ => makes⟩

/-- An order takes a status that needs no reason. -/
theorem WritesBy.order {id : Id} {row : Order} {status : OrderStatus} (own : F.OwnOrder t id)
    (free : status ≠ .COMPLETED ∧ status ≠ .PAYMENT_CONFIRMED ∧ status ≠ .SETTLEMENT_PENDING)
    : F.WritesBy t (.order id) (some row) { row with status := status } := by
  refine .update own rfl fun _ => ⟨fun completed => absurd completed free.1, ?_⟩
  rintro (confirmed | pending)
  · exact absurd confirmed free.2.1
  · exact absurd pending free.2.2

/-- An order that has been paid is confirmed. -/
theorem WritesBy.paidOrder {id : Id} {row : Order} {status : OrderStatus} (own : F.OwnOrder t id)
    (paid : F.Paid id) (confirms : status = .PAYMENT_CONFIRMED ∨ status = .SETTLEMENT_PENDING)
    : F.WritesBy t (.order id) (some row) { row with status := status } := by
  refine .update own rfl fun _ => ⟨fun completed => ?_, fun _ => paid⟩
  have completed : status = .COMPLETED := completed
  rcases confirms with rfl | rfl
  · simp at completed
  · simp at completed

theorem WritesBy.payment {id : Id} {row : Payment} {providerPaymentId : Option String}
    {status : PaymentStatus} (own : F.OwnPayment t id)
    (received : status = .SUCCEEDED → F.Received id)
    : F.WritesBy t (.payment id) (some row)
        { row with providerPaymentId := providerPaymentId, status := status } :=
  .update own rfl fun _ => received

theorem WritesBy.pool {id : Id} {old : Option LiquidityPool} {new : LiquidityPool}
    : F.WritesBy t (.liquidityPool id) old new :=
  .common trivial trivial (fun _ => trivial) trivial trivial

theorem WritesBy.treasury {id : Id} {old : Option TreasuryTransaction} {new : TreasuryTransaction}
    : F.WritesBy t (.treasuryTransaction id) old new :=
  .common trivial trivial (fun _ => trivial) trivial trivial

theorem WritesBy.webhookEvent {provider eventId : String} {old : Option WebhookEvent}
    {new : WebhookEvent}
    : F.WritesBy t (.webhookEvent provider eventId) old new :=
  .common trivial trivial (fun _ => trivial) trivial trivial

/-- A reservation is made with its order, and belongs to its customer from then on. -/
theorem WritesBy.reservation {orderId : Id} {old : Option LiquidityReservation}
    {new : LiquidityReservation} (own : old.isSome → F.OwnOrder t orderId)
    (backed : F.Backed (.liquidityReservation orderId) new)
    : F.WritesBy t (.liquidityReservation orderId) old new :=
  ⟨⟨fun _ _ => trivial, fun _ => trivial, fun _ => backed⟩, own, fun _ => trivial⟩

/-- A program that acts for all customers. -/
class System (F : Foresight) (t : Tid) : Prop where
  all : ∀ user, F.actsFor t user

variable [F.System t]

theorem ownOrder (id : Id) : F.OwnOrder t id := Or.inl System.all

theorem ownPayment (id : Id) : F.OwnPayment t id := Or.inl System.all

/-- An order whose settlement has landed is COMPLETED. -/
theorem WritesBy.completed {id : Id} {row : Order} (landed : F.Landed id)
    : F.WritesBy t (.order id) (some row) { row with status := .COMPLETED } :=
  .update (ownOrder id) rfl fun _ => ⟨fun _ => landed, by simp⟩

/-- A settlement moves to a status that is not COMPLETED and keeps its transaction. -/
theorem WritesBy.settlement {id : Id} {row new : Settlement} (terms : new.terms = row.terms)
    (kept : new.stellarTransactionHash = row.stellarTransactionHash)
    (landed : new.status = .COMPLETED → F.Landed id)
    : F.WritesBy t (.settlement id) (some row) new := by
  refine .update (ownOrder id) terms fun held => ⟨fun transactionHash stored => ?_, landed⟩
  exact held.1 transactionHash (kept ▸ stored)

end Foresight

end LuminaRail
