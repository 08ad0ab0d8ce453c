import LuminaRail.Model.LockedRows
import LuminaRail.Workers.Footprints

/-! Whether orders follow their state machine. Of all that write the status of an order only
`createRefund` and the payment reconciliation lock the row. Five others look at the status before
they write one, and the rest write theirs over whatever status the order has by then.
-/

namespace LuminaRail

open Concurrency Database Service

/-- The calls that write the status of an order. -/
inductive OrderCall
  | creating (userId : Id) (dto : CreateOrderDTO)
  | paying (userId : Id) (input : CreatePaymentInput) (idempotencyKey : Option String)
  | verifying (paymentId userId : Id) (isAdmin : Bool) (params : VerifyParams)
  | webhook (providerName : String) (request : WebhookRequest)
  | attachingWallet (orderId userId : Id) (walletAddress : String) (isAdmin : Bool)
  | cleaning (batchSize : Nat)
  | reconcilingPayments (batchSize minPendingAgeMinutes : Nat)
  | reconcilingSettlements (batchSize maxStaleAgeHours : Nat)
  | completing (orderId : Id) (ledger : Nat)
  | requestingRefund (userId : Id) (input : CreateRefundInput) (isAdmin : Bool)
    (idempotencyKeyHeader : Option String)
  | refunding (refundId : Id)

namespace OrderCall

def thread (crypto : Crypto) (config : Config) : OrderCall → Program World Input Unit
  | .creating userId dto => (OrderService.createOrder userId dto).thread
  | .paying userId input idempotencyKey =>
      (PaymentService.createPayment config userId input idempotencyKey).thread
  | .verifying paymentId userId isAdmin params =>
      (PaymentService.verifyPayment config paymentId userId isAdmin params).thread
  | .webhook providerName request =>
      (WebhookService.processWebhook crypto config providerName request).thread
  | .attachingWallet orderId userId walletAddress isAdmin =>
      (OrderService.updateOrderWallet orderId userId walletAddress isAdmin).thread
  | .cleaning batchSize =>
      (ReservationCleanupWorker.processExpiredReservations config batchSize).thread
  | .reconcilingPayments batchSize minPendingAgeMinutes =>
      (ReconciliationDaemon.processPaymentReconciliation config batchSize
        minPendingAgeMinutes).thread
  | .reconcilingSettlements batchSize maxStaleAgeHours =>
      (ReconciliationDaemon.processReconciliation config batchSize maxStaleAgeHours).thread
  | .completing orderId ledger => (SettlementService.markCompleted orderId ledger).thread
  | .requestingRefund userId input isAdmin idempotencyKeyHeader =>
      (RefundService.createRefund userId input isAdmin idempotencyKeyHeader).thread
  | .refunding refundId => (RefundService.executeRefund config refundId).thread

/-- What a call may write over the status of an order. -/
def MovesOrder : OrderCall → OrderStatus → OrderStatus → Prop
  | .creating _ _, _, _ => False
  | .paying _ _ _, _, new => new = .AWAITING_PAYMENT
  | .verifying _ _ _ _, _, new | .webhook _ _, _, new =>
      new = .PAYMENT_CONFIRMED ∨ new = .SETTLEMENT_PENDING ∨ new = .FAILED
  | .attachingWallet _ _ _ _, _, _ => True
  | .cleaning _, _, new => new = .EXPIRED
  | .reconcilingPayments _ _, old, new =>
      (new = .PAYMENT_CONFIRMED ∨ new = .FAILED) ∧ ReconciliationDaemon.reconcilable old
  | .reconcilingSettlements _ _, _, new => new = .COMPLETED ∨ new = .FAILED
  | .completing _ _, _, new => new = .COMPLETED
  | .requestingRefund _ _ _ _, old, new =>
      new = .REFUND_PENDING ∧ OrderStateMachine.canTransition old .REFUND_PENDING
  | .refunding _, _, new => new = .REFUNDED ∨ new = .REFUND_FAILED

def Writes (call : OrderCall) : Server.Replaces Row
  | .order _, old, new => ∀ row ∈ old, call.MovesOrder row.status new.status
  | _, _, _ => True

/-- The calls that look at the status of an order before they write it, without locking it. -/
def looksFirst : OrderCall → Bool
  | .verifying _ _ _ _ | .webhook _ _ | .attachingWallet _ _ _ _ | .cleaning _ | .refunding _ =>
      true
  | _ => false

/-- What a call that has looked at the status of an order may choose to write over it. -/
def Chooses : OrderCall → OrderStatus → OrderStatus → Prop
  | .verifying _ _ _ _, old, new | .webhook _ _, old, new =>
      (old.ignoresSuccess = false ∧ (new = .PAYMENT_CONFIRMED ∨ new = .SETTLEMENT_PENDING))
        ∨ (old.ignoresFailure = false ∧ new = .FAILED)
  | .attachingWallet _ _ _ _, old, new =>
      new = old ∨ (new = .SETTLEMENT_PENDING ∧ old ≠ .COMPLETED ∧ old ≠ .SETTLEMENT_COMPLETED)
  | .cleaning _, old, new => ReservationCleanupWorker.expires old ∧ new = .EXPIRED
  | .refunding _, old, new => OrderStateMachine.canTransition old new
  | _, _, _ => False

/-- An order that waits for its settlement to be completed. -/
def beingSettled (status : OrderStatus) : Bool :=
  status = .SETTLEMENT_PENDING || status = .SETTLEMENT_COMPLETED

/-- An order that has been refunded or is to be. -/
def beingRefunded (status : OrderStatus) : Bool :=
  status = .REFUND_PENDING || status = .REFUNDED || status = .REFUND_FAILED

/-- The orders that are in the way of a call although nothing in it looks for them. -/
def overlooks : OrderCall → OrderStatus → OrderStatus → Bool
  | .paying _ _ _, old, _ => old ≠ .CREATED && old ≠ .AWAITING_PAYMENT
  | .verifying _ _ _ _, old, _ | .webhook _ _, old, _ =>
      old = .CREATED || old = .FAILED || old = .EXPIRED || beingRefunded old
  | .attachingWallet _ _ _ _, old, _ =>
      old = .CREATED || old = .FAILED || old = .EXPIRED || old = .CANCELLED || beingRefunded old
  | .reconcilingPayments _ _, old, _ => old = .CREATED
  | .reconcilingSettlements _ _, old, new =>
      if new = .COMPLETED then beingSettled old = false
      else old = .CREATED || old = .COMPLETED || old = .SETTLEMENT_COMPLETED || old = .EXPIRED
        || old = .CANCELLED || beingRefunded old
  | .completing _ _, old, _ => beingSettled old = false
  | .creating _ _, _, _ | .cleaning _, _, _ | .requestingRefund _ _ _ _, _, _ | .refunding _, _, _ =>
      false

/-- The orders that a call is meant to lock are there. -/
def locksOrder : OrderCall → World → Prop
  | .requestingRefund _ input _ _, world => Exists (.order input.orderId) world
  | .reconcilingPayments _ _, world =>
      ∀ id payment, world.db.committed.lookup (.payment id) = some payment
        → Exists (.order payment.orderId) world
  | _, _ => True

end OrderCall

open OrderCall

/-- A call does not move orders that it overlooks, and those that it has looked at before are
still as it has seen them.
-/
def FindsInTime (calls : Tid → OrderCall) (t : Tid) (before after : World) : Prop :=
  (calls t).locksOrder before
    ∧ ∀ id old new, before.db.committed.lookup (.order id) = some old
      → after.db.committed.lookup (.order id) = some new → old.status ≠ new.status
      → (calls t).overlooks old.status new.status = false
        ∧ ((calls t).looksFirst → .orderChecked t id old.status new.status ∈ before.trace)

/-- A stored order changes its status as the state machine allows. -/
def OrdersFollow : Server.Replaces Row
  | .order _, old, new => ∀ row ∈ old, OrderStateMachine.canTransition row.status new.status
  | _, _, _ => True

/-- Two moves of a call are one, by cases on the call. -/
theorem OrderCall.moves_trans (call : OrderCall) {a b c : OrderStatus}
    (first : call.MovesOrder a b) (second : call.MovesOrder b c)
    : call.MovesOrder a c := by
  cases call with
  | requestingRefund | reconcilingPayments => exact ⟨second.1, first.2⟩
  | _ => exact second

/-- Two writes of a call are one, by cases on the kind of row. -/
theorem OrderCall.writes_transitive (call : OrderCall) : call.Writes.Transitive := by
  intro key old row next first second
  cases key with
  | order id => exact fun before found => call.moves_trans (first before found) (second row rfl)
  | _ => trivial

/-- What a call looks for and what it overlooks are all the orders that may not be moved. -/
theorem OrderCall.follows (call : OrderCall) {old new : OrderStatus}
    (moves : call.MovesOrder old new) (changed : old ≠ new)
    (handled : call.overlooks old new = false) (chosen : call.looksFirst → call.Chooses old new)
    : OrderStateMachine.canTransition old new := by
  cases call with
  | creating => exact moves.elim
  | requestingRefund => exact moves.1 ▸ moves.2
  | refunding => exact chosen rfl
  | cleaning =>
      obtain ⟨expires, rfl⟩ := chosen rfl
      cases old <;> simp_all [ReservationCleanupWorker.expires] <;> rfl
  | attachingWallet =>
      obtain same | ⟨rfl, incomplete, unsettled⟩ := chosen rfl
      · exact absurd same.symm changed
      · clear chosen
        cases old <;> simp_all [overlooks, beingRefunded] <;> rfl
  | verifying | webhook =>
      obtain ⟨lets, rfl | rfl⟩ | ⟨lets, rfl⟩ := chosen rfl <;> cases old <;>
        simp_all [overlooks, beingRefunded, OrderStatus.ignoresSuccess,
          OrderStatus.ignoresFailure] <;> rfl
  | paying | completing =>
      obtain rfl := moves
      cases old <;> simp_all [overlooks, beingSettled] <;> rfl
  | reconcilingPayments =>
      obtain ⟨rfl | rfl, reconcilable⟩ := moves <;> cases old <;>
        simp_all [overlooks, ReconciliationDaemon.reconcilable] <;> rfl
  | reconcilingSettlements =>
      obtain rfl | rfl := moves <;> cases old <;>
        simp_all [overlooks, beingSettled, beingRefunded] <;> rfl

-----------------------------------------------------------------------------------------
-- Calls that are known by their footprint
-----------------------------------------------------------------------------------------

/-- What the calls have looked at is as they choose by it. -/
def Looked (calls : Tid → OrderCall) (world : World) : Prop :=
  ∀ u id status next, .orderChecked u id status next ∈ world.trace
    → (calls u).Chooses status next

/-- Any number of calls that write orders. -/
def orderDiscipline (calls : Tid → OrderCall) : Discipline where
  rows _ _ _ := True
  changes := OrdersFollow
  promised _ _ _ _ := trivial
  transitive _ _ _ _ _ _ := trivial
  writes t := (calls t).Writes
  inv := Looked calls
  allowed := FindsInTime calls

/-- A call and its own events. -/
def OrderCall.footprint (call : OrderCall) (t : Tid) : Footprint where
  writes := call.Writes
  events event := (∀ u ∈ event.owner, u = t)
    ∧ ∀ u id status next, event = .orderChecked u id status next → call.Chooses status next

/-- What a call does besides moving orders. -/
def apart (t : Tid) : Footprint where
  writes key _ _ := ∀ id, key ≠ .order id
  events event := (∀ u ∈ event.owner, u = t)
    ∧ ∀ u id status next, event ≠ .orderChecked u id status next

/-- A call that leaves orders alone reports its own events. -/
theorem reports_apart (t : Tid) : (apart t).Reports t where
  reported _ := by simp [apart, Event.owner]
  verified _ _ _ _ := by simp [apart, Event.owner]
  answered _ _ _ _ := by simp [apart, Event.owner]

section

variable {calls : Tid → OrderCall} {call : OrderCall} {t : Tid} {world after : World}

/-- Every call reports its own events. -/
theorem OrderCall.reports : (call.footprint t).Reports t where
  reported _ := by simp [footprint, Event.owner]
  verified _ _ _ _ := by simp [footprint, Event.owner]
  answered _ _ _ _ := by simp [footprint, Event.owner]

/-- Every call may change reservations. -/
theorem OrderCall.allowsLiquidity : (call.footprint t).AllowsLiquidity :=
  ⟨fun _ _ _ => trivial, fun _ _ _ => trivial, fun _ _ _ => trivial⟩

/-- Every call may write the orders that it moves. -/
theorem OrderCall.allowsOrders : (call.footprint t).AllowsOrders where
  toAllowsLiquidity := allowsLiquidity
  quote _ _ _ := trivial
  order _ _ := nofun
  idempotencyKey _ _ := trivial

/-- A call that moves orders to AWAITING_PAYMENT may create payments. -/
theorem OrderCall.allowsCreation (moves : ∀ old, call.MovesOrder old .AWAITING_PAYMENT)
    : (call.footprint t).AllowsCreation t where
  requested _ := by simp [footprint, Event.owner]
  stored _ _ _ := trivial
  reference _ _ := trivial
  idempotencyKey _ _ := trivial
  answered _ _ _ _ _ := trivial
  record _ _ := trivial
  recordId _ _ _ := trivial
  order _ _ := fun _ _ => moves _

/-- A check by which a call chooses what it may choose. -/
theorem OrderCall.checked {id : Id} {status next : OrderStatus}
    (chooses : call.Chooses status next)
    : (call.footprint t).events (.orderChecked t id status next) := by
  refine ⟨by simp [Event.owner], fun u other old new same => ?_⟩
  obtain ⟨rfl, rfl, rfl, rfl⟩ := Event.orderChecked.inj same
  exact chooses

/-- A call that chooses by the state machine may bring the news of a payment. -/
theorem OrderCall.checksNews
    (succeeds : ∀ old new, old.ignoresSuccess = false
      → new = .PAYMENT_CONFIRMED ∨ new = .SETTLEMENT_PENDING → call.Chooses old new)
    (fails : ∀ old, old.ignoresFailure = false → call.Chooses old .FAILED)
    : (call.footprint t).ChecksNews t where
  succeeded orderId order lets := by
    refine checked (succeeds _ _ lets ?_)
    unfold Order.paidStatus
    split
    · exact Or.inl rfl
    · exact Or.inr rfl
  failed orderId status lets := checked (fails _ lets)

/-- A wallet leaves the status as it was read, or moves an order on that is not completed. -/
theorem chooses_walletStatus {orderId userId : Id} {walletAddress : String} {isAdmin : Bool}
    (order : Order) (payments : List (Id × Payment))
    : (OrderCall.attachingWallet orderId userId walletAddress isAdmin).Chooses order.status
        (OrderService.walletStatus order payments) := by
  unfold OrderService.walletStatus
  split
  · exact Or.inl rfl
  · rename_i going
    split
    · exact Or.inr ⟨rfl, not_or.mp going⟩
    · exact Or.inl rfl

/-- A call that moves orders as a payment does may bring its news. -/
theorem OrderCall.allowsNews
    (moves : ∀ old new, new = .PAYMENT_CONFIRMED ∨ new = .SETTLEMENT_PENDING ∨ new = .FAILED
      → call.MovesOrder old new)
    (checks : (call.footprint t).ChecksNews t)
    : (call.footprint t).AllowsNews t where
  toAllowsLiquidity := allowsLiquidity
  reports := reports
  checks := checks
  transition _ _ _ _ _ _ := trivial
  record _ _ _ := trivial
  order _ _ _ reached := fun _ _ => moves _ _ reached
  event _ _ _ _ := trivial
  claimed _ _ := by simp [footprint, Event.owner]

/-- A call that completes orders may settle them. -/
theorem OrderCall.allowsSettlements (moves : ∀ old, call.MovesOrder old .COMPLETED) (orderId : Id)
    : (call.footprint t).AllowsSettlements t orderId where
  toAllowsLiquidity := allowsLiquidity
  checked _ := by simp [footprint, Event.owner]
  settlement _ _ _ _ := trivial
  completed _ := fun _ _ => moves _

/-- A call that moves orders as a refund does may settle refunds. -/
theorem OrderCall.allowsRefund
    (moves : ∀ old new, new = .REFUNDED ∨ new = .REFUND_FAILED → call.MovesOrder old new)
    (chooses : ∀ old new, OrderStateMachine.canTransition old new → call.Chooses old new)
    : (call.footprint t).AllowsRefund t where
  toAllowsLiquidity := allowsLiquidity
  refund _ _ _ _ _ := trivial
  payment _ _ _ := trivial
  order _ _ _ reached := fun _ _ => moves _ _ reached
  checked _ _ _ legal := checked (chooses _ _ legal)

/-- Every call may request and execute refunds. -/
theorem OrderCall.refunds : (call.footprint t).Refunds t where
  claimed _ _ := by simp [footprint, Event.owner]
  requested _ _ _ := by simp [footprint, Event.owner]
  answered _ _ := by simp [footprint, Event.owner]

/-- The invariant is about committed rows and events only. -/
theorem order_observable : Observable (orderDiscipline calls).inv where
  calm _ _ _ trace holds := by
    intro u id status next happened
    exact holds u id status next (trace ▸ happened)
  crashed t world holds := by
    intro u id status next happened
    exact holds u id status next (List.mem_of_ne_of_mem (by simp) happened)

/-- The writes and events of every call are admitted. -/
theorem order_admits (t : Tid) : (orderDiscipline calls).Admits ((calls t).footprint t) t where
  transitive := (calls t).writes_transitive
  writes := rfl
  events _ own := own.1

/-- What a call that finds its orders in time does to them follows the state machine. -/
theorem order_keeps (world after : World) (looked : (orderDiscipline calls).inv world)
    (effect : Effect ((calls t).footprint t) t world after)
    (found : FindsInTime calls t world after)
    : Server.Evolves OrdersFollow world.db.committed after.db.committed
      ∧ (orderDiscipline calls).inv after := by
  refine ⟨⟨fun {key row} shown => ?_, effect.rows.kept⟩, fun u id status next happened => ?_⟩
  · refine (effect.rows.rows shown).imp_right fun moved => ?_
    cases key with
    | order id =>
        intro old stored
        by_cases same : old.status = row.status
        · simp [OrderStateMachine.canTransition, same]
        obtain ⟨handled, seen⟩ := found.2 id old row stored shown same
        exact (calls t).follows (moved old stored) same handled fun looks =>
          looked t id _ _ (seen looks)
    | _ => trivial
  · rcases effect.trace.mem.mp happened with before | ⟨⟨own, chooses⟩, _⟩
    · exact looked u id status next before
    · obtain rfl := own u rfl
      exact chooses u id status next rfl

/-- What is known of a call by its footprint. -/
theorem spec_order {α : Type} {service : Service α} (same : calls t = call)
    (within : Within (Step (call.footprint t) t) t service)
    : (orderDiscipline calls).protocol.Spec t (fun _ => True) service (fun _ _ => True)
        fun _ _ => True := by
  subst same
  exact (order_admits t).spec order_keeps within

section

variable {x : TxId} {order : Order} {orderId : Id} (own : x.owner = t)
include own

/-- An order stays as it was read under its lock. -/
theorem spec_apart {α : Type} {service : Service α} {Q : α → Prop}
    (within : Within (Step (apart t) t) t service Q)
    : (orderDiscipline calls).protocol.Spec t
        (Begun x (Holding x (.order orderId) (some order))) service
        (fun value world => Q value
          ∧ Begun x (Holding x (.order orderId) (some order)) world) fun _ _ => True := by
  refine Discipline.spec_holding own (order_admits t) order_keeps ?_ ?_ ?_ within
  · exact fun _ _ others => others orderId rfl
  · intro key _ _ others
    cases key with
    | order id => exact absurd rfl (others id)
    | _ => trivial
  · exact fun event mine =>
      ⟨mine.1, fun u id status next same => absurd same (mine.2 u id status next)⟩

/-- An order is moved from what was read under its lock. -/
theorem spec_moveLocked {data : Order → Order}
    (moves : (calls t).MovesOrder order.status (data order).status)
    : (orderDiscipline calls).protocol.Spec t
        (Begun x (Holding x (.order orderId) (some order)))
        (update (some x) (.order orderId) data) (fun _ _ => True) fun _ _ => True := by
  refine Discipline.spec_updateHeld order_observable own (order_admits t).transitive ?_
  intro row read
  obtain rfl := Option.some.inj read
  exact moves

end

-----------------------------------------------------------------------------------------
-- Requesting a refund
-----------------------------------------------------------------------------------------

section

variable {x : TxId} {order : Order} {userId : Id} {input : CreateRefundInput} {isAdmin : Bool}
  {header : Option String} (own : x.owner = t)
  (same : calls t = .requestingRefund userId input isAdmin header)
include own same

/-- A request moves the order that its transaction holds. -/
theorem spec_insertRefund (paymentId : Id) (payment : Payment) (generatedKey : String)
    : (orderDiscipline calls).protocol.Spec t
        (Begun x (Holding x (.order input.orderId) (some order)))
        (RefundService.insertRefund x userId input order paymentId payment generatedKey)
        (fun _ _ => True) fun _ _ => True := by
  refine Protocol.Spec.bind (spec_apart own
    (within_select (Q := fun _ => True) fun _ => trivial)) fun existing => ?_
  refine Protocol.Spec.assume fun _ => ?_
  refine Protocol.Spec.bind (spec_apart own within_throwIf) fun _ => ?_
  refine Protocol.Spec.assume fun _ => ?_
  refine Protocol.Spec.bind (spec_apart own (within_requestedAmount input _))
    fun refundAmount => ?_
  refine Protocol.Spec.assume fun _ => ?_
  refine Protocol.Spec.bind (spec_apart own within_throwIf) fun _ => ?_
  refine Protocol.Spec.assume fun _ => ?_
  refine Protocol.Spec.bind (spec_apart own within_throwIf) fun _ => ?_
  refine Protocol.Spec.assume fun _ => ?_
  refine Protocol.Spec.bind (spec_apart own within_throwIf) fun _ => ?_
  refine Protocol.Spec.assume fun valid => ?_
  refine Protocol.Spec.bind (Q := fun _ _ => True) (spec_moveLocked own ?_) fun _ => ?_
  · rw [same]
    exact ⟨rfl, by simpa using valid⟩
  · refine spec_order rfl (Within.bind within_randomText fun id _ => ?_)
    refine Within.bind within_now fun time _ => ?_
    refine Within.bind (Q := fun _ => True)
      (within_create (by simpa using own) (fun entry member => ?_) trivial) fun _ _ => ?_
    · simp only [List.mem_cons, List.not_mem_nil, or_false] at member
      rcases member with rfl | rfl <;> trivial
    · exact Within.pure trivial

/-- The order is read under its lock, and its transition is checked against what was read. -/
theorem spec_createRefundInTx (idempotencyKey : Option String)
    : (orderDiscipline calls).protocol.Spec t
        (fun world => Begun x (fun writes _ => writes = []) world
          ∧ Exists (.order input.orderId) world)
        (RefundService.createRefundInTx x userId input isAdmin idempotencyKey)
        (fun _ _ => True) fun _ _ => True := by
  refine Protocol.Spec.bind (Discipline.spec_lock order_observable own) fun _ => ?_
  refine Protocol.Spec.bind (Discipline.spec_readLocked order_observable own) fun found => ?_
  cases found with
  | none => exact Protocol.Spec.throw _ fun _ _ _ => trivial
  | some order =>
      refine Protocol.Spec.bind (spec_apart own
        (within_select (Q := fun _ => True) fun _ => trivial)) fun payments => ?_
      refine Protocol.Spec.assume fun _ => ?_
      refine Protocol.Spec.bind (spec_apart own within_findUnique) fun settlement => ?_
      refine Protocol.Spec.assume fun _ => ?_
      refine Protocol.Spec.bind (spec_apart own within_throwIf) fun _ => ?_
      refine Protocol.Spec.assume fun _ => ?_
      refine Protocol.Spec.bind (spec_apart own within_throwIf) fun _ => ?_
      refine Protocol.Spec.assume fun _ => ?_
      refine Protocol.Spec.bind (spec_apart own within_throwIf) fun _ => ?_
      refine Protocol.Spec.assume fun _ => ?_
      dsimp only
      split
      · exact Protocol.Spec.throw _ fun _ _ _ => trivial
      split
      · exact Protocol.Spec.throw _ fun _ _ _ => trivial
      rename_i paymentId payment _
      refine Protocol.Spec.bind (spec_apart own within_now) fun time => ?_
      refine Protocol.Spec.assume fun _ => ?_
      refine Protocol.Spec.bind (spec_apart own
        (within_select (Q := fun _ => True) fun _ => trivial)) fun existing => ?_
      refine Protocol.Spec.assume fun _ => ?_
      cases existing with
      | none => exact spec_insertRefund own same paymentId payment _
      | some existingRefund =>
          refine Protocol.Spec.bind (spec_throwIf fun _ _ _ => trivial) fun _ => ?_
          exact Protocol.Spec.pure _ fun _ _ _ => trivial

omit own in
/-- A request for a refund locks its order before it moves it. -/
theorem spec_createRefund
    : (orderDiscipline calls).protocol.Spec t (fun _ => True)
        (RefundService.createRefund userId input isAdmin header) (fun _ _ => True)
        fun _ _ => True := by
  refine Discipline.spec_transaction (L := Exists (.order input.orderId)) order_observable
    (order_admits t) order_keeps (Protocol.Stable.const True) ?_ fun x own =>
      spec_createRefundInTx own same _
  intro world after _ found committed
  have there : (calls t).locksOrder world := found.1
  rw [same] at there
  rw [Exists, committed]
  exact there

end

-----------------------------------------------------------------------------------------
-- Reconciling payments
-----------------------------------------------------------------------------------------

section

open ReconciliationDaemon

variable {x : TxId} {order : Order} {orderId : Id} {batchSize minPendingAgeMinutes : Nat}
  (own : x.owner = t) (same : calls t = .reconcilingPayments batchSize minPendingAgeMinutes)
  (payment : Option (Id × Payment))
include own same

/-- A reconciliation fails only an order that it holds and that may be reconciled. -/
theorem spec_markPaymentFailed (moved : reconcilable order.status)
    : (orderDiscipline calls).protocol.Spec t
        (Begun x (Holding x (.order orderId) (some order)))
        (markPaymentFailed x orderId payment) (fun _ _ => True) fun _ _ => True := by
  refine Protocol.Spec.bind (Q := fun _ _ => True) (spec_moveLocked own ?_) fun _ => ?_
  · rw [same]
    exact ⟨Or.inr rfl, moved⟩
  · refine spec_order same (Within.bind (within_updatePayment own fun _ _ _ => trivial) fun _ _ => ?_)
    exact Within.bind (within_releaseReservationInTx allowsLiquidity own orderId _) fun _ _ =>
      Within.pure trivial

/-- A reconciliation confirms only an order that it holds and that may be reconciled. -/
theorem spec_confirmPayment (config : Config) (moved : reconcilable order.status)
    (paymentReference : String) (response : NormalizedPaymentResponse)
    : (orderDiscipline calls).protocol.Spec t
        (Begun x (Holding x (.order orderId) (some order)))
        (confirmPayment config x orderId order payment paymentReference response)
        (fun _ _ => True) fun _ _ => True := by
  refine Protocol.Spec.bind (spec_apart own (within_updatePayment own fun _ _ _ => by
    exact nofun)) fun _ => ?_
  refine Protocol.Spec.assume fun _ => ?_
  refine Protocol.Spec.bind (Q := fun _ _ => True) (spec_moveLocked own ?_) fun _ => ?_
  · rw [same]
    exact ⟨Or.inl rfl, moved⟩
  · refine spec_order same (Within.bind (within_confirmReservationInTx allowsLiquidity own orderId)
      fun _ _ => ?_)
    refine Within.bind within_findUnique fun settlement _ => ?_
    cases settlement with
    | some _ => exact Within.pure trivial
    | none =>
        refine Within.bind within_now fun time _ => Within.bind within_randomText fun suffix _ => ?_
        refine Within.bind (Q := fun _ => True)
          (within_create (by simpa using own) (fun entry member => ?_) trivial) fun _ _ => ?_
        · simp only [List.mem_cons, List.not_mem_nil, or_false] at member
          rcases member with rfl | rfl <;> trivial
        · exact Within.pure trivial

/-- A verdict moves the order that the transaction holds, by cases on the answer. -/
theorem spec_applyVerdict (config : Config) (moved : reconcilable order.status)
    (paymentReference : String) (response : NormalizedPaymentResponse)
    : (orderDiscipline calls).protocol.Spec t
        (Begun x (Holding x (.order orderId) (some order)))
        (applyVerdict config x orderId order payment paymentReference response)
        (fun _ _ => True) fun _ _ => True := by
  unfold applyVerdict
  cases response.status with
  | SUCCEEDED =>
      dsimp only
      split
      · exact spec_confirmPayment own same payment config moved paymentReference response
      · exact spec_markPaymentFailed own same payment moved
  | FAILED => exact spec_markPaymentFailed own same payment moved
  | _ => exact Protocol.Spec.pure _ fun _ _ _ => trivial

omit payment

/-- The order is read under its lock, and it is moved from the status that was read. -/
theorem spec_reconcileInTx (config : Config)
    : (orderDiscipline calls).protocol.Spec t
        (fun world => Begun x (fun writes _ => writes = []) world
          ∧ Exists (.order orderId) world)
        (reconcileInTx config x orderId) (fun _ _ => True) fun _ _ => True := by
  refine Protocol.Spec.bind (Discipline.spec_lock order_observable own) fun _ => ?_
  refine Protocol.Spec.bind (Discipline.spec_readLocked order_observable own) fun found => ?_
  cases found with
  | none => exact Protocol.Spec.pure _ fun _ _ _ => trivial
  | some order =>
      refine Protocol.Spec.bind (spec_apart own
        (within_findFirst (R := fun _ => True) (by simp)).forget) fun payment => ?_
      refine Protocol.Spec.assume fun _ => ?_
      refine Protocol.Spec.bind (spec_apart own
        (within_findFirst (R := fun _ => True) (by simp)).forget) fun refund => ?_
      refine Protocol.Spec.assume fun _ => ?_
      refine Protocol.Spec.bind (spec_apart own (within_emit (by simp [apart, Event.owner])))
        fun _ => ?_
      refine Protocol.Spec.assume fun _ => ?_
      dsimp only
      split
      · exact Protocol.Spec.pure _ fun _ _ _ => trivial
      split
      · exact Protocol.Spec.pure _ fun _ _ _ => trivial
      rename_i moved
      split
      · exact Protocol.Spec.pure _ fun _ _ _ => trivial
      refine Protocol.Spec.bind (spec_apart own within_findUnique) fun reservation => ?_
      refine Protocol.Spec.assume fun _ => ?_
      split
      · exact Protocol.Spec.pure _ fun _ _ _ => trivial
      refine Protocol.Spec.bind (spec_apart own
        (within_askProvider (reports_apart t) config _ _ order)) fun response => ?_
      refine Protocol.Spec.assume fun _ => ?_
      cases response with
      | none => exact Protocol.Spec.pure _ fun _ _ _ => trivial
      | some response =>
          exact spec_applyVerdict own same payment config (by simpa using moved) _ response

omit own in
/-- A reconciliation locks the order before it reads it. -/
theorem spec_reconcileSinglePaymentOrder (config : Config)
    : (orderDiscipline calls).protocol.Spec t (Exists (.order orderId))
        (reconcileSinglePaymentOrder config orderId) (fun _ _ => True) fun _ _ => True := by
  refine Discipline.spec_transaction (L := Exists (.order orderId)) order_observable
    (order_admits t) order_keeps (Discipline.stable_exists _) ?_ fun x own =>
      spec_reconcileInTx own same config
  intro world after found _ committed
  rw [Exists, committed]
  exact found

omit own in
/-- Each order of a sweep is there, as it was when its payment was found. -/
theorem spec_paymentSweep (config : Config)
    : (orderDiscipline calls).protocol.Spec t (fun _ => True)
        (paymentSweep config batchSize minPendingAgeMinutes) (fun _ _ => True)
        fun _ _ => True := by
  refine Protocol.Spec.bind (spec_order rfl within_now) fun time => ?_
  refine Protocol.Spec.bind (Q := fun pending world => ∀ found ∈ pending,
    Exists (.order found.2.orderId) world) ?_ fun pending => ?_
  · refine Discipline.spec_select (Protocol.Stable.const True)
      (fun world _ _ allowed found member => ?_) fun _ _ _ => trivial
    have there : (calls t).locksOrder world := allowed.1
    rw [same] at there
    exact there _ _ (mem_allPayments.mp (List.mem_filter.mp (mem_of_mem_firstBy member)).1)
  · refine (Protocol.Spec.forM (E := fun _ _ => True) fun found member => ?_).forget
    have single : (orderDiscipline calls).protocol.Spec t (Exists (.order found.2.orderId))
        (reconcileSinglePaymentOrder config found.2.orderId) (fun _ _ => True) fun _ _ => True :=
      spec_reconcileSinglePaymentOrder same config
    have reconciled := Protocol.Spec.frame single
      (R := fun world => ∀ found ∈ pending, Exists (.order found.2.orderId) world)
      (fun relied there found member => relied.2.1.kept (there found member))
      fun guaranteed there found member => guaranteed.2.1.kept (there found member)
    refine Protocol.Spec.tryCatch (Protocol.Spec.bind (Protocol.Spec.pre reconciled
      fun _ _ there => ⟨there found member, there⟩) fun _ => ?_) fun _ => ?_
    · exact Protocol.Spec.pure _ fun _ _ ends => ends.2
    · exact Protocol.Spec.pure _ fun _ _ ends => ends.2

omit own in
/-- A sweep reconciles its orders one after another, by the rule for loops. -/
theorem spec_processPaymentReconciliation (config : Config)
    : (orderDiscipline calls).protocol.Spec t (fun _ => True)
        (processPaymentReconciliation config batchSize minPendingAgeMinutes) (fun _ _ => True)
        fun _ _ => True := by
  refine Protocol.Spec.bind ((order_admits t).spec order_keeps (within_acquire config _))
    fun lock => ?_
  refine Protocol.Spec.pre (Protocol.Spec.assume fun mine => ?_) fun _ _ own => ⟨own, trivial⟩
  split
  · exact Protocol.Spec.pure _ fun _ _ _ => trivial
  · exact spec_finally' (spec_paymentSweep same config) (spec_order rfl (within_releaseAny mine))

end

-----------------------------------------------------------------------------------------
-- Runs
-----------------------------------------------------------------------------------------

/-- Every call is safe where it finds its orders in time. -/
theorem OrderCall.safe (crypto : Crypto) (config : Config) (same : calls t = call)
    (holds : (orderDiscipline calls).protocol.inv world)
    : (orderDiscipline calls).protocol.Safe t (fun _ _ => True) (call.thread crypto config)
        world := by
  cases call with
  | creating userId dto =>
      exact Service.thread_safe (spec_order same (within_createOrder allowsOrders userId dto))
        holds trivial
  | paying userId input idempotencyKey =>
      exact Service.thread_safe (spec_order same (within_createPayment
        (allowsCreation fun _ => by exact rfl) config userId input idempotencyKey)) holds trivial
  | verifying paymentId userId isAdmin params =>
      exact Service.thread_safe (spec_order same (within_verifyPayment
        (allowsNews (fun _ _ => id) (checksNews (fun _ _ lets paid => by exact Or.inl ⟨lets, paid⟩)
          fun _ lets => by exact Or.inr ⟨lets, rfl⟩)) config paymentId userId isAdmin params))
        holds trivial
  | webhook providerName request =>
      exact Service.thread_safe (spec_order same (within_processWebhook
        (allowsNews (fun _ _ => id) (checksNews (fun _ _ lets paid => by exact Or.inl ⟨lets, paid⟩)
          fun _ lets => by exact Or.inr ⟨lets, rfl⟩)) crypto config providerName request))
        holds trivial
  | attachingWallet orderId userId walletAddress isAdmin =>
      exact Service.thread_safe (spec_order same (within_updateOrderWallet
        (fun _ _ _ _ _ _ => trivial) (fun _ order payments =>
          checked (chooses_walletStatus order payments)) orderId userId walletAddress isAdmin))
        holds trivial
  | cleaning batchSize =>
      exact Service.thread_safe (spec_order same
        (ReservationCleanupWorker.within_processExpiredReservations
          ⟨allowsLiquidity, fun _ _ expires => checked (by exact ⟨expires, rfl⟩),
            fun _ _ _ _ => by exact rfl⟩
          config batchSize)) holds trivial
  | reconcilingPayments batchSize minPendingAgeMinutes =>
      exact Service.thread_safe (spec_processPaymentReconciliation same config) holds trivial
  | reconcilingSettlements batchSize maxStaleAgeHours =>
      exact Service.thread_safe (spec_order same
        (ReconciliationDaemon.within_processReconciliation
          (fun orderId => ⟨allowsSettlements (fun _ => by exact Or.inl rfl) orderId,
            by simp [footprint, Event.owner], fun _ _ _ => by exact Or.inr rfl⟩)
          config batchSize maxStaleAgeHours)) holds trivial
  | completing orderId ledger =>
      exact Service.thread_safe (spec_order same
        (within_markCompleted (allowsSettlements (fun _ => by exact rfl) orderId) ledger)) holds
        trivial
  | requestingRefund userId input isAdmin header =>
      exact Service.thread_safe (spec_createRefund same) holds trivial
  | refunding refundId =>
      exact Service.thread_safe (spec_order same
        (within_executeRefund (allowsRefund (fun _ _ => id) fun _ _ => id) refunds config refundId))
        holds trivial

end

/-- However the calls interleave, fail and crash: as long as they move no order that they overlook,
and no order that has moved on since they looked at it, each committed change of an order's status
is one that the state machine allows. A COMPLETED or REFUNDED order stays what it is. By induction
over the run, from what each call looks at and locks.
-/
theorem order_follows_stateMachine {crypto : Crypto} {config : Config} {calls : Tid → OrderCall}
    {rows : AList Row} {pool last : Pool World Input} {change : Move Input Chance}
    (run : Run (machine anyExpiry) (FindsInTime calls)
      ⟨World.start rows, fun t => (calls t).thread crypto config⟩ pool)
    (moved : pool.move (machine anyExpiry) change = some last)
    (found : ∀ t input, change = .run t input → FindsInTime calls t pool.state last.state)
    {id : Id} {old new : Order}
    (before : pool.state.db.committed.lookup (.order id) = some old)
    (after : last.state.db.committed.lookup (.order id) = some new)
    : OrderStateMachine.canTransition old.status new.status = true
      ∧ (old.status = .COMPLETED ∨ old.status = .REFUNDED → new.status = old.status) := by
  have unobserved : (orderDiscipline calls).inv (World.start rows) :=
    fun _ _ _ _ happened => absurd happened List.not_mem_nil
  have verified := Discipline.verified order_observable
    rfl unobserved (fun t => OrderCall.safe crypto config rfl
      ⟨unobserved, Server.AllJustified.start rows⟩) run
  have follows : OrderStateMachine.canTransition old.status new.status = true := by
    rcases (Discipline.evolves verified moved found).rows after with same | followed
    · obtain rfl := Option.some.inj (before.symm.trans same)
      simp [OrderStateMachine.canTransition]
    · exact followed old before
  refine ⟨follows, fun final => ?_⟩
  rcases final with status | status <;>
    cases reached : new.status <;> simp_all [OrderStateMachine.canTransition,
      OrderStateMachine.allowedTransitions]

/-- An order of a user in some status. -/
def orderIn (status : OrderStatus) : AList Row :=
  (∅ : AList Row).insert (.order "order")
    ({ userId := "user", quoteId := "quote", status := status,
       sourceCurrency := "NGN", destinationAsset := "USDC",
       sourceAmount := 1000000, destinationAmount := 500000000 } : Order)

/-- A payment is created for the order with the mock provider. -/
def payingOrder (_ : Tid) : OrderCall := .paying "user" { orderId := "order" } none

def orderStatus (pool : Pool World Input) : Option OrderStatus :=
  (pool.state.db.committed.lookup (.order "order")).map Order.status

/-- Nothing keeps `createPayment` from a COMPLETED order, which then awaits its payment. -/
theorem completed_order_awaits
    : ∃ pool last, AnyRun (machine anyExpiry)
        ⟨World.start (orderIn .COMPLETED),
          fun t => (payingOrder t).thread ⟨fun _ body => body, id⟩ {}⟩ pool
      ∧ pool.move (machine anyExpiry) (.run 0 {}) = some last
      ∧ orderStatus pool = some .COMPLETED ∧ orderStatus last = some .AWAITING_PAYMENT
      ∧ OrderStateMachine.canTransition .COMPLETED .AWAITING_PAYMENT = false := by
  have went : ((Pool.schedule (machine anyExpiry)
      ⟨World.start (orderIn .COMPLETED),
        fun t => (payingOrder t).thread ⟨fun _ body => body, id⟩ {}⟩
      (List.replicate 12 (.run 0 { text := "x" }))).bind fun pool =>
      (pool.move (machine anyExpiry) (.run 0 {})).map fun last =>
        (orderStatus pool, orderStatus last))
      = some (some .COMPLETED, some .AWAITING_PAYMENT) := by
    decide +kernel
  obtain ⟨pool, reached, later⟩ := Option.bind_eq_some_iff.mp went
  obtain ⟨last, moved, statuses⟩ := Option.map_eq_some_iff.mp later
  obtain ⟨before, after⟩ := Prod.mk.inj statuses
  exact ⟨pool, last, .of_schedule reached, moved, before, after, rfl⟩

/-- No order is moved that a call overlooks or has looked at in vain. -/
def findsInTime (calls : Tid → OrderCall) (t : Tid) (before after : World) : Bool :=
  before.db.committed.entries.all fun entry =>
    match entry with
    | ⟨.order id, (old : Order)⟩ =>
        (after.db.committed.lookup (.order id)).all fun (new : Order) =>
          old.status = new.status
            || ((calls t).overlooks old.status new.status = false
              && (!(calls t).looksFirst
                || before.trace.contains (.orderChecked t id old.status new.status)))
    | _ => true

/-- The evaluated check decides the condition on a step. -/
theorem findsInTime_of_check {calls : Tid → OrderCall} {t : Tid} {before after : World}
    (locks : (calls t).locksOrder before) (check : findsInTime calls t before after = true)
    : FindsInTime calls t before after := by
  refine ⟨locks, fun id old new stored written changed => ?_⟩
  have held := List.all_eq_true.mp check ⟨.order id, old⟩ (AList.mem_lookup_iff.mp stored)
  simp only [written, Option.all_some, changed, decide_false, Bool.false_or, Bool.and_eq_true,
    decide_eq_true_eq, Bool.or_eq_true, Bool.not_eq_true', List.contains_iff_mem] at held
  exact ⟨held.1, fun looks => held.2.resolve_left (by simp [looks])⟩

/-- A new order is paid. -/
theorem order_follows_stateMachine_paid
    : ∃ pool last, Run (machine anyExpiry) (FindsInTime payingOrder)
        ⟨World.start (orderIn .CREATED),
          fun t => (payingOrder t).thread ⟨fun _ body => body, id⟩ {}⟩ pool
      ∧ pool.move (machine anyExpiry) (.run 0 {}) = some last
      ∧ orderStatus pool = some .CREATED ∧ orderStatus last = some .AWAITING_PAYMENT
      ∧ OrderStateMachine.canTransition .CREATED .AWAITING_PAYMENT = true := by
  have went : ((Pool.checkedSchedule (machine anyExpiry) (findsInTime payingOrder)
      ⟨World.start (orderIn .CREATED),
        fun t => (payingOrder t).thread ⟨fun _ body => body, id⟩ {}⟩
      (List.replicate 12 (.run 0 { text := "x" }))).bind fun pool =>
      (pool.move (machine anyExpiry) (.run 0 {})).map fun last =>
        (orderStatus pool, orderStatus last, findsInTime payingOrder 0 pool.state last.state))
      = some (some .CREATED, some .AWAITING_PAYMENT, true) := by
    decide +kernel
  obtain ⟨pool, reached, later⟩ := Option.bind_eq_some_iff.mp went
  obtain ⟨last, moved, found⟩ := Option.map_eq_some_iff.mp later
  obtain ⟨before, found⟩ := Prod.mk.inj found
  obtain ⟨after, check⟩ := Prod.mk.inj found
  obtain ⟨old, stored, old_status⟩ := Option.map_eq_some_iff.mp before
  obtain ⟨new, written, new_status⟩ := Option.map_eq_some_iff.mp after
  have run : Run (machine anyExpiry) (FindsInTime payingOrder) _ pool :=
    Run.of_checkedSchedule (fun _ _ _ => findsInTime_of_check (by trivial)) reached
  have follows := order_follows_stateMachine run moved (fun t input same => by
    obtain ⟨rfl, _⟩ := Move.run.inj same
    exact findsInTime_of_check (by trivial) check) stored written
  refine ⟨pool, last, run, moved, before, after, ?_⟩
  rw [← old_status, ← new_status]
  exact follows.1

end LuminaRail
