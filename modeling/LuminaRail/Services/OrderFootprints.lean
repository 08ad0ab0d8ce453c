import LuminaRail.Services.Footprints
import LuminaRail.Services.Orders
import LuminaRail.Services.Settlements

/-! The footprints of orders and settlements: creating an order with its reservation, attaching a
wallet, and moving a settlement.
-/

namespace LuminaRail

open Concurrency Database Service

variable {footprint : Footprint} {t : Tid}

/-- Creating an order uses up its quote and stores the order with its reservation. -/
structure Footprint.AllowsOrders (footprint : Footprint) : Prop extends
    footprint.AllowsLiquidity where
  quote : ∀ id (row : Quote) (status : QuoteStatus),
    footprint.writes (.quote id) (some row) { row with status := status }
  order : ∀ id (order : Order), footprint.writes (.order id) none order
  idempotencyKey : ∀ key id, footprint.writes (.orderIdempotencyKey key) none id

section

variable (allows : footprint.AllowsOrders)
include allows

/-- A reservation is stored with what it takes from its pool. -/
theorem within_reserveForOrderInTx {x : TxId} (own : x.owner = t)
    (params : ReserveLiquidityParams)
    : Within (Step footprint t) t (LiquidityService.reserveForOrderInTx x params) := by
  refine Within.bind within_throwIf fun _ _ => ?_
  refine Within.bind (within_selectForUpdate own) fun _ _ => ?_
  refine Within.bind within_findUnique fun found _ => ?_
  cases found with
  | none => exact Within.throw _
  | some pool =>
      refine Within.bind within_throwIf fun _ _ => Within.bind within_throwIf fun _ _ => ?_
      refine Within.bind (within_updateIn own fun row => by exact allows.pool _ _ _) fun _ _ => ?_
      refine Within.bind within_now fun time _ => ?_
      refine within_create (by simpa using own) (fun entry member => ?_) trivial
      obtain rfl := List.mem_singleton.mp member
      exact allows.reservation _ _ _

/-- A quote is read, and may be marked EXPIRED. -/
theorem within_getQuoteById (quoteId : Id)
    : Within (Step footprint t) t (QuoteService.getQuoteById quoteId) := by
  refine Within.bind within_findUnique fun found _ => ?_
  cases found with
  | none => exact Within.throw _
  | some quote =>
      refine Within.bind within_now fun time _ => ?_
      split
      · exact within_updateNow fun row => by exact allows.quote _ row _
      · exact Within.pure trivial

/-- The pool is read, and created where it is missing. -/
theorem within_getPool : Within (Step footprint t) t LiquidityService.getPool := by
  refine Within.bind within_randomText fun poolId _ => ?_
  refine Within.bind within_findUnique fun found _ => ?_
  cases found with
  | some existing => exact Within.pure trivial
  | none =>
      refine Within.bind (Q := fun _ => True)
        (within_create (by simp) (fun entry member => ?_) trivial) fun _ _ => Within.pure trivial
      obtain rfl := List.mem_singleton.mp member
      exact allows.pool _ _ _

/-- The transaction of an order uses the quote, stores the order and reserves its amount. -/
theorem within_createOrderInTx {x : TxId} (own : x.owner = t) (userId : Id)
    (dto : CreateOrderDTO) (quote : Quote) (poolId : Id)
    : Within (Step footprint t) t (OrderService.createOrderInTx x userId dto quote poolId) := by
  refine Within.bind (within_updateIn own fun row => by exact allows.quote _ row _) fun _ _ => ?_
  refine Within.bind within_randomText fun orderId _ => Within.bind within_now fun time _ => ?_
  refine Within.bind (Q := fun _ => True)
    (within_create (by simpa using own) (fun entry member => ?_) trivial) fun _ _ => ?_
  · simp only [OrderService.orderIndex, List.mem_cons] at member
    rcases member with rfl | member
    · exact allows.order _ _
    · split at member
      · obtain rfl := List.mem_singleton.mp member
        exact allows.idempotencyKey _ _
      · simp at member
  · exact Within.bind (within_reserveForOrderInTx allows own _) fun _ _ => Within.pure trivial

/-- An order is placed in one transaction. -/
theorem within_placeOrder (userId : Id) (dto : CreateOrderDTO)
    : Within (Step footprint t) t (OrderService.placeOrder userId dto) := by
  refine Within.bind (within_getQuoteById allows _) fun quote _ => ?_
  refine Within.bind within_throwIf fun _ _ => Within.bind within_throwIf fun _ _ => ?_
  refine Within.bind within_now fun time _ => Within.bind within_throwIf fun _ _ => ?_
  refine Within.bind (within_getPool allows) fun pool _ => ?_
  refine Within.bind within_findUniqueOrThrow fun available _ => ?_
  refine Within.bind within_throwIf fun _ _ => ?_
  exact within_transaction fun _ own => within_createOrderInTx allows own userId dto quote _

/-- An order stays within the footprint of orders, whether it is found by its key or placed. -/
theorem within_createOrder (userId : Id) (dto : CreateOrderDTO)
    : Within (Step footprint t) t (OrderService.createOrder userId dto) := by
  unfold OrderService.createOrder
  cases truthy dto.idempotencyKey with
  | none => exact within_placeOrder allows userId dto
  | some key =>
      refine Within.bind (within_select (Q := fun _ => True) fun _ => trivial) fun found _ => ?_
      cases found with
      | none => exact within_placeOrder allows userId dto
      | some existing => exact Within.pure trivial

end

/-- A wallet moves the order as the payments that were read allow. -/
theorem within_updateOrderWallet
    (wallet : ∀ id (row : Order) (walletAddress : Option String) (status : OrderStatus),
      footprint.writes (.order id) (some row)
        { row with walletAddress := walletAddress, status := status })
    (checked : ∀ id (order : Order) (payments : List (Id × Payment)), footprint.events
      (.orderChecked t id order.status (OrderService.walletStatus order payments)))
    (orderId userId : Id) (walletAddress : String) (isAdmin : Bool)
    : Within (Step footprint t) t
        (OrderService.updateOrderWallet orderId userId walletAddress isAdmin) := by
  refine Within.bind within_findUnique fun found _ => ?_
  cases found with
  | none => exact Within.throw _
  | some order =>
      refine Within.bind (within_select (Q := fun _ => True) fun _ => trivial) fun payments _ => ?_
      refine Within.bind within_throwIf fun _ _ => ?_
      refine Within.bind (within_emit (checked _ order payments)) fun _ _ => ?_
      exact within_updateNow fun row => by exact wallet _ row _ _

/-- Moving the settlement of an order on records what has been checked; completing it completes the
order.
-/
structure Footprint.AllowsSettlements (footprint : Footprint) (t : Tid) (orderId : Id) : Prop extends
    footprint.AllowsLiquidity where
  checked : ∀ status, footprint.events (.transitionChecked t orderId status)
  settlement : ∀ row new : Settlement, new.settlementId = row.settlementId
    → new.status ≠ .PENDING → footprint.writes (.settlement orderId) (some row) new
  completed : ∀ row : Order,
    footprint.writes (.order orderId) (some row) { row with status := .COMPLETED }

open SettlementService

/-- A settlement is only read. -/
theorem within_getSettlementById (id : Id)
    : Within (Step footprint t) t (getSettlementById id) := by
  refine Within.bind within_findUnique fun found _ => ?_
  cases found with
  | none => exact Within.throw _
  | some settlement => exact Within.pure trivial

/-- A check of a transition is only observed. -/
theorem within_checkTransition {id : Id} {target : SettlementStatus}
    (checked : ∀ status, footprint.events (.transitionChecked t id status))
    : Within (Step footprint t) t (checkTransition id target) :=
  Within.bind (within_getSettlementById id) fun _ _ =>
    Within.bind within_throwIf fun _ _ => within_emit (checked _)

/-- The move to SUBMITTING replaces a row from which it is allowed. -/
theorem within_markSubmitting {id : Id}
    (moves : ∀ (row : Settlement) (time : Nat),
      SettlementStateMachine.canTransition row.status .SUBMITTING = true
      → footprint.writes (.settlement id) (some row)
        { row with
          status := .SUBMITTING, attemptCount := row.attemptCount + 1, updatedAt := time })
    : Within (Step footprint t) t (markSubmitting id) := by
  refine Within.bind (within_getSettlementById id) fun settlement _ => ?_
  refine Within.bind within_throwIf fun _ valid => Within.bind within_now fun time _ => ?_
  refine Within.bind (within_updateMany (by simp) fun row unchanged => ?_) fun count _ => ?_
  · apply moves row time
    rw [of_decide_eq_true unchanged]
    simpa using valid
  · split
    · refine Within.bind within_findUnique fun found _ => ?_
      cases found with
      | none => exact Within.throw _
      | some current =>
          dsimp only
          split
          · exact Within.pure trivial
          · exact Within.throw _
    · exact within_findUniqueOrThrow

section

variable {orderId : Id} (allows : footprint.AllowsSettlements t orderId)
include allows

/-- A mark writes the settlement that was read. -/
theorem within_mark {target : SettlementStatus} {data : Settlement → Settlement}
    (onward : target ≠ .PENDING) (same : ∀ row, (data row).settlementId = row.settlementId)
    : Within (Step footprint t) t (mark orderId target data) :=
  Within.bind (within_checkTransition allows.checked) fun _ _ =>
    Within.bind within_now fun _ _ =>
      within_updateNow fun row => by exact allows.settlement row _ (same row) onward

/-- The mark FAILED, as a mark. -/
theorem within_markFailed (reason : String)
    : Within (Step footprint t) t (markFailed orderId reason) :=
  within_mark allows (by simp) fun _ => rfl

/-- The mark REQUIRES_RECONCILIATION, as a mark. -/
theorem within_markRequiresReconciliation (reason : String)
    : Within (Step footprint t) t (markRequiresReconciliation orderId reason) :=
  within_mark allows (by simp) fun _ => rfl

/-- The mark COMPLETED writes the settlement and its order in one transaction. -/
theorem within_markCompleted (ledger : Nat)
    : Within (Step footprint t) t (markCompleted orderId ledger) := by
  refine Within.bind (within_checkTransition allows.checked) fun _ _ => ?_
  refine Within.bind (Q := fun _ => True) (within_transaction fun x own => ?_) fun settlement _ => ?_
  · refine Within.bind within_now fun time _ => ?_
    refine Within.bind (within_updateIn own fun row => by
      exact allows.settlement row _ rfl (by simp)) fun settlement _ => ?_
    refine Within.bind (within_updateIn own fun row => by exact allows.completed row)
      fun _ _ => ?_
    exact Within.pure trivial
  · refine Within.bind (within_consumeReservation allows.toAllowsLiquidity orderId _ _) fun _ _ => ?_
    exact Within.pure trivial

end

end LuminaRail
