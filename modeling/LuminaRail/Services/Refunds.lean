import LuminaRail.Model.Decimal
import LuminaRail.Model.Queries
import LuminaRail.Services.DistributedLock
import LuminaRail.Services.Liquidity
import LuminaRail.Services.Providers
import LuminaRail.Services.StateMachines

/-! `RefundService`: creating a refund under the lock of its order, and executing it with the
payment provider.
-/

namespace LuminaRail

open Database Service

/-- What `new Decimal` makes of a text. -/
inductive DecimalText
  | malformed (text : String)
  | infinity
  | finite (value : Decimal)

/-- The amount is missing where its text is empty. -/
structure CreateRefundInput where
  orderId : Id
  paymentId : Option Id := none
  amount : Option DecimalText := none
  reason : String
  idempotencyKey : Option String := none

namespace RefundService

/-- The statuses in which a regular user may ask for a refund. -/
def allowedUserStates : List OrderStatus :=
  [.FAILED, .EXPIRED, .CANCELLED, .REFUND_FAILED, .REFUND_PENDING]

/-- A settlement in one of these statuses keeps an order from being refunded. -/
def blocksRefund (status : SettlementStatus) : Bool :=
  status = .SUBMITTING || status = .SUBMITTED || status = .CONFIRMING
    || status = .REQUIRES_RECONCILIATION || status = .COMPLETED

/-- The refund under an idempotency key. -/
def refundByKey (key : String) (rows : AList Row) : Option (Id × Refund) :=
  (rows.lookup (.refundIdempotencyKey key)).bind fun id =>
    (rows.lookup (.refund id)).map fun refund => (id, refund)

/-- The amount that is asked for, if any. -/
def requestedAmount (input : CreateRefundInput) (remaining : Decimal) : Service Decimal :=
  match input.amount with
  | none => pure remaining
  | some (.finite amount) => pure amount
  | some (.malformed text) => throw ⟨s!"[DecimalError] Invalid argument: {text}", 500, ""⟩
  | some .infinity =>
      throw (.badRequest ("Requested refund amount (NGN Infinity) exceeds remaining refundable "
        ++ s!"payment balance (NGN {remaining})."))

/-- The steps of `createRefund` after its idempotency check. -/
def insertRefund (tx : TxId) (userId : Id) (input : CreateRefundInput) (order : Order)
    (paymentId : Id) (payment : Payment) (generatedKey : String)
    : Service (Id × Refund × Bool) := do
  let existingRefunds ← select (some tx) fun rows =>
    (refundsOf input.orderId rows).filter fun refund => refund.2.status.isActive
  let totalAlreadyRefunded := (existingRefunds.map fun refund => refund.2.amount).sum
  let remainingRefundableAmount := payment.amount - totalAlreadyRefunded
  throwIf (remainingRefundableAmount ≤ 0)
    (.badRequest (s!"Order {input.orderId} has already been fully refunded "
      ++ s!"(Refunded: NGN {money totalAlreadyRefunded} / Paid: NGN {money payment.amount})."))
  let refundAmount ← requestedAmount input (money remainingRefundableAmount)
  throwIf (refundAmount.units ≤ 0) (.badRequest "Refund amount must be a positive number.")
  throwIf (((money totalAlreadyRefunded).plus refundAmount).gt (money payment.amount))
    (.badRequest (s!"Requested refund amount (NGN {refundAmount}) exceeds remaining "
      ++ s!"refundable payment balance (NGN {money remainingRefundableAmount})."))
  OrderStateMachine.validateTransition order.status .REFUND_PENDING
  let _ ← update (some tx) (.order input.orderId) fun row =>
    { row with status := .REFUND_PENDING }
  let id ← randomText
  let time ← now
  let refund ← create (some tx) (.refund id)
    { orderId := input.orderId
      paymentId := some paymentId
      userId := order.userId
      amount := refundAmount.stored 4
      currency := (truthy (some payment.currency)).getD "NGN"
      reason := (truthy (some input.reason)).getD "Requested refund"
      status := .PENDING
      idempotencyKey := generatedKey
      initiatedBy := some userId
      initiatedAt := some time }
    [⟨.refundIdempotencyKey generatedKey, id⟩]
  pure (id, refund, false)

def createRefundInTx (tx : TxId) (userId : Id) (input : CreateRefundInput)
    (isAdmin : Bool) (idempotencyKey : Option String) : Service (Id × Refund × Bool) := do
  selectForUpdate tx (.order input.orderId)
  match ← findUnique (some tx) (.order input.orderId) with
  | none => throw (.notFound s!"Order not found: {input.orderId}")
  | some order =>
      let payments ← select (some tx) (paymentsOf input.orderId)
      let settlement ← findUnique (some tx) (.settlement input.orderId)
      throwIf (isAdmin = false ∧ order.userId ≠ userId)
        (.forbidden "Unauthorized access to this order for refund creation.")
      throwIf (isAdmin = false ∧ order.status ∉ allowedUserStates)
        (.forbidden ("Regular users may only request refunds for failed, expired, or cancelled "
          ++ s!"orders (Current order state: {order.status})."))
      throwIf (order.status = .COMPLETED ∨ order.status = .SETTLEMENT_COMPLETED)
        (.badRequest "Cannot refund an order that has already been successfully settled.")
      match settlement.filter fun settlement => blocksRefund settlement.status with
      | some active =>
          throw (.badRequest (s!"Cannot initiate refund for order {input.orderId}: an active or "
            ++ s!"completed settlement exists (Settlement status: {active.status})."))
      | none =>
          let chosen : Option (Id × Payment) :=
            match truthy input.paymentId with
            | some paymentId => payments.find? fun payment => payment.1 = paymentId
            | none => (payments.find? fun payment => payment.2.status = .SUCCEEDED).or
                payments.head?
          match chosen with
          | none =>
              throw (.badRequest
                s!"No eligible payment record found for order {input.orderId}.")
          | some (paymentId, payment) =>
              let time ← now
              let generatedKey :=
                (truthy idempotencyKey).getD s!"REF_KEY_{input.orderId}_{time}"
              match ← select (some tx) (refundByKey generatedKey) with
              | some (id, existingRefund) =>
                  throwIf (isAdmin = false ∧ existingRefund.userId ≠ userId)
                    (.conflict
                      "Idempotency key has already been used for another refund request.")
                  pure (id, existingRefund, true)
              | none => insertRefund tx userId input order paymentId payment generatedKey

def createRefund (userId : Id) (input : CreateRefundInput) (isAdmin : Bool := false)
    (idempotencyKeyHeader : Option String := none) : Service (Id × Refund × Bool) :=
  transaction fun tx =>
    createRefundInTx tx userId input isAdmin
      ((truthy input.idempotencyKey).or idempotencyKeyHeader)

/-- The payment of a refund, if it has one, becomes REFUNDED. -/
def markPaymentRefunded (tx : TxId) (paymentId : Option Id) : Service Unit := do
  match paymentId with
  | some paymentId =>
      let _ ← update (some tx) (.payment paymentId) fun row => { row with status := .REFUNDED }
  | none => pure ()

/-- What is stored of a provider's answer. A check that lets the order follow is observed. -/
def settleRefund (refundId : Id) (refund : Refund) (order : Order)
    (response : NormalizedRefundResponse) : Service Refund := do
  match response.status with
  | .SUCCEEDED =>
      let finalRefund ← Service.transaction fun tx => do
        let time ← now
        let updatedRef ← update (some tx) (.refund refundId) fun row =>
          { row with
            status := .SUCCEEDED
            paystackRefundId := some response.providerRefundId
            providerReference := truthy response.transactionReference
            completedAt := some time
            metadata := if response.hasRawResponse then some {} else none }
        markPaymentRefunded tx refund.paymentId
        OrderStateMachine.validateTransition order.status .REFUNDED
        emit fun t => .orderChecked t refund.orderId order.status .REFUNDED
        let _ ← update (some tx) (.order refund.orderId) fun row =>
          { row with status := .REFUNDED }
        pure updatedRef
      let _ ← LiquidityService.releaseReservation refund.orderId .CANCELLED_RELEASED
      pure finalRefund
  | .FAILED =>
      Service.transaction fun tx => do
        let time ← now
        let updatedRef ← update (some tx) (.refund refundId) fun row =>
          { row with
            status := .FAILED
            failureReason :=
              some ((truthy response.failureReason).getD "Provider rejected refund")
            failedAt := some time
            metadata := if response.hasRawResponse then some {} else none }
        OrderStateMachine.validateTransition order.status .REFUND_FAILED
        emit fun t => .orderChecked t refund.orderId order.status .REFUND_FAILED
        let _ ← update (some tx) (.order refund.orderId) fun row =>
          { row with status := .REFUND_FAILED }
        pure updatedRef
  | _ =>
      update none (.refund refundId) fun row =>
        { row with
          status := .PROCESSING
          failureReason :=
            some ((truthy response.failureReason).getD "Ambiguous provider network response")
          metadata := some
            { ambiguousResponse := true
              ambiguousNetworkFailure := response.ambiguousNetworkFailure } }

/-- The payment that a refund includes. -/
def paymentOf (refund : Refund) : Service (Option Payment) :=
  match refund.paymentId with
  | some paymentId => findUnique none (.payment paymentId)
  | none => pure none

/-- What the provider of its payment is asked to carry out. -/
def refundRequest (refundId : Id) (refund : Refund) (paymentRef : String) : CreateRefundRequest :=
  { refundId := refundId
    orderId := refund.orderId
    paymentReference := paymentRef
    amount := refund.amount
    currency := refund.currency
    reason := refund.reason
    idempotencyKey := refund.idempotencyKey }

/-- The steps of `executeRefund` after it has moved the refund to PROCESSING. -/
def executeClaimedRefund (config : Config) (refundId : Id) (lock : Option DistributedLock)
    : Service Refund := do
  let currentRefund ← findUniqueOrThrow none (.refund refundId)
  let order ← findUniqueOrThrow none (.order currentRefund.orderId)
  let payment ← paymentOf currentRefund
  let paymentProviderName := (truthy (payment.map Payment.provider)).getD "MOCK"
  let provider ← PaymentProviderRegistry.get config paymentProviderName
  let paymentRef := ((truthy (payment.bind Payment.providerPaymentId)).or
    (truthy (payment.map Payment.reference))).getD currentRefund.orderId
  DistributedLock.throwIfLost lock
    ⟨s!"Distributed lock lost for refund {refundId} immediately prior to Paystack API call.",
      500, "INTERNAL_SERVER_ERROR"⟩
  let providerResponse ← provider.processRefund config
    (refundRequest refundId currentRefund paymentRef)
  settleRefund refundId currentRefund order providerResponse

/-- The part of `executeRefund` inside its `try`. -/
def executeRefundLocked (config : Config) (refundId : Id) (lock : Option DistributedLock)
    : Service Refund := do
  match ← findUnique none (.refund refundId) with
  | none => throw (.refundNotFound refundId)
  | some refund =>
      let ambiguous := refund.metadata.any fun metadata =>
        metadata.ambiguousResponse || metadata.ambiguousNetworkFailure
      if RefundStateMachine.isTerminal refund.status then
        pure refund
      else if refund.status = .PROCESSING ∧ ambiguous then
        pure refund
      else
        DistributedLock.throwIfLost lock
          ⟨s!"Distributed lock lost for refund {refundId} prior to provider execution.", 500,
            "INTERNAL_SERVER_ERROR"⟩
        RefundStateMachine.validateTransition refund.status .PROCESSING
        let count ← claim (.refund refundId) (fun row => row.status = refund.status)
          (fun row => { row with status := .PROCESSING })
          fun t => .refundClaimed t refundId refund.status
        if count = 0 then
          findUniqueOrThrow none (.refund refundId)
        else
          executeClaimedRefund config refundId lock

def executeRefund (config : Config) (refundId : Id) : Service Refund := do
  let lock ← DistributedLockService.acquire config s!"lock:refund:{refundId}"
  finally' (executeRefundLocked config refundId lock) (DistributedLock.release lock)

end RefundService

end LuminaRail
