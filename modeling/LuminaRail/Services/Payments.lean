import LuminaRail.Model.Queries
import LuminaRail.Services.Liquidity
import LuminaRail.Services.PaymentProviders
import LuminaRail.Services.StateMachines

/-! `PaymentService`: creating a payment with its provider between two database steps, and
verifying it. Both also move the order of the payment.
-/

namespace LuminaRail

open Database Service

structure CreatePaymentInput where
  orderId : Id
  currency : String := "NGN"
  provider : Option String := none

/-- The orders that a successful payment no longer moves. -/
def OrderStatus.ignoresSuccess (status : OrderStatus) : Bool :=
  status = .COMPLETED || status = .SETTLEMENT_COMPLETED || status = .SETTLEMENT_PENDING
    || status = .CANCELLED || status = .REFUNDED

/-- The orders that a failed payment no longer moves. -/
def OrderStatus.ignoresFailure (status : OrderStatus) : Bool :=
  status = .COMPLETED || status = .SETTLEMENT_COMPLETED || status = .CANCELLED
    || status = .REFUNDED

/-- The status of an order that has been paid. -/
def Order.paidStatus (order : Order) : OrderStatus :=
  if isBlank order.walletAddress then .PAYMENT_CONFIRMED else .SETTLEMENT_PENDING

namespace PaymentService

/-- The payment under an idempotency key. -/
def paymentByKey (key : String) (rows : AList Row) : Option (Id × Payment) :=
  (rows.lookup (.paymentIdempotencyKey key)).bind fun id =>
    (rows.lookup (.payment id)).map fun payment => (id, payment)

/-- The rows that index the unique columns of a payment. -/
def paymentIndex (id : Id) (payment : Payment) : List (Sigma Row) :=
  ⟨.paymentReference payment.reference, id⟩ ::
    match payment.idempotencyKey with
    | some key => [⟨.paymentIdempotencyKey key, id⟩]
    | none => []

/-- Step 5 of `createPayment`: what is stored of the provider's answer. -/
def persistProviderResponse (tx : TxId) (orderId paymentId : Id) (provider : Provider)
    (response : NormalizedPaymentResponse) : Service Payment := do
  let _ ← create (some tx) (.providerTransaction paymentId)
    { provider := provider.providerId
      providerTransactionId := response.providerPaymentId
      status := response.status }
    [⟨.providerTransactionId provider.providerId response.providerPaymentId, paymentId⟩]
  let updated ← update (some tx) (.payment paymentId) fun row =>
    { row with
      providerPaymentId := some response.providerPaymentId
      status := response.status }
  let _ ← update (some tx) (.order orderId) fun row => { row with status := .AWAITING_PAYMENT }
  pure updated

/-- Steps 4 and 5 of `createPayment`, from the call of the provider on, which is observed. -/
def requestPayment (config : Config) (orderId paymentId : Id) (initialPayment : Payment)
    (provider : Provider) : Service (Id × Payment × Bool) := do
  emit fun t => .paymentRequested t paymentId
  let response ← tryCatch
    (provider.createPayment config
      { amount := initialPayment.amount
        currency := initialPayment.currency
        reference := initialPayment.reference }) fun providerErr => do
      let _ ← update none (.payment paymentId) fun row => { row with status := .FAILED }
      throw providerErr
  tryCatch (do
    let finalPayment ← transaction fun tx =>
      persistProviderResponse tx orderId paymentId provider response
    pure (paymentId, finalPayment, false)) fun _ =>
      pure (paymentId, initialPayment, false)

/-- What a payment that is stored already under the same idempotency key is answered with. -/
def duplicatePayment (userId orderId : Id) (existing : Id × Payment)
    : Service (Id × Payment × Bool) := do
  throwIf (existing.2.userId ≠ userId ∨ existing.2.orderId ≠ orderId)
    (.conflict "Idempotency key has already been used for another payment request.")
  pure (existing.1, existing.2, true)

/-- Steps 3 to 5 of `createPayment`: the payment is stored before the provider is called. -/
def establishPayment (config : Config) (userId : Id) (input : CreatePaymentInput)
    (idempotencyKey : Option String) (order : Order) : Service (Id × Payment × Bool) := do
  let time ← now
  let suffix ← randomText
  let provider ← PaymentProviderRegistry.get config
    (toUpperCase ((truthy input.provider).getD "MOCK"))
  let paymentId ← randomText
  let createdAt ← now
  let payment : Payment :=
    { orderId := input.orderId
      userId := userId
      provider := provider.providerId
      amount := order.sourceAmount
      currency := (truthy (some input.currency)).getD "NGN"
      status := .CREATED
      reference := s!"PAY_{time}_{suffix}"
      idempotencyKey := truthy idempotencyKey
      createdAt := createdAt }
  let stored ← tryCatch (do
    let payment ← create none (.payment paymentId) payment (paymentIndex paymentId payment)
    pure (Sum.inl payment)) fun error => do
      if error.errorCode = "P2002" then
        match truthy idempotencyKey with
        | none => throw (.conflict "Idempotency key conflict detected.")
        | some key =>
            match ← select none (paymentByKey key) with
            | none => throw (.conflict "Idempotency key conflict detected.")
            | some duplicate =>
                throwIf (duplicate.2.userId ≠ userId ∨ duplicate.2.orderId ≠ input.orderId)
                  (.conflict "Idempotency key conflict detected.")
                pure (Sum.inr duplicate)
      else
        throw error
  match stored with
  | .inl payment => requestPayment config input.orderId paymentId payment provider
  | .inr duplicate => pure (duplicate.1, duplicate.2, true)

def createPayment (config : Config) (userId : Id) (input : CreatePaymentInput)
    (idempotencyKey : Option String := none) : Service (Id × Payment × Bool) := do
  match ← findUnique none (.order input.orderId) with
  | none => throw (.notFound s!"Order not found: {input.orderId}")
  | some order =>
      throwIf (order.userId ≠ userId) (.forbidden "Unauthorized access to this order.")
      match truthy idempotencyKey with
      | none => establishPayment config userId input idempotencyKey order
      | some key =>
          match ← select none (paymentByKey key) with
          | some existing => duplicatePayment userId input.orderId existing
          | none => establishPayment config userId input idempotencyKey order

def getPaymentById (paymentId userId : Id) (isAdmin : Bool) : Service Payment := do
  match ← findUnique none (.payment paymentId) with
  | none => throw (.paymentNotFound paymentId)
  | some payment =>
      throwIf (isAdmin = false ∧ payment.userId ≠ userId)
        (.forbidden "Unauthorized access to this payment.")
      pure payment

/-- The order of a successful payment moves on, unless it has done so already. A check that lets it
is observed.
-/
def advanceOrder (client : Option TxId) (orderId : Id) : Service Unit := do
  match ← findUnique client (.order orderId) with
  | none => pure ()
  | some targetOrder =>
      if targetOrder.status.ignoresSuccess then
        pure ()
      else
        emit fun t => .orderChecked t orderId targetOrder.status targetOrder.paidStatus
        let _ ← update client (.order orderId) fun row =>
          { row with status := targetOrder.paidStatus }

/-- The order of a failed payment fails, unless it is beyond that. A check that lets it is observed. -/
def failOrder (client : Option TxId) (orderId : Id) : Service Unit := do
  match ← findUnique client (.order orderId) with
  | none => pure ()
  | some targetOrder =>
      if targetOrder.status.ignoresFailure then
        pure ()
      else
        emit fun t => .orderChecked t orderId targetOrder.status .FAILED
        let _ ← update client (.order orderId) fun row => { row with status := .FAILED }

/-- What a payment's new status does to the reservation and the order. The liquidity calls run
in transactions of their own.
-/
def followUp (client : Option TxId) (orderId : Id) (status : PaymentStatus) : Service Unit := do
  match status with
  | .SUCCEEDED =>
      let _ ← LiquidityService.confirmReservation orderId
      advanceOrder client orderId
  | .FAILED =>
      let _ ← LiquidityService.releaseReservation orderId .CANCELLED_RELEASED
      failOrder client orderId
  | _ => pure ()

/-- `providerTransaction.updateMany` of a payment. -/
def updateProviderTransaction (client : Option TxId) (paymentId : Id) (status : PaymentStatus)
    : Service Unit := do
  let _ ← updateMany client (.providerTransaction paymentId) (fun _ => true) fun row =>
    { row with status := status }

def verifyPayment (config : Config) (paymentId userId : Id) (isAdmin : Bool := false)
    (params : VerifyParams := {}) : Service Payment := do
  let payment ← getPaymentById paymentId userId isAdmin
  let providerTransaction ← findUnique none (.providerTransaction paymentId)
  let provider ← PaymentProviderRegistry.get config payment.provider
  let verificationResponse ← provider.verifyPayment config
    ((truthy payment.providerPaymentId).getD payment.reference) params
  PaymentStateMachine.validateTransition payment.status verificationResponse.status
  let count ← updateMany none (.payment paymentId) (fun row => row.status = payment.status)
    fun row => { row with status := verificationResponse.status }
  if count = 0 then
    let concurrent := AppError.invalidPaymentState
      s!"Concurrent status modification detected for payment {paymentId}."
    match ← findUnique none (.payment paymentId) with
    | none => throw concurrent
    | some currentPayment =>
        throwIf (currentPayment.status ≠ verificationResponse.status) concurrent
        pure currentPayment
  else
    if providerTransaction.isSome then
      updateProviderTransaction none paymentId verificationResponse.status
    followUp none payment.orderId verificationResponse.status
    findUniqueOrThrow none (.payment paymentId)

end PaymentService

end LuminaRail
