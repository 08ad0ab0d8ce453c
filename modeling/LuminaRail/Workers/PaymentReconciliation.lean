import LuminaRail.Services.Payments
import LuminaRail.Services.DistributedLock

/-! The payment side of `ReconciliationDaemon`: asking the providers about payments that have been
pending for too long, under the lock of their order.
-/

namespace LuminaRail

open Database Service

inductive ReconciliationAction
  | CONFIRMED_AND_SETTLED
  | MARKED_FAILED
  | DEFERRED
  | SKIPPED
deriving DecidableEq

namespace ReconciliationDaemon

/-- The orders that the reconciliation of a payment may still move. -/
def reconcilable (status : OrderStatus) : Bool :=
  status = .AWAITING_PAYMENT || status = .PAYMENT_DETECTED || status = .CREATED

/-- A reservation that is no longer there for the order. -/
def released (reservation : LiquidityReservation) : Bool :=
  reservation.status = .EXPIRED_RELEASED || reservation.status = .CANCELLED_RELEASED

/-- The identifier of the provider that a payment is verified with. -/
def verifyingProvider (config : Config) (payment : Option (Id × Payment)) : String :=
  (truthy (payment.map fun payment => payment.2.provider)).getD
    (match config.ngnProvider with
    | .sandbox => "sandbox"
    | .paystack => "paystack")

/-- The payment of the order, if there is one, takes a status. -/
def updatePayment (tx : TxId) (payment : Option (Id × Payment)) (data : Payment → Payment)
    : Service Unit := do
  match payment with
  | none => pure ()
  | some payment =>
      let _ ← update (some tx) (.payment payment.1) data

/-- The order, its payment and its reservation after the payment has failed. -/
def markPaymentFailed (tx : TxId) (orderId : Id) (payment : Option (Id × Payment))
    : Service ReconciliationAction := do
  let _ ← update (some tx) (.order orderId) fun row => { row with status := .FAILED }
  updatePayment tx payment fun row => { row with status := .FAILED }
  let _ ← LiquidityService.releaseReservationInTx tx orderId .CANCELLED_RELEASED
  pure .MARKED_FAILED

/-- The order, its payment and its reservation after the payment has succeeded, and a settlement
if there is none.
-/
def confirmPayment (config : Config) (tx : TxId) (orderId : Id) (order : Order)
    (payment : Option (Id × Payment)) (paymentReference : String)
    (response : NormalizedPaymentResponse) : Service ReconciliationAction := do
  updatePayment tx payment fun row =>
    { row with
      status := .SUCCEEDED
      providerPaymentId :=
        some ((truthy (some response.providerPaymentId)).getD paymentReference) }
  let _ ← update (some tx) (.order orderId) fun row => { row with status := .PAYMENT_CONFIRMED }
  let _ ← LiquidityService.confirmReservationInTx tx orderId
  match ← findUnique (some tx) (.settlement orderId) with
  | some _ => pure .CONFIRMED_AND_SETTLED
  | none =>
      let time ← now
      let suffix ← randomText
      let settlementId := s!"STL_{time}_{suffix}"
      let _ ← create (some tx) (.settlement orderId)
        { settlementId := settlementId
          userId := order.userId
          status := .PENDING
          asset := order.destinationAsset
          amount := (stroops order.destinationAmount).stored 4
          source := config.stellar.signerPublicKey
          destination := truthy order.walletAddress
          createdAt := time
          updatedAt := time }
        [⟨.settlementNumber settlementId, orderId⟩]
      pure .CONFIRMED_AND_SETTLED

/-- The provider reports the amount and the currency of the order. -/
def matchesOrder (order : Order) (response : NormalizedPaymentResponse) : Bool :=
  response.amount.toNumber = (money order.sourceAmount).toNumber
    && toUpperCase response.currency = toUpperCase order.sourceCurrency

/-- What follows the provider's answer; a provider that fails leaves everything as it is. -/
def applyVerdict (config : Config) (tx : TxId) (orderId : Id) (order : Order)
    (payment : Option (Id × Payment)) (paymentReference : String)
    (response : NormalizedPaymentResponse) : Service ReconciliationAction :=
  match response.status with
  | .SUCCEEDED =>
      if matchesOrder order response then
        confirmPayment config tx orderId order payment paymentReference response
      else
        markPaymentFailed tx orderId payment
  | .FAILED => markPaymentFailed tx orderId payment
  | _ => pure .DEFERRED

/-- The provider's answer to the verification of a payment, `none` if it could not be had. -/
def askProvider (config : Config) (providerId paymentReference : String) (order : Order)
    : Service (Option NormalizedPaymentResponse) :=
  tryCatch (do
    let provider ← PaymentProviderRegistry.get config providerId
    some <$> provider.verifyPayment config paymentReference
      { expectedAmount := some (some (money order.sourceAmount)) }) fun _ => pure none

/-- A payment is asked about under its reference, or under the key of its order if it has none. -/
theorem reference_or_key {payment : Payment} {order : Order} {name : String}
    (chosen : name = ((truthy (some payment.reference)).or (truthy order.idempotencyKey)).getD "")
    (named : name ≠ "")
    : payment.reference = name
      ∨ (payment.reference = "" ∧ order.idempotencyKey = some name) := by
  by_cases referenced : payment.reference = ""
  · have absent : truthy (some payment.reference) = none := by
      simp [truthy, referenced]
    rw [absent, Option.none_or] at chosen
    cases keyed : truthy order.idempotencyKey with
    | none => exact absurd (by simp [chosen, keyed]) named
    | some key =>
        refine Or.inr ⟨referenced, ?_⟩
        rw [of_truthy keyed, chosen, keyed]
        rfl
  · have present : truthy (some payment.reference) = some payment.reference := by
      simp [truthy, referenced]
    exact Or.inl (by rw [chosen, present]; rfl)

/-- Which payment and which refund are found is observed. -/
def reconcileInTx (config : Config) (tx : TxId) (orderId : Id)
    : Service ReconciliationAction := do
  selectForUpdate tx (.order orderId)
  match ← findUnique (some tx) (.order orderId) with
  | none => pure .SKIPPED
  | some order =>
      let payment ← findFirst (some tx) (paymentsOf orderId)
      let refund ← findFirst (some tx) (refundsOf orderId)
      emit fun t => .paymentPicked t orderId (payment.map Prod.fst) (refund.map Prod.fst)
      let paymentReference := ((truthy (payment.map fun payment => payment.2.reference)).or
        (truthy order.idempotencyKey)).getD ""
      if paymentReference = "" then
        pure .SKIPPED
      else if reconcilable order.status = false then
        pure .SKIPPED
      else if refund.any fun refund => refund.2.status.isActive then
        pure .SKIPPED
      else
        let reservation ← findUnique (some tx) (.liquidityReservation orderId)
        if reservation.any released then
          pure .SKIPPED
        else
          match ← askProvider config (verifyingProvider config payment) paymentReference order with
          | none => pure .DEFERRED
          | some response =>
              applyVerdict config tx orderId order payment paymentReference response

def reconcileSinglePaymentOrder (config : Config) (orderId : Id)
    : Service ReconciliationAction :=
  transaction fun tx => reconcileInTx config tx orderId

/-- The part of `processPaymentReconciliation` inside its `try`. -/
def paymentSweep (config : Config) (batchSize minPendingAgeMinutes : Nat) : Service Unit := do
  let time ← now
  let pendingPayments ← select none fun rows =>
    firstBy (fun found => found.2.createdAt) batchSize
      ((allPayments rows).filter fun found =>
        found.2.status = .PENDING
          ∧ found.2.createdAt + minPendingAgeMinutes * 60 * 1000 ≤ time)
  pendingPayments.forM fun found =>
    tryCatch (do
      let _ ← reconcileSinglePaymentOrder config found.2.orderId) fun _ => pure ()

def processPaymentReconciliation (config : Config) (batchSize : Nat := 10)
    (minPendingAgeMinutes : Nat := 5) : Service Unit := do
  let sweepLock ← DistributedLockService.acquire config "lock:worker:payment-reconciliation"
  if sweepLock.isNone ∧ config.requiresLocks then
    pure ()
  else
    finally' (paymentSweep config batchSize minPendingAgeMinutes)
      (DistributedLock.release sweepLock)

end ReconciliationDaemon

end LuminaRail
