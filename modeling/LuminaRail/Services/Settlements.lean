import LuminaRail.Model.Config
import LuminaRail.Model.Decimal
import LuminaRail.Model.Queries
import LuminaRail.Model.Text
import LuminaRail.Services.Liquidity
import LuminaRail.Services.StateMachines

/-! `SettlementService`: creating the settlement of an order and moving it from one status to
the next. Only the first of these moves compares the status it has read with the stored one.
-/

namespace LuminaRail

open Service

namespace SettlementService

def createSettlementForOrder (config : Config) (orderId : Id) : Service (Settlement × Bool) := do
  match ← findUnique none (.order orderId) with
  | none => throw (.notFound s!"Order not found: {orderId}")
  | some order =>
      match ← findUnique none (.settlement orderId) with
      | some existingSettlement => pure (existingSettlement, true)
      | none =>
          throwIf (order.status ≠ .SETTLEMENT_PENDING)
            (.invalidOrderStateForSettlement order.status.toString)
          match ← select none (activeRefund orderId) with
          | some refund =>
              throw (.invalidOrderStateForSettlement
                s!"Order {orderId} has an active or completed refund (Refund status: {refund.status}).")
          | none =>
              throwIf (isBlank order.walletAddress) (.invalidOrderStateForSettlement
                "Order does not have a destination Stellar wallet address.")
              let time ← now
              let suffix ← randomText
              let settlement : Settlement :=
                { settlementId := s!"STL_{time}_{suffix}"
                  userId := order.userId
                  status := .PENDING
                  asset := order.destinationAsset
                  amount := (stroops order.destinationAmount).stored 4
                  source := config.stellar.signerPublicKey
                  destination := truthy order.walletAddress
                  createdAt := time
                  updatedAt := time }
              tryCatch (do
                let settlement ← create none (.settlement orderId) settlement
                  [⟨.settlementNumber settlement.settlementId, orderId⟩]
                pure (settlement, false)) fun error => do
                  if error.errorCode = "P2002" then
                    match ← findUnique none (.settlement orderId) with
                    | some duplicate => pure (duplicate, true)
                    | none => throw error
                  else
                    throw error

/-- `getSettlementById` of an administrator. -/
def getSettlementById (id : Id) : Service Settlement := do
  match ← findUnique none (.settlement id) with
  | some settlement => pure settlement
  | none => throw (.settlementNotFound id)

def markSubmitting (id : Id) : Service Settlement := do
  let settlement ← getSettlementById id
  SettlementStateMachine.validateTransition settlement.status .SUBMITTING
  let time ← now
  let count ← updateMany none (.settlement id) (fun row => row.status = settlement.status)
    fun row =>
      { row with status := .SUBMITTING, attemptCount := row.attemptCount + 1, updatedAt := time }
  if count = 0 then
    match ← findUnique none (.settlement id) with
    | some current =>
        if current.status = .SUBMITTING then
          pure current
        else
          throw (.invalidSettlementState
            s!"Concurrent status modification detected for settlement {id}.")
    | none =>
        throw (.invalidSettlementState
          s!"Concurrent status modification detected for settlement {id}.")
  else
    findUniqueOrThrow none (.settlement id)

/-- Read a settlement and check that it may move on. What has been checked is recorded, as the
moves below write whatever status the settlement has by then.
-/
def checkTransition (id : Id) (target : SettlementStatus) : Service Unit := do
  let settlement ← getSettlementById id
  SettlementStateMachine.validateTransition settlement.status target
  emit fun t => .transitionChecked t id settlement.status

def mark (id : Id) (target : SettlementStatus) (data : Settlement → Settlement)
    : Service Settlement := do
  checkTransition id target
  let time ← now
  update none (.settlement id) fun row => { data row with status := target, updatedAt := time }

def markSubmitted (id : Id) (transactionHash : String) : Service Settlement := do
  checkTransition id .SUBMITTED
  let time ← now
  update none (.settlement id) fun row =>
    { row with
      status := .SUBMITTED
      stellarTransactionHash := some transactionHash
      submittedAt := some time
      updatedAt := time }

def markConfirming (id : Id) : Service Settlement := mark id .CONFIRMING fun row => row

def markCompleted (id : Id) (ledger : Nat) : Service Settlement := do
  checkTransition id .COMPLETED
  let updatedSettlement ← transaction fun tx => do
    let time ← now
    let updatedSettlement ← update (some tx) (.settlement id) fun row =>
      { row with
        status := .COMPLETED
        stellarLedger := some ledger
        confirmedAt := some time
        updatedAt := time }
    let _ ← update (some tx) (.order id) fun row => { row with status := .COMPLETED }
    pure updatedSettlement
  let _ ← LiquidityService.consumeReservation id (some updatedSettlement.settlementId)
    (truthy updatedSettlement.stellarTransactionHash)
  pure updatedSettlement

def markFailed (id : Id) (reason : String) : Service Settlement :=
  mark id .FAILED fun row => { row with lastError := some reason }

def markRequiresReconciliation (id : Id) (reason : String) : Service Settlement :=
  mark id .REQUIRES_RECONCILIATION fun row => { row with lastError := some reason }

end SettlementService

end LuminaRail
