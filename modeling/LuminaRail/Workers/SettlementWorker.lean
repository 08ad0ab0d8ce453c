import LuminaRail.Services.Settlements
import LuminaRail.Stellar.Transactions

/-! `SettlementWorker`: settling the orders that have been paid. When a submission starts, when it
returns and when the flow around it has ended is observed.
-/

namespace LuminaRail

open Database Service

namespace SettlementWorker

/-- `SettlementStateMachineCanTransition(from, FAILED)`. -/
def mayFail (status : SettlementStatus) : Bool :=
  status = .FAILED || status = .PENDING || status = .SUBMITTING

/-- The texts of errors after which a submission is given up. -/
def isConclusive (error : String) : Bool :=
  includes error "simulation" || includes error "config" || includes error "Invalid"

/-- What the executor is asked to submit for a settlement. -/
def submissionParams (orderId : Id) (current : Settlement) (lock : DistributedLock)
    : SubmitSettlementParams :=
  { settlementId := current.settlementId
    orderId := orderId
    source := current.source.getD ""
    destination := current.destination.getD ""
    amount := (money current.amount).toString
    asset := current.asset
    contractAddress := current.contractAddress
    parentLock := some lock }

/-- The submission of a settlement and its first move afterwards, `none` if it was not sent. -/
def submit (sdk : StellarSdk) (config : Config) (orderId : Id) (current : Settlement)
    (lock : DistributedLock) : Service (Settlement × Bool) := do
  DistributedLock.throwIfLost (some lock)
    ⟨s!"Distributed lock lost for settlement {orderId} before submission.", 500, ""⟩
  emit fun t => .submissionStarted t orderId
  let submission ← LiveSettlementExecutor.submitSettlement sdk config
    (submissionParams orderId current lock)
  emit fun t => .submissionReturned t orderId submission.transactionHash
  match submission.submitted, truthy submission.transactionHash with
  | true, some transactionHash =>
      let submitted ← SettlementService.markSubmitted orderId transactionHash
      pure (submitted, true)
  | _, _ =>
      let error := (truthy submission.error).getD "Settlement submission failed"
      let given ←
        if isConclusive error then SettlementService.markFailed orderId error
        else SettlementService.markRequiresReconciliation orderId error
      pure (given, false)

/-- Steps 2 and 3 of `executeSettlementFlow`. -/
def confirm (config : Config) (orderId : Id) (current : Settlement)
    : Service SettlementStatus := do
  let current ←
    if current.status = .SUBMITTED then SettlementService.markConfirming orderId
    else pure current
  match current.status, truthy current.stellarTransactionHash with
  | .CONFIRMING, some transactionHash =>
      let confirmation ← SorobanConfirmationService.confirmTransaction config transactionHash
      match confirmation.confirmed, confirmation.ledger with
      | true, some ledger =>
          let completed ← SettlementService.markCompleted orderId ledger
          pure completed.status
      | _, _ =>
          let recon ← SettlementService.markRequiresReconciliation orderId
            ((truthy confirmation.error).getD "Settlement confirmation failed")
          pure recon.status
  | _, _ => pure current.status

def executeSettlementFlow (sdk : StellarSdk) (config : Config) (orderId : Id)
    (settlement : Settlement) (lock : DistributedLock) : Service SettlementStatus := do
  match ← findUnique none (.settlement orderId) with
  | none => pure settlement.status
  | some fresh =>
      if (truthy fresh.stellarTransactionHash).isSome then
        confirm config orderId fresh
      else
        let (current, sent) ← submit sdk config orderId fresh lock
        if sent then confirm config orderId current else pure current.status

/-- The part of `processSingleOrder` under the lock of the settlement. -/
def processLocked (sdk : StellarSdk) (config : Config) (orderId : Id) (settlement : Settlement)
    (stopAtSubmitting : Bool) (lock : DistributedLock) : Service SettlementStatus := do
  let currentSettlement := (← findUnique none (.settlement orderId)).getD settlement
  match currentSettlement.status with
  | .PENDING =>
      let submitting ← SettlementService.markSubmitting orderId
      if stopAtSubmitting then pure submitting.status
      else executeSettlementFlow sdk config orderId submitting lock
  | .SUBMITTING | .SUBMITTED | .CONFIRMING =>
      if stopAtSubmitting then pure currentSettlement.status
      else executeSettlementFlow sdk config orderId currentSettlement lock
  | status => pure status

/-- The lock of a settlement, polled for if it is taken. -/
def acquireSettlementLock (config : Config) (key : String)
    : Service (Option DistributedLock) := do
  match ← DistributedLockService.acquire config key with
  | some lock => pure (some lock)
  | none => DistributedLockService.poll config key (← attempts)

def processSingleOrder (sdk : StellarSdk) (config : Config) (orderId : Id)
    (stopAtSubmitting : Bool := false) : Service SettlementStatus := do
  let (settlement, _) ← SettlementService.createSettlementForOrder config orderId
  match ← acquireSettlementLock config s!"lock:settlement:{orderId}" with
  | none =>
      throwIf config.requiresLocks
        ⟨s!"Could not acquire distributed settlement lock for {orderId}", 500, ""⟩
      let current ← findUnique none (.settlement orderId)
      pure ((current.map Settlement.status).getD settlement.status)
  | some lock =>
      finally' (processLocked sdk config orderId settlement stopAtSubmitting lock) do
        DistributedLock.release (some lock)
        emit fun t => .flowEnded t orderId

/-- What the sweep does about an order that could not be processed. -/
def giveUp (orderId : Id) (error : AppError) : Service Unit := do
  match ← findUnique none (.settlement orderId) with
  | some existing =>
      if mayFail existing.status then
        let _ ← SettlementService.markFailed orderId error.message
      else
        pure ()
  | none => pure ()

/-- The orders with a wallet that are paid and have no settlement, or one that is PENDING. -/
def eligible (rows : AList Row) : List (Id × Order) :=
  (ordersIn .SETTLEMENT_PENDING rows).filter fun found =>
    found.2.walletAddress.isSome
      && (rows.lookup (.settlement found.1)).all fun (settlement : Settlement) =>
        settlement.status = .PENDING

/-- The part of `processPendingOrders` inside its `try`. -/
def sweep (sdk : StellarSdk) (config : Config) (batchSize : Nat) (stopAtSubmitting : Bool)
    : Service Unit := do
  let eligibleOrders ← select none fun rows =>
    firstBy (fun found => found.2.createdAt) batchSize (eligible rows)
  eligibleOrders.forM fun found =>
    tryCatch (do
      let _ ← processSingleOrder sdk config found.1 stopAtSubmitting) fun error =>
        giveUp found.1 error

def processPendingOrders (sdk : StellarSdk) (config : Config) (batchSize : Nat := 10)
    (stopAtSubmitting : Bool := false) : Service Unit := do
  if config.treasury.emergencyGlobalPause then
    pure ()
  else
    let sweepLock ← DistributedLockService.acquire config "lock:worker:settlement-sweep"
    if sweepLock.isNone ∧ config.requiresLocks then
      pure ()
    else
      finally' (sweep sdk config batchSize stopAtSubmitting) (DistributedLock.release sweepLock)

end SettlementWorker

end LuminaRail
