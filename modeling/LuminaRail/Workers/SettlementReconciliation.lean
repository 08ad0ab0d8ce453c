import LuminaRail.Services.Settlements
import LuminaRail.Stellar.Transactions

/-! The settlement side of `ReconciliationDaemon`: what has become of the settlements that are
under way, with the network as the source of truth.
-/

namespace LuminaRail

open Database Service

namespace ReconciliationDaemon

/-- A settlement that is given up, with its reservation and its order. -/
def giveUpSettlement (orderId : Id) (reason : String) : Service SettlementStatus := do
  let failed ← SettlementService.markFailed orderId reason
  let _ ← LiquidityService.releaseReservation orderId .CANCELLED_RELEASED
  let _ ← update none (.order orderId) fun row => { row with status := .FAILED }
  pure failed.status

/-- Case 1: no transaction hash is stored. -/
def reconcileUnsent (orderId : Id) (settlement : Settlement) (maxStaleAgeHours : Nat)
    : Service SettlementStatus := do
  let time ← now
  if settlement.createdAt + maxStaleAgeHours * 60 * 60 * 1000 < time then
    giveUpSettlement orderId "Settlement expired in SUBMITTING state without transaction hash."
  else
    let recon ← SettlementService.markRequiresReconciliation orderId
      "Settlement left in SUBMITTING state without transaction hash post-worker crash."
    pure recon.status

/-- Cases 2 and 3: the network is asked about the stored transaction. -/
def reconcileSent (config : Config) (orderId : Id) (settlement : Settlement)
    (transactionHash : String) (maxStaleAgeHours : Nat) : Service SettlementStatus := do
  let statusResult ← SorobanConfirmationService.getTransactionStatus config transactionHash
  match statusResult.status with
  | .SUCCESS =>
      let completed ← SettlementService.markCompleted orderId (statusResult.ledger.getD 0)
      pure completed.status
  | .FAILED =>
      giveUpSettlement orderId
        ((truthy statusResult.error).getD "On-chain transaction execution failed.")
  | .NOT_FOUND =>
      let time ← now
      if settlement.createdAt + maxStaleAgeHours * 60 * 60 * 1000 < time then
        giveUpSettlement orderId "Transaction not found on Stellar network after timeout."
      else
        pure settlement.status

def reconcileSingleSettlement (config : Config) (orderId : Id) (maxStaleAgeHours : Nat := 24)
    : Service SettlementStatus := do
  match ← findUnique none (.settlement orderId) with
  | none => throw ⟨s!"Settlement with ID {orderId} not found.", 500, ""⟩
  | some settlement =>
      match truthy settlement.stellarTransactionHash with
      | none => reconcileUnsent orderId settlement maxStaleAgeHours
      | some transactionHash =>
          reconcileSent config orderId settlement transactionHash maxStaleAgeHours

/-- A settlement that the daemon looks after. -/
def underWay (status : SettlementStatus) : Bool :=
  status = .SUBMITTING || status = .SUBMITTED || status = .CONFIRMING
    || status = .REQUIRES_RECONCILIATION

/-- The part of `processReconciliation` inside its `try`. -/
def settlementSweep (config : Config) (batchSize maxStaleAgeHours : Nat) : Service Unit := do
  let pendingReconciliation ← select none fun rows =>
    firstBy (fun found => found.2.updatedAt) batchSize
      ((allSettlements rows).filter fun found => underWay found.2.status)
  pendingReconciliation.forM fun found =>
    tryCatch (do
      let _ ← reconcileSingleSettlement config found.1 maxStaleAgeHours) fun _ => pure ()

def processReconciliation (config : Config) (batchSize : Nat := 10)
    (maxStaleAgeHours : Nat := 24) : Service Unit := do
  let sweepLock ← DistributedLockService.acquire config "lock:worker:reconciliation-daemon"
  if sweepLock.isNone ∧ config.requiresLocks then
    pure ()
  else
    finally' (settlementSweep config batchSize maxStaleAgeHours)
      (DistributedLock.release sweepLock)

end ReconciliationDaemon

end LuminaRail
