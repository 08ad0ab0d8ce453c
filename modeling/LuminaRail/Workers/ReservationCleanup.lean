import LuminaRail.Model.Queries
import LuminaRail.Services.DistributedLock
import LuminaRail.Services.Liquidity

/-! `ReservationCleanupWorker`: releasing the reservations that have run out. -/

namespace LuminaRail

open Service

namespace ReservationCleanupWorker

/-- The statuses of orders that expire with their reservation. -/
def expires (status : OrderStatus) : Bool := status = .CREATED || status = .AWAITING_PAYMENT

/-- A check that lets an order expire is observed. -/
def processSingleReservation (orderId : Id) : Service Unit := do
  match ← findUnique none (.liquidityReservation orderId) with
  | none => pure ()
  | some reservation =>
      if reservation.status ≠ .RESERVED then
        pure ()
      else
        match ← LiquidityService.expireReservation orderId with
        | none => pure ()
        | some _ =>
            match ← findUnique none (.order orderId) with
            | none => pure ()
            | some targetOrder =>
                if expires targetOrder.status then
                  emit fun t => .orderChecked t orderId targetOrder.status .EXPIRED
                  let _ ← update none (.order orderId) fun row => { row with status := .EXPIRED }

/-- The part of `processExpiredReservations` inside its `try`. -/
def sweep (batchSize : Nat) : Service Unit := do
  let time ← now
  let expiredReservations ← select none fun rows =>
    firstBy (fun found => found.2.expiresAt) batchSize
      ((reservationsIn .RESERVED rows).filter fun found => found.2.expiresAt ≤ time)
  expiredReservations.forM fun found => processSingleReservation found.1

def processExpiredReservations (config : Config) (batchSize : Nat := 20) : Service Unit := do
  let sweepLock ← DistributedLockService.acquire config "lock:worker:reservation-cleanup"
  if sweepLock.isNone ∧ config.requiresLocks then
    pure ()
  else
    finally' (sweep batchSize) (DistributedLock.release sweepLock)

end ReservationCleanupWorker

end LuminaRail
