import LuminaRail.Model.Rules

/-! `LiquidityService`: reserving, confirming, consuming and releasing the liquidity of a pool.
Balances are computed from rows read before and written back as absolute values.
-/

namespace LuminaRail

open Concurrency Database

/-- The amount is a finite decimal of at most 7 places. -/
structure ReserveLiquidityParams where
  poolId : Id
  orderId : Id
  amount : Int
  expiryMinutes : Option Nat := none
deriving DecidableEq

namespace LiquidityService

open Service

def reserveForOrderInTx (tx : TxId) (params : ReserveLiquidityParams)
    : Service LiquidityReservation := do
  throwIf (params.amount ≤ 0) (.badRequest "Reservation amount must be a positive number")
  selectForUpdate tx (.liquidityPool params.poolId)
  match ← findUnique (some tx) (.liquidityPool params.poolId) with
  | none => throw (.notFound "Liquidity pool not found.")
  | some pool =>
      let currentAvailable := pool.totalBalance - pool.reservedBalance
      throwIf (currentAvailable < params.amount)
        (.badRequest "Insufficient liquidity in pool to satisfy request")
      let newReserved := pool.reservedBalance + params.amount
      let newAvailable := pool.totalBalance - newReserved
      throwIf (newAvailable < 0 ∨ pool.totalBalance < newReserved)
        (.badRequest "Insufficient liquidity in pool to satisfy request")
      let _ ← update (some tx) (.liquidityPool params.poolId) fun row =>
        { row with reservedBalance := newReserved, availableBalance := newAvailable }
      let time ← now
      let expiryMinutes := (params.expiryMinutes.filter (· ≠ 0)).getD 15
      create (some tx) (.liquidityReservation params.orderId)
        { poolId := params.poolId
          amount := params.amount
          status := .RESERVED
          expiresAt := time + expiryMinutes * 60 * 1000 }

def confirmReservationInTx (tx : TxId) (orderId : Id)
    : Service (Option LiquidityReservation) := do
  match ← findUnique (some tx) (.liquidityReservation orderId) with
  | none => pure none
  | some reservation =>
      if reservation.status = .CONFIRMED ∨ reservation.status = .CONSUMED then
        pure (some reservation)
      else if reservation.status ≠ .RESERVED then
        pure (some reservation)
      else
        some <$> update (some tx) (.liquidityReservation orderId) fun row =>
          { row with status := .CONFIRMED }

def confirmReservation (orderId : Id) : Service (Option LiquidityReservation) :=
  transaction fun tx => confirmReservationInTx tx orderId

/-- The pool after consuming an amount: neither balance falls below zero. -/
def consumed (pool : LiquidityPool) (amount : Int) : LiquidityPool :=
  let newTotal := pool.totalBalance - amount
  let newReserved := pool.reservedBalance - amount
  let safeTotal := if newTotal < 0 then 0 else newTotal
  let safeReserved := if newReserved < 0 then 0 else newReserved
  { totalBalance := safeTotal
    reservedBalance := safeReserved
    availableBalance := safeTotal - safeReserved }

def consumeReservationInTx (tx : TxId) (orderId : Id) (externalRef stellarTxHash : Option String)
    : Service (Option LiquidityReservation) := do
  match ← findUnique (some tx) (.liquidityReservation orderId) with
  | none => pure none
  | some reservation =>
      if reservation.status = .CONSUMED then
        pure (some reservation)
      else if reservation.status = .EXPIRED_RELEASED
          ∨ reservation.status = .CANCELLED_RELEASED then
        pure (some reservation)
      else
        selectForUpdate tx (.liquidityPool reservation.poolId)
        let pool ← findUniqueOrThrow (some tx) (.liquidityPool reservation.poolId)
        let updated := consumed pool reservation.amount
        let _ ← update (some tx) (.liquidityPool reservation.poolId) fun row =>
          { row with
            totalBalance := updated.totalBalance
            reservedBalance := updated.reservedBalance
            availableBalance := updated.availableBalance }
        let updatedReservation ← update (some tx) (.liquidityReservation orderId) fun row =>
          { row with status := .CONSUMED }
        let id ← randomText
        let time ← now
        let _ ← create (some tx) (.treasuryTransaction id)
          { poolId := reservation.poolId
            type := .SETTLEMENT_PAYOUT
            amount := reservation.amount
            stellarTxHash := truthy stellarTxHash
            externalRef := some ((truthy externalRef).getD orderId)
            createdAt := time }
        pure (some updatedReservation)

def consumeReservation (orderId : Id) (externalRef stellarTxHash : Option String := none)
    : Service (Option LiquidityReservation) :=
  transaction fun tx => consumeReservationInTx tx orderId externalRef stellarTxHash

/-- The pool after releasing an amount: the reserved balance does not fall below zero. -/
def released (pool : LiquidityPool) (amount : Int) : LiquidityPool :=
  let newReserved := pool.reservedBalance - amount
  let safeReserved := if newReserved < 0 then 0 else newReserved
  { pool with
    reservedBalance := safeReserved
    availableBalance := pool.totalBalance - safeReserved }

def releaseReservationInTx (tx : TxId) (orderId : Id)
    (targetStatus : LiquidityReservationStatus := .CANCELLED_RELEASED)
    : Service (Option LiquidityReservation) := do
  match ← findUnique (some tx) (.liquidityReservation orderId) with
  | none => pure none
  | some reservation =>
      if reservation.status = .CONSUMED ∨ reservation.status = .EXPIRED_RELEASED
          ∨ reservation.status = .CANCELLED_RELEASED then
        pure (some reservation)
      else
        selectForUpdate tx (.liquidityPool reservation.poolId)
        let pool ← findUniqueOrThrow (some tx) (.liquidityPool reservation.poolId)
        let updated := released pool reservation.amount
        let _ ← update (some tx) (.liquidityPool reservation.poolId) fun row =>
          { row with
            reservedBalance := updated.reservedBalance
            availableBalance := updated.availableBalance }
        some <$> update (some tx) (.liquidityReservation orderId) fun row =>
          { row with status := targetStatus }

def releaseReservation (orderId : Id)
    (targetStatus : LiquidityReservationStatus := .CANCELLED_RELEASED)
    : Service (Option LiquidityReservation) :=
  transaction fun tx => releaseReservationInTx tx orderId targetStatus

def expireReservation (orderId : Id) : Service (Option LiquidityReservation) :=
  releaseReservation orderId .EXPIRED_RELEASED

/-- The total balance after recording a treasury transaction. -/
def adjustedTotal (pool : LiquidityPool) (type : TreasuryTransactionType) (amount : Int)
    : Int :=
  match type with
  | .REPLENISHMENT | .MANUAL_ADJUSTMENT | .FEE_COLLECTION => pool.totalBalance + amount
  | .SETTLEMENT_PAYOUT => pool.totalBalance - amount

def recordTreasuryTransactionInTx (tx : TxId) (poolId : Id) (type : TreasuryTransactionType)
    (amount : Int) (externalRef stellarTxHash : Option String)
    : Service TreasuryTransaction := do
  selectForUpdate tx (.liquidityPool poolId)
  let pool ← findUniqueOrThrow (some tx) (.liquidityPool poolId)
  let newTotal := adjustedTotal pool type amount
  throwIf (type = .SETTLEMENT_PAYOUT ∧ newTotal < 0)
    (.badRequest "Insufficient total balance for payout adjustment")
  let newAvailable := newTotal - pool.reservedBalance
  throwIf (newAvailable < 0)
    (.badRequest "Adjustment would result in negative available balance")
  let _ ← update (some tx) (.liquidityPool poolId) fun row =>
    { row with totalBalance := newTotal, availableBalance := newAvailable }
  let id ← randomText
  let time ← now
  create (some tx) (.treasuryTransaction id)
    { poolId := poolId
      type := type
      amount := amount
      externalRef := truthy externalRef
      stellarTxHash := truthy stellarTxHash
      createdAt := time }

def recordTreasuryTransaction (poolId : Id) (type : TreasuryTransactionType)
    (amount : Int) (externalRef stellarTxHash : Option String := none)
    : Service TreasuryTransaction := do
  throwIf (amount ≤ 0) (.badRequest "Transaction amount must be a positive number")
  transaction fun tx =>
    recordTreasuryTransactionInTx tx poolId type amount externalRef stellarTxHash

end LiquidityService

end LuminaRail
