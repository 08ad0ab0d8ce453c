import LuminaRail.Services.OrderFootprints
import LuminaRail.Services.PaymentFootprints
import LuminaRail.Workers.PaymentReconciliation
import LuminaRail.Workers.ReservationCleanup
import LuminaRail.Workers.SettlementReconciliation

/-! The footprints of the two sides of the reconciliation and of the cleanup of reservations. -/

namespace LuminaRail

open Concurrency Database Service

variable {footprint : Footprint} {t : Tid}

-----------------------------------------------------------------------------------------
-- Payment reconciliation
-----------------------------------------------------------------------------------------

/-- A verdict settles a payment one way or the other, whatever its status, together with its order
and its reservation, if it may be settled so.
-/
structure Footprint.AllowsVerdicts (footprint : Footprint)
    (settles : Id → PaymentStatus → Prop := fun _ _ => True) : Prop extends
    footprint.AllowsLiquidity where
  payment : ∀ id (row new : Payment), settles id new.status → new.orderId = row.orderId
    → new.provider = row.provider → new.status = .SUCCEEDED ∨ new.status = .FAILED
    → footprint.writes (.payment id) (some row) new
  order : ∀ id (row : Order) (status : OrderStatus),
    status = .PAYMENT_CONFIRMED ∨ status = .FAILED
    → footprint.writes (.order id) (some row) { row with status := status }
  settlement : ∀ orderId (new : Settlement), new.status = .PENDING
    → footprint.writes (.settlement orderId) none new
  settlementNumber : ∀ number id, footprint.writes (.settlementNumber number) none id

/-- Reconciling a payment asks for a verdict on the one that is found first. -/
structure Footprint.AllowsPaymentReconciliation (footprint : Footprint) (t : Tid)
    (settles : Id → PaymentStatus → Prop := fun _ _ => True) : Prop extends
    footprint.AllowsVerdicts settles where
  reports : footprint.Reports t
  picked : ∀ orderId payment refund, footprint.events (.paymentPicked t orderId payment refund)

namespace ReconciliationDaemon

section

variable {settles : Id → PaymentStatus → Prop} {tx : TxId} (own : tx.owner = t)
include own

/-- A payment is written where there is one. -/
theorem within_updatePayment {payment : Option (Id × Payment)} {data : Payment → Payment}
    (replaces : ∀ found ∈ payment, ∀ row : Payment,
      footprint.writes (.payment found.1) (some row) (data row))
    : Within (Step footprint t) t (updatePayment tx payment data) := by
  cases payment with
  | none => exact Within.pure trivial
  | some payment =>
      exact Within.bind (within_updateIn own fun row => by exact replaces payment rfl row)
        fun _ _ => Within.pure trivial

variable (allows : footprint.AllowsVerdicts settles)
include allows

/-- A failed payment is marked together with its order and reservation. -/
theorem within_markPaymentFailed (orderId : Id) {payment : Option (Id × Payment)}
    (may : ∀ found ∈ payment, settles found.1 .FAILED)
    : Within (Step footprint t) t (markPaymentFailed tx orderId payment) := by
  refine Within.bind (within_updateIn own fun row => by
    exact allows.order _ row _ (Or.inr rfl)) fun _ _ => ?_
  refine Within.bind (within_updatePayment own fun found member row =>
    allows.payment _ row _ (may found member) rfl rfl (Or.inr rfl)) fun _ _ => ?_
  refine Within.bind (within_releaseReservationInTx allows.toAllowsLiquidity own orderId _)
    fun _ _ => ?_
  exact Within.pure trivial

/-- A confirmed payment is marked together with its order and reservation. -/
theorem within_confirmPayment (config : Config) (orderId : Id) (order : Order)
    {payment : Option (Id × Payment)} (may : ∀ found ∈ payment, settles found.1 .SUCCEEDED)
    (paymentReference : String) (response : NormalizedPaymentResponse)
    : Within (Step footprint t) t
        (confirmPayment config tx orderId order payment paymentReference response) := by
  refine Within.bind (within_updatePayment own fun found member row =>
    allows.payment _ row _ (may found member) rfl rfl (Or.inl rfl)) fun _ _ => ?_
  refine Within.bind (within_updateIn own fun row => by
    exact allows.order _ row _ (Or.inl rfl)) fun _ _ => ?_
  refine Within.bind (within_confirmReservationInTx allows.toAllowsLiquidity own orderId)
    fun _ _ => ?_
  refine Within.bind within_findUnique fun found _ => ?_
  cases found with
  | some settlement => exact Within.pure trivial
  | none =>
      refine Within.bind within_now fun time _ => Within.bind within_randomText fun suffix _ => ?_
      refine Within.bind (Q := fun _ => True)
        (within_create (by simpa using own) (fun entry member => ?_) trivial) fun _ _ => ?_
      · simp only [List.mem_cons, List.not_mem_nil, or_false] at member
        rcases member with rfl | rfl
        · exact allows.settlement _ _ rfl
        · exact allows.settlementNumber _ _
      · exact Within.pure trivial

/-- A verdict writes what the footprint allows for its status, by cases on the answer. -/
theorem within_applyVerdict (config : Config) (orderId : Id) (order : Order)
    {payment : Option (Id × Payment)} (may : ∀ found ∈ payment, ∀ status, settles found.1 status)
    (paymentReference : String) (response : NormalizedPaymentResponse)
    : Within (Step footprint t) t
        (applyVerdict config tx orderId order payment paymentReference response) := by
  unfold applyVerdict
  cases response.status with
  | SUCCEEDED =>
      dsimp only
      split
      · exact within_confirmPayment own allows config orderId order (fun _ found => may _ found _) _
          response
      · exact within_markPaymentFailed own allows orderId fun _ found => may _ found _
  | FAILED => exact within_markPaymentFailed own allows orderId fun _ found => may _ found _
  | _ => exact Within.pure trivial

end

section

variable {settles : Id → PaymentStatus → Prop}

/-- A question to the provider appends the events of its answer. -/
theorem within_askProvider (reports : footprint.Reports t) (config : Config)
    (providerId paymentReference : String) (order : Order)
    : Within (Step footprint t) t (askProvider config providerId paymentReference order) := by
  refine Within.tryCatch ?_ fun _ => Within.pure trivial
  refine Within.bind (within_get config providerId) fun provider _ => Within.map ?_
  exact within_providerVerifyPayment reports config _ _ provider

variable (allows : footprint.AllowsPaymentReconciliation t settles)
include allows

/-- The transaction of a reconciliation reads, asks and applies the verdict. -/
theorem within_reconcileInTx {tx : TxId} (own : tx.owner = t)
    (free : ∀ id status, settles id status) (config : Config) (orderId : Id)
    : Within (Step footprint t) t (reconcileInTx config tx orderId) := by
  refine Within.bind (within_selectForUpdate own) fun _ _ => ?_
  refine Within.bind within_findUnique fun found _ => ?_
  cases found with
  | none => exact Within.pure trivial
  | some order =>
      refine Within.bind (Q := fun _ => True)
        (within_findFirst (R := fun _ => True) (by simp)).forget fun payment _ => ?_
      refine Within.bind (Q := fun _ => True)
        (within_findFirst (R := fun _ => True) (by simp)).forget fun refund _ => ?_
      refine Within.bind (within_emit (allows.picked _ _ _)) fun _ _ => ?_
      dsimp only
      split
      · exact Within.pure trivial
      split
      · exact Within.pure trivial
      split
      · exact Within.pure trivial
      refine Within.bind within_findUnique fun reservation _ => ?_
      split
      · exact Within.pure trivial
      refine Within.bind (within_askProvider allows.reports config _ _ order) fun response _ => ?_
      cases response with
      | none => exact Within.pure trivial
      | some response =>
          exact within_applyVerdict own allows.toAllowsVerdicts config orderId order
            (fun _ _ => free _) _ response

end

/-- An order is reconciled in one transaction. -/
theorem within_reconcileSinglePaymentOrder (allows : footprint.AllowsPaymentReconciliation t)
    (config : Config) (orderId : Id)
    : Within (Step footprint t) t (reconcileSinglePaymentOrder config orderId) :=
  within_transaction fun _ own => within_reconcileInTx allows own (fun _ _ => trivial) config orderId

end ReconciliationDaemon

-----------------------------------------------------------------------------------------
-- Settlement reconciliation
-----------------------------------------------------------------------------------------

/-- Reconciling a settlement asks the network about it; giving it up fails its order. -/
structure Footprint.AllowsSettlementReconciliation (footprint : Footprint) (t : Tid) (orderId : Id)
    : Prop extends footprint.AllowsSettlements t orderId where
  answered : ∀ transactionHash status, footprint.events (.statusAnswered transactionHash status)
  failed : ∀ row : Order,
    footprint.writes (.order orderId) (some row) { row with status := .FAILED }

/-- A question to the network appends its answer. -/
theorem within_getTransactionStatus
    (answered : ∀ transactionHash status, footprint.events (.statusAnswered transactionHash status))
    (config : Config) (txHash : String)
    : Within (Step footprint t) t
        (SorobanConfirmationService.getTransactionStatus config txHash) := by
  unfold SorobanConfirmationService.getTransactionStatus
  split
  · exact Within.pure trivial
  · refine within_external fun input result events given => ?_
    split at given
    · obtain ⟨rfl, rfl⟩ := Prod.mk.inj (Option.some.inj given)
      exact ⟨nofun, trivial⟩
    · split at given
      · obtain ⟨rfl, rfl⟩ := Prod.mk.inj (Option.some.inj given)
        exact ⟨by simp [answered], trivial⟩
      · obtain ⟨rfl, rfl⟩ := Prod.mk.inj (Option.some.inj given)
        exact ⟨by simp [answered], trivial⟩
      · obtain ⟨rfl, rfl⟩ := Prod.mk.inj (Option.some.inj given)
        exact ⟨by simp [answered], trivial⟩
      · simp at given

namespace ReconciliationDaemon

section

variable {orderId : Id} (allows : footprint.AllowsSettlementReconciliation t orderId)
include allows

/-- A settlement that is given up is marked together with its order and reservation. -/
theorem within_giveUpSettlement (reason : String)
    : Within (Step footprint t) t (giveUpSettlement orderId reason) := by
  refine Within.bind (within_markFailed allows.toAllowsSettlements reason) fun failed _ => ?_
  refine Within.bind (within_releaseReservation allows.toAllowsLiquidity orderId _) fun _ _ => ?_
  refine Within.bind (within_updateNow fun row => by exact allows.failed row) fun _ _ => ?_
  exact Within.pure trivial

/-- A settlement is reconciled by cases on the network's answer. -/
theorem within_reconcileSingleSettlement (config : Config) (maxStaleAgeHours : Nat)
    : Within (Step footprint t) t (reconcileSingleSettlement config orderId maxStaleAgeHours) := by
  refine Within.bind within_findUnique fun found _ => ?_
  cases found with
  | none => exact Within.throw _
  | some settlement =>
      dsimp only
      split
      · refine Within.bind within_now fun time _ => ?_
        split
        · exact within_giveUpSettlement allows _
        · exact Within.bind (within_markRequiresReconciliation allows.toAllowsSettlements _)
            fun _ _ => Within.pure trivial
      · refine Within.bind (within_getTransactionStatus allows.answered config _) fun result _ => ?_
        split
        · exact Within.bind (within_markCompleted allows.toAllowsSettlements _)
            fun _ _ => Within.pure trivial
        · exact within_giveUpSettlement allows _
        · refine Within.bind within_now fun time _ => ?_
          split
          · exact within_giveUpSettlement allows _
          · exact Within.pure trivial

end

/-- A sweep reconciles its settlements one after another, by the rule for loops. -/
theorem within_processReconciliation
    (allows : ∀ orderId, footprint.AllowsSettlementReconciliation t orderId) (config : Config)
    (batchSize maxStaleAgeHours : Nat)
    : Within (Step footprint t) t (processReconciliation config batchSize maxStaleAgeHours) := by
  refine Within.bind (within_acquire config _) fun lock own => ?_
  split
  · exact Within.pure trivial
  · refine within_finally' ?_ (within_releaseAny own)
    refine Within.bind (within_select (Q := fun _ => True) fun _ => trivial) fun found _ => ?_
    refine Within.forM fun settlement _ => Within.tryCatch ?_ fun _ => Within.pure trivial
    exact Within.bind (within_reconcileSingleSettlement (allows _) config _) fun _ _ =>
      Within.pure trivial

end ReconciliationDaemon

-----------------------------------------------------------------------------------------
-- Reservations
-----------------------------------------------------------------------------------------

/-- Cleaning up a reservation also expires its order. -/
structure Footprint.AllowsCleanup (footprint : Footprint) (t : Tid) : Prop extends
    footprint.AllowsLiquidity where
  checked : ∀ orderId status, ReservationCleanupWorker.expires status = true
    → footprint.events (.orderChecked t orderId status .EXPIRED)
  order : ∀ id (row : Order),
    footprint.writes (.order id) (some row) { row with status := .EXPIRED }

namespace ReservationCleanupWorker

section

variable (allows : footprint.AllowsCleanup t)
include allows

/-- An expired reservation is released together with its order. -/
theorem within_processSingleReservation (orderId : Id)
    : Within (Step footprint t) t (processSingleReservation orderId) := by
  refine Within.bind within_findUnique fun found _ => ?_
  cases found with
  | none => exact Within.pure trivial
  | some reservation =>
      dsimp only
      split
      · exact Within.pure trivial
      refine Within.bind (Q := fun _ => True)
        (within_releaseReservation allows.toAllowsLiquidity orderId _) fun expired _ => ?_
      cases expired with
      | none => exact Within.pure trivial
      | some _ =>
          refine Within.bind within_findUnique fun order _ => ?_
          cases order with
          | none => exact Within.pure trivial
          | some order =>
              dsimp only
              split
              · rename_i expiring
                refine Within.bind (within_emit (allows.checked _ _ expiring)) fun _ _ => ?_
                refine Within.bind (within_updateNow fun row => by exact allows.order _ row)
                  fun _ _ => ?_
                exact Within.pure trivial
              · exact Within.pure trivial

/-- A sweep releases its reservations one after another, by the rule for loops. -/
theorem within_processExpiredReservations (config : Config) (batchSize : Nat)
    : Within (Step footprint t) t (processExpiredReservations config batchSize) := by
  refine Within.bind (within_acquire config _) fun lock own => ?_
  split
  · exact Within.pure trivial
  · refine within_finally' ?_ (within_releaseAny own)
    refine Within.bind within_now fun time _ => ?_
    refine Within.bind (within_select (Q := fun _ => True) fun _ => trivial) fun expired _ => ?_
    exact Within.forM fun found _ => within_processSingleReservation allows found.1

end

end ReservationCleanupWorker

end LuminaRail
