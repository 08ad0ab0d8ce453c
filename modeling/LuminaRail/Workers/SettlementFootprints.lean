import LuminaRail.Stellar.Footprints
import LuminaRail.Workers.Footprints
import LuminaRail.Workers.SettlementWorker

/-! The footprint of the settlement worker: it sends the settlement of an order and moves it on, and
completes the order.
-/

namespace LuminaRail

open Concurrency Database Service

variable {footprint : Footprint} {t : Tid}

/-- Sending a settlement moves it on. What is observed of it is left open. -/
structure Footprint.AllowsSubmission (footprint : Footprint) (t : Tid) (orderId : Id) : Prop extends
    footprint.AllowsSettlements t orderId where
  observes : ∀ event, footprint.events event

section

variable (observes : ∀ event, footprint.events event)
include observes

namespace SorobanTransactionService

/-- A transaction is sent outside, and the database stays. -/
theorem within_sendTransaction (orderId : Id)
    : Within (Step footprint t) t (sendTransaction orderId) := by
  apply within_external
  intro input result events given
  refine ⟨fun event _ => observes event, ?_⟩
  cases result with
  | ok hash => trivial
  | error error => trivial

/-- A transaction is built, signed and sent under the lock of its account. -/
theorem within_executeUnderLock (sdk : StellarSdk) (config : Config)
    (params : SubmitSettlementParams)
    : Within (Step footprint t) t (executeUnderLock sdk config params) := by
  refine Within.bind (within_buildUnsignedSettlementTransaction sdk config params)
    fun prepared _ => ?_
  refine Within.bind (within_signTransaction sdk config prepared) fun signed _ => ?_
  refine Within.bind (within_throwIfLost _ _) fun _ _ => ?_
  exact Within.bind within_throwIf fun _ _ => within_sendTransaction observes params.orderId

/-- A submission takes the lock of the account and releases it. -/
theorem within_buildAndSubmitSettlementTransaction (sdk : StellarSdk) (config : Config)
    (params : SubmitSettlementParams)
    : Within (Step footprint t) t
        (buildAndSubmitSettlementTransaction sdk config params) := by
  refine Within.bind (within_assertProductionSettlementSafety config) fun _ _ => ?_
  refine Within.bind (within_signerPublicKey sdk config) fun publicKey _ => ?_
  refine Within.bind (within_acquireSequenceLock config _) fun lock own => ?_
  cases lock with
  | none =>
      exact Within.bind within_throwIf fun _ _ => within_executeUnderLock observes sdk config params
  | some lock =>
      refine within_finally' ?_ (within_releaseAny own)
      exact Within.bind (within_throwIfLost _ _) fun _ _ =>
        within_executeUnderLock observes sdk config params

end SorobanTransactionService

/-- The executor checks the configuration and submits. -/
theorem within_submitSettlement (sdk : StellarSdk) (config : Config)
    (params : SubmitSettlementParams)
    : Within (Step footprint t) t
        (LiveSettlementExecutor.submitSettlement sdk config params) := by
  refine Within.tryCatch ?_ fun error => Within.pure trivial
  exact Within.bind (SorobanTransactionService.within_buildAndSubmitSettlementTransaction observes
    sdk config params) fun _ _ => Within.pure trivial

/-- Waiting for a confirmation is asking again and again, by induction on the rounds that are left. -/
theorem within_confirmRounds (config : Config) (txHash : String) (rounds : Nat)
    : Within (Step footprint t) t
        (SorobanConfirmationService.confirmRounds config txHash rounds) := by
  induction rounds with
  | zero => exact Within.pure trivial
  | succ rounds ih =>
      refine Within.bind (within_getTransactionStatus (fun _ _ => observes _) config txHash)
        fun result _ => ?_
      split
      · exact Within.pure trivial
      · exact Within.pure trivial
      · exact ih

end

section

open SettlementService SettlementWorker

variable {orderId : Id} (allows : footprint.AllowsSubmission t orderId)
include allows

/-- The mark SUBMITTING, as a mark. -/
theorem within_startSubmitting : Within (Step footprint t) t (markSubmitting orderId) :=
  within_markSubmitting fun row _ _ => allows.settlement row _ rfl (by simp)

/-- The mark SUBMITTED stores the hash of the transaction. -/
theorem within_markSubmitted (transactionHash : String)
    : Within (Step footprint t) t (markSubmitted orderId transactionHash) := by
  refine Within.bind (within_checkTransition allows.checked) fun _ _ => ?_
  refine Within.bind within_now fun time _ => ?_
  exact within_updateNow fun row => by exact allows.settlement row _ rfl (by simp)

/-- The mark CONFIRMING, as a mark. -/
theorem within_markConfirming : Within (Step footprint t) t (markConfirming orderId) :=
  within_mark allows.toAllowsSettlements (by simp) fun _ => rfl

/-- A settlement is marked SUBMITTING, sent, and marked SUBMITTED. -/
theorem within_submit (sdk : StellarSdk) (config : Config) (current : Settlement)
    (lock : DistributedLock)
    : Within (Step footprint t) t (submit sdk config orderId current lock) := by
  refine Within.bind (within_throwIfLost _ _) fun _ _ => ?_
  refine Within.bind (within_emit (allows.observes _)) fun _ _ => ?_
  refine Within.bind (within_submitSettlement allows.observes sdk config _) fun submission _ => ?_
  refine Within.bind (within_emit (allows.observes _)) fun _ _ => ?_
  split
  · exact Within.bind (within_markSubmitted allows _) fun _ _ => Within.pure trivial
  · dsimp only
    split
    · exact Within.bind (within_markFailed allows.toAllowsSettlements _) fun _ _ =>
        Within.pure trivial
    · exact Within.bind (within_markRequiresReconciliation allows.toAllowsSettlements _)
        fun _ _ => Within.pure trivial

/-- A settlement is marked by the network's answer. -/
theorem within_confirm (config : Config) (current : Settlement)
    : Within (Step footprint t) t (confirm config orderId current) := by
  unfold confirm
  extract_lets rest
  have settled (current : Settlement) : Within (Step footprint t) t (rest current) := by
    unfold rest
    split
    · refine Within.bind (within_confirmRounds allows.observes config _ 10)
        fun confirmation _ => ?_
      split
      · exact Within.bind (within_markCompleted allows.toAllowsSettlements _) fun _ _ =>
          Within.pure trivial
      · exact Within.bind (within_markRequiresReconciliation allows.toAllowsSettlements _)
          fun _ _ => Within.pure trivial
    · exact Within.pure trivial
  split
  · exact Within.bind (within_markConfirming allows) fun current _ => settled current
  · exact settled current

/-- The flow submits and confirms, by cases on the status that was read. -/
theorem within_executeSettlementFlow (sdk : StellarSdk) (config : Config) (settlement : Settlement)
    (lock : DistributedLock)
    : Within (Step footprint t) t
        (executeSettlementFlow sdk config orderId settlement lock) := by
  refine Within.bind within_findUnique fun found _ => ?_
  cases found with
  | none => exact Within.pure trivial
  | some fresh =>
      dsimp only
      split
      · exact within_confirm allows config fresh
      · refine Within.bind (within_submit allows sdk config fresh lock) fun result _ => ?_
        split
        · exact within_confirm allows config _
        · exact Within.pure trivial

omit allows in
/-- The lock is the caller's own. -/
theorem within_acquireSettlementLock (config : Config) (key : String)
    : Within (Step footprint t) t (acquireSettlementLock config key)
        fun lock => ∀ held ∈ lock, held.Of t key := by
  refine Within.bind (within_acquire config key) fun lock own => ?_
  cases lock with
  | some lock => exact Within.pure own
  | none => exact Within.bind within_attempts fun _ _ => within_poll config key _

/-- The lock is released and the end of the flow observed. -/
theorem within_finishSettling {lock : DistributedLock} {key : String} (own : lock.Of t key)
    : Within (Step footprint t) t (do
        DistributedLock.release (some lock)
        emit fun t => .flowEnded t orderId : Service Unit) :=
  Within.bind (within_releaseAny (by simpa using own)) fun _ _ =>
    within_emit (allows.observes _)

/-- What was thrown marks the settlement FAILED if it may be. -/
theorem within_giveUp (error : AppError)
    : Within (Step footprint t) t (giveUp orderId error) := by
  refine Within.bind within_findUnique fun found _ => ?_
  cases found with
  | none => exact Within.pure trivial
  | some existing =>
      dsimp only
      split
      · exact Within.bind (within_markFailed allows.toAllowsSettlements _) fun _ _ =>
          Within.pure trivial
      · exact Within.pure trivial

end

end LuminaRail
