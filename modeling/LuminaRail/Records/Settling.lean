import LuminaRail.Records.Requests
import LuminaRail.Workers.SettlementFootprints

/-! Settling orders and reconciling settlements. What a settlement stores as its transaction is what
the network has taken from the sender, and whoever completes it has heard of its success.
-/

namespace LuminaRail

open Concurrency Database Service

namespace Foresight

variable {F : Foresight} {t : Tid}

-----------------------------------------------------------------------------------------
-- The policy engine
-----------------------------------------------------------------------------------------

/-- Whatever is read is read of rows that the database has passed through. -/
theorem learns_passed {α : Type} {query : AList Row → α}
    : F.discipline.Learns t (select none query) fun value =>
        ∃ rows, F.passed rows ∧ query rows = value :=
  Discipline.Learns.select fun world inv => ⟨world.db.committed, inv.1.passed, rfl⟩

/-- A check that passes has read a pending order with a wallet. -/
theorem learns_checkOrder (sdk : StellarSdk) (orderId : Id)
    (args : SettlementPolicyEngine.CreateSettlementArgs) (order : Order)
    : F.discipline.Learns t (SettlementPolicyEngine.checkOrder sdk orderId args order) fun _ =>
        order.status = .SETTLEMENT_PENDING ∧ (truthy order.walletAddress).isSome
          ∧ ∃ rows, F.passed rows ∧ activeRefund orderId rows = none := by
  refine Discipline.Learns.bind ((keeps t).learns within_throwIf) fun _ pending => ?_
  refine Discipline.Learns.bind learns_passed fun refund found => ?_
  refine Discipline.Learns.bind ((keeps t).learns within_throwIf) fun _ unrefunded => ?_
  refine Discipline.Learns.bind ((keeps t).learns within_throwIf) fun _ addressed => ?_
  have cleared : order.status = .SETTLEMENT_PENDING ∧ (truthy order.walletAddress).isSome
      ∧ ∃ rows, F.passed rows ∧ activeRefund orderId rows = none := by
    obtain ⟨rows, passed, rfl⟩ := found
    refine ⟨not_not.mp pending, ?_, rows, passed, ?_⟩
    · cases given : truthy order.walletAddress with
      | none => exact absurd (by rw [given]; rfl) addressed
      | some wallet => rfl
    · simpa using unrefunded
  refine Discipline.Learns.bind ((keeps t).learns within_throwIf) fun _ _ => ?_
  split
  · exact Discipline.Learns.throw _
  · refine Discipline.Learns.bind ((keeps t).learns (SettlementPolicyEngine.within_decoded _))
      fun _ _ => ?_
    exact ((keeps t).learns within_throwIf).weaken fun _ _ => cleared

/-- A check that passes was given a successful payment and a confirmed reservation. -/
theorem within_checkFunds (payments : List (Id × Payment))
    (reservation : Option LiquidityReservation)
    : Within (Step (F.footprint t) t) t
        (SettlementPolicyEngine.checkFunds payments reservation) fun _ =>
          (∃ found ∈ payments, found.2.status = .SUCCEEDED)
            ∧ ∃ held ∈ reservation, held.status = .CONFIRMED := by
  refine Within.bind within_throwIf fun _ paid => within_throwIf.weaken fun _ reserved => ?_
  refine ⟨by simpa using paid, ?_⟩
  cases reservation with
  | none => simp at reserved
  | some held => exact ⟨held, rfl, by simpa using reserved⟩

/-- A check that passes has read a settlement that is not completed. -/
theorem learns_checkSettlement (orderId : Id)
    : F.discipline.Learns t (SettlementPolicyEngine.checkSettlement orderId) fun _ =>
        ∃ rows, F.passed rows ∧ ∃ settlement : Settlement,
          rows.lookup (.settlement orderId) = some settlement
            ∧ settlement.status ≠ .COMPLETED := by
  refine Discipline.Learns.bind learns_passed fun found read => ?_
  obtain ⟨rows, passed, stored⟩ := read
  cases found with
  | none => exact Discipline.Learns.throw _
  | some settlement =>
      refine Discipline.Learns.bind ((keeps t).learns within_throwIf) fun _ unsettled => ?_
      refine Discipline.Learns.bind ((keeps t).learns within_now) fun time _ => ?_
      refine ((keeps t).learns within_throwIf).weaken fun _ _ => ?_
      exact ⟨rows, passed, settlement, stored, unsettled⟩

/-- A check that passes was given an amount within the limits. -/
theorem learns_checkLimits (config : Config) (destinationAmount : Int)
    : F.discipline.Learns t (SettlementPolicyEngine.checkLimits config destinationAmount) fun _ =>
        config.treasury.minSettlementUsdc.value ≤ (stroops destinationAmount).value
          ∧ (stroops destinationAmount).value
            ≤ config.treasury.maxSingleSettlementUsdc.value := by
  refine Discipline.Learns.bind ((keeps t).learns within_throwIf) fun _ above => ?_
  refine Discipline.Learns.bind ((keeps t).learns within_throwIf) fun _ below => ?_
  refine (keeps t).learns (Within.bind within_now fun _ _ => ?_)
  refine Within.bind (within_select (Q := fun _ => True) fun _ => trivial) fun _ _ => ?_
  refine Within.bind (within_select (Q := fun _ => True) fun _ => trivial) fun _ _ => ?_
  refine Within.bind within_throwIf fun _ _ => within_throwIf.weaken fun _ _ => ?_
  exact ⟨not_lt.mp above, not_lt.mp below⟩

/-- What is approved has been found fit to be paid out. -/
theorem learns_validateAndApprove (sdk : StellarSdk) (request : SignTransactionRequest)
    : F.discipline.Learns t (SettlementPolicyEngine.validateAndApprove sdk F.config request)
        fun _ => Cleared F.config F.passed request.context.orderId := by
  refine Discipline.Learns.bind ((keeps t).learns within_throwIf) fun _ unpaused => ?_
  refine Discipline.Learns.bind ((keeps t).learns
    (SettlementPolicyEngine.within_invocation sdk F.config _)) fun call _ => ?_
  refine Discipline.Learns.bind ((keeps t).learns
    (SettlementPolicyEngine.within_createSettlementArgs F.config _ call)) fun args _ => ?_
  refine Discipline.Learns.bind ((keeps t).learns
    (SettlementPolicyEngine.within_checkIdentities F.config _ args)) fun _ _ => ?_
  refine Discipline.Learns.bind learns_passed fun found ordered => ?_
  cases found with
  | none => exact Discipline.Learns.throw _
  | some order =>
      refine Discipline.Learns.bind learns_passed fun payments listed => ?_
      refine Discipline.Learns.bind learns_passed fun reservation held => ?_
      refine Discipline.Learns.bind (learns_checkOrder sdk _ args order) fun _ checked => ?_
      refine Discipline.Learns.bind ((keeps t).learns (within_checkFunds payments reservation))
        fun _ funded => ?_
      refine Discipline.Learns.bind (learns_checkSettlement _) fun _ unsettled => ?_
      refine (learns_checkLimits F.config _).weaken fun _ limits => ?_
      obtain ⟨rows, passed, stored⟩ := ordered
      obtain ⟨pending, addressed, unrefunded⟩ := checked
      refine ⟨by simpa using unpaused, ⟨rows, passed, order, stored, pending, addressed, limits⟩,
        unrefunded, ?_, ?_, unsettled⟩
      · obtain ⟨rows, passed, rfl⟩ := listed
        exact ⟨rows, passed, funded.1⟩
      · obtain ⟨rows, passed, stored⟩ := held
        obtain ⟨reservation, rfl, confirmed⟩ := funded.2
        exact ⟨rows, passed, reservation, stored, confirmed⟩

/-- Nothing is signed that has not been approved. -/
theorem learns_signTransaction (sdk : StellarSdk) (request : SignTransactionRequest)
    : F.discipline.Learns t (signTransaction sdk F.config request) fun _ =>
        Cleared F.config F.passed request.context.orderId := by
  refine Discipline.Learns.bind (learns_validateAndApprove sdk request) fun _ cleared => ?_
  refine (keeps t).learns (Within.bind within_throwIf fun _ _ => ?_)
  refine Within.bind (within_signerPublicKey sdk F.config) fun publicKey _ => ?_
  split
  · exact Within.bind (within_kmsSign F.config) fun _ _ => Within.pure cleared
  · exact Within.pure cleared

-----------------------------------------------------------------------------------------
-- The network
-----------------------------------------------------------------------------------------

/-- A success that is reported is one that the network has answered with. -/
theorem learns_getTransactionStatus (config : Config) (txHash : String)
    : F.discipline.Learns t (SorobanConfirmationService.getTransactionStatus config txHash)
        fun result => result.status = .SUCCESS → F.succeeded txHash := by
  unfold SorobanConfirmationService.getTransactionStatus
  split
  · exact Discipline.Learns.pure fun successful => by simp at successful
  refine Discipline.Learns.external (keeps t) (fun input result events given => ?_)
    fun world input value events given inv => ?_
  · split at given
    · obtain ⟨rfl, rfl⟩ := Prod.mk.inj (Option.some.inj given)
      simp
    · split at given
      · obtain ⟨rfl, rfl⟩ := Prod.mk.inj (Option.some.inj given)
        simp [footprint, Event.owner, Vouches]
      · obtain ⟨rfl, rfl⟩ := Prod.mk.inj (Option.some.inj given)
        simp [footprint, Event.owner, Vouches]
      · obtain ⟨rfl, rfl⟩ := Prod.mk.inj (Option.some.inj given)
        simp [footprint, Event.owner, Vouches]
      · simp at given
  · split at given
    · obtain ⟨same, rfl⟩ := Prod.mk.inj (Option.some.inj given)
      obtain rfl := Except.ok.inj same
      simp
    · split at given
      · obtain ⟨_, rfl⟩ := Prod.mk.inj (Option.some.inj given)
        exact fun _ => inv.1.succeeded (by simp)
      · obtain ⟨same, rfl⟩ := Prod.mk.inj (Option.some.inj given)
        obtain rfl := Except.ok.inj same
        simp
      · obtain ⟨same, rfl⟩ := Prod.mk.inj (Option.some.inj given)
        obtain rfl := Except.ok.inj same
        simp
      · simp at given

/-- A transaction that is confirmed has succeeded, by induction on the rounds that are left. -/
theorem learns_confirmRounds (config : Config) (txHash : String) (rounds : Nat)
    : F.discipline.Learns t (SorobanConfirmationService.confirmRounds config txHash rounds)
        fun result => result.confirmed → F.succeeded txHash := by
  induction rounds with
  | zero => exact Discipline.Learns.pure nofun
  | succ rounds ih =>
      refine Discipline.Learns.bind (learns_getTransactionStatus config txHash)
        fun result succeeded => ?_
      cases is : result.status with
      | SUCCESS => exact Discipline.Learns.pure fun _ => succeeded is
      | FAILED => exact Discipline.Learns.pure nofun
      | NOT_FOUND => exact ih

/-- A transaction whose hash comes back has been broadcast for its order. -/
theorem learns_sendTransaction {orderId : Id} (maySend : MaySend F.config)
    (cleared : Cleared F.config F.passed orderId)
    : F.discipline.Learns t (SorobanTransactionService.sendTransaction orderId)
        (F.sent orderId) := by
  refine Discipline.Learns.external (keeps t) (fun input result events given => ?_)
    fun world input value events given inv => ?_
  · split at given
    · obtain ⟨rfl, rfl⟩ := Prod.mk.inj (Option.some.inj given)
      nofun
    · obtain ⟨rfl, rfl⟩ := Prod.mk.inj (Option.some.inj given)
      intro event member
      obtain rfl := List.mem_singleton.mp member
      exact ⟨nofun, maySend, cleared⟩
    · obtain ⟨rfl, rfl⟩ := Prod.mk.inj (Option.some.inj given)
      intro event member
      obtain ⟨hash, _, rfl⟩ := List.mem_map.mp member
      exact ⟨nofun, maySend, cleared⟩
    · simp at given
  · split at given
    · simp at given
    · obtain ⟨same, rfl⟩ := Prod.mk.inj (Option.some.inj given)
      obtain rfl := Except.ok.inj same
      exact inv.1.sent (by simp)
    · simp at given
    · simp at given

/-- A transaction is sent after all checks of the policy, by the rule of each step. -/
theorem learns_executeUnderLock (sdk : StellarSdk)
    (params : SubmitSettlementParams) (maySend : MaySend F.config)
    : F.discipline.Learns t (SorobanTransactionService.executeUnderLock sdk F.config params)
        (F.sent params.orderId) := by
  refine Discipline.Learns.bind ((keeps t).learns
    (SorobanTransactionService.within_buildUnsignedSettlementTransaction sdk F.config params))
    fun prepared meant => ?_
  refine Discipline.Learns.bind (learns_signTransaction sdk prepared) fun signed cleared => ?_
  refine Discipline.Learns.bind ((keeps t).learns (within_throwIfLost _ _)) fun _ _ => ?_
  refine Discipline.Learns.bind ((keeps t).learns within_throwIf) fun _ _ => ?_
  exact learns_sendTransaction maySend (meant ▸ cleared)

/-- A submission sends under the lock of the treasury account. -/
theorem learns_buildAndSubmitSettlementTransaction (sdk : StellarSdk)
    (params : SubmitSettlementParams)
    : F.discipline.Learns t
        (SorobanTransactionService.buildAndSubmitSettlementTransaction sdk F.config params)
        (F.sent params.orderId) := by
  refine Discipline.Learns.bind ((keeps t).learns
    (within_assertProductionSettlementSafety F.config)) fun _ safe => ?_
  refine Discipline.Learns.bind ((keeps t).learns (within_signerPublicKey sdk F.config))
    fun publicKey custody => ?_
  refine Discipline.Learns.bind ((keeps t).learns
    (SorobanTransactionService.within_acquireSequenceLock F.config _)) fun lock own => ?_
  cases lock with
  | none =>
      refine Discipline.Learns.bind ((keeps t).learns within_throwIf) fun _ _ => ?_
      exact learns_executeUnderLock sdk params ⟨safe, custody⟩
  | some lock =>
      refine Discipline.Learns.finally' ?_ ((keeps t).learns (within_releaseAny own))
      refine Discipline.Learns.bind ((keeps t).learns (within_throwIfLost _ _)) fun _ _ => ?_
      exact learns_executeUnderLock sdk params ⟨safe, custody⟩

/-- A submission is backed by the transaction that it has sent. -/
theorem learns_submitSettlement (sdk : StellarSdk)
    (params : SubmitSettlementParams)
    : F.discipline.Learns t (LiveSettlementExecutor.submitSettlement sdk F.config params)
        fun result => ∀ transactionHash ∈ result.transactionHash,
          F.sent params.orderId transactionHash := by
  refine Discipline.Learns.tryCatch ?_ fun error => Discipline.Learns.pure nofun
  refine Discipline.Learns.bind (learns_buildAndSubmitSettlementTransaction sdk params)
    fun transactionHash sent => Discipline.Learns.pure fun stored same => ?_
  obtain rfl := Option.some.inj same
  exact sent

-----------------------------------------------------------------------------------------
-- Moves
-----------------------------------------------------------------------------------------

/-- Everybody may check a transition. -/
theorem observes_transition (id : Id) (status : SettlementStatus)
    : (F.footprint t).events (.transitionChecked t id status) := by
  simp [footprint, Event.owner, Vouches]

variable [F.System t]

/-- A settlement that is moved on is backed as it was before. -/
theorem learns_updateSettlement {id : Id} {data : Settlement → Settlement}
    (terms : ∀ row, (data row).terms = row.terms)
    (kept : ∀ row, (data row).stellarTransactionHash = row.stellarTransactionHash)
    (unfinished : ∀ row, (data row).status ≠ .COMPLETED)
    : F.discipline.Learns t (update none (.settlement id) data) (F.Backed (.settlement id)) :=
  Discipline.Learns.update (keeps t)
    (fun row => WritesBy.settlement (terms row) (kept row) fun completed =>
      absurd completed (unfinished row))
    fun _ row inv found => inv.2.1 _ row found

/-- A mark that keeps the terms and the hash, and does not complete the settlement, returns what
backs it.
-/
theorem learns_mark {id : Id} {target : SettlementStatus} {data : Settlement → Settlement}
    (terms : ∀ row time,
      ({ data row with status := target, updatedAt := time } : Settlement).terms = row.terms)
    (kept : ∀ row, (data row).stellarTransactionHash = row.stellarTransactionHash)
    (unfinished : target ≠ .COMPLETED)
    : F.discipline.Learns t (SettlementService.mark id target data)
        (F.Backed (.settlement id)) := by
  refine Discipline.Learns.bind ((keeps t).learns (within_checkTransition (observes_transition id)))
    fun _ _ => ?_
  refine Discipline.Learns.bind ((keeps t).learns within_now) fun time _ => ?_
  exact learns_updateSettlement (fun row => terms row time) kept fun _ => unfinished

/-- A settlement that is marked CONFIRMING is backed. -/
theorem learns_markConfirming (id : Id)
    : F.discipline.Learns t (SettlementService.markConfirming id) (F.Backed (.settlement id)) :=
  learns_mark (fun _ _ => rfl) (fun _ => rfl) (by simp)

/-- A settlement that is marked FAILED is backed. -/
theorem learns_markFailed (id : Id) (reason : String)
    : F.discipline.Learns t (SettlementService.markFailed id reason)
        (F.Backed (.settlement id)) :=
  learns_mark (fun _ _ => rfl) (fun _ => rfl) (by simp)

/-- A settlement that is marked REQUIRES_RECONCILIATION is backed. -/
theorem learns_markRequiresReconciliation (id : Id) (reason : String)
    : F.discipline.Learns t (SettlementService.markRequiresReconciliation id reason)
        (F.Backed (.settlement id)) :=
  learns_mark (fun _ _ => rfl) (fun _ => rfl) (by simp)

/-- The mark SUBMITTING keeps terms and hash. -/
theorem within_startSubmitting (id : Id)
    : Within (Step (F.footprint t) t) t (SettlementService.markSubmitting id) :=
  within_markSubmitting fun _ _ _ => WritesBy.settlement rfl rfl (by simp)

/-- Only a transaction that was sent is stored. -/
theorem learns_markSubmitted {id : Id} {transactionHash : String} (sent : F.sent id transactionHash)
    : F.discipline.Learns t (SettlementService.markSubmitted id transactionHash)
        (F.Backed (.settlement id)) := by
  refine Discipline.Learns.bind ((keeps t).learns (within_checkTransition (observes_transition id)))
    fun _ _ => ?_
  refine Discipline.Learns.bind ((keeps t).learns within_now) fun time _ => ?_
  refine Discipline.Learns.update (keeps t) (fun row => ?_)
    fun _ row inv found => inv.2.1 _ row found
  refine WritesBy.update (ownOrder id) rfl fun _ => ⟨fun stored same => ?_, by simp⟩
  obtain rfl := Option.some.inj same
  exact sent

/-- A reservation is consumed only once its transaction has landed. -/
theorem within_consumeReservation {orderId : Id} (landed : F.Landed orderId)
    (externalRef stellarTxHash : Option String)
    : Within (Step (F.footprint t) t) t
        (LiquidityService.consumeReservation orderId externalRef stellarTxHash) := by
  refine within_transaction fun x own => Within.bind within_findUnique fun found _ => ?_
  cases found with
  | none => exact Within.pure trivial
  | some reservation =>
      dsimp only
      split
      · exact Within.pure trivial
      split
      · exact Within.pure trivial
      refine Within.bind (within_selectForUpdate own) fun _ _ => ?_
      refine Within.bind within_findUniqueOrThrow fun pool _ => ?_
      refine Within.bind (within_updateIn own fun row => WritesBy.pool) fun _ _ => ?_
      refine Within.bind (within_updateIn own fun row => WritesBy.reservation
        (fun _ => ownOrder orderId) ⟨by simp, fun _ => Or.inr landed⟩) fun _ _ => ?_
      refine Within.bind within_randomText fun id _ => Within.bind within_now fun time _ => ?_
      refine Within.bind (Q := fun _ => True) (within_create (by simpa using own)
        (fun entry member => ?_) trivial) fun _ _ => Within.pure trivial
      obtain rfl := List.mem_singleton.mp member
      exact WritesBy.treasury

/-- Only what has landed is completed, and its order and its reservation with it. -/
theorem learns_markCompleted {id : Id} (landed : F.Landed id) (ledger : Nat)
    : F.discipline.Learns t (SettlementService.markCompleted id ledger) := by
  refine (keeps t).learns (Within.bind (within_checkTransition (observes_transition id)) fun _ _ => ?_)
  refine Within.bind (Q := fun _ => True) (within_transaction fun x own => ?_) fun updated _ => ?_
  · refine Within.bind within_now fun time _ => ?_
    refine Within.bind (within_updateIn own fun row => by
      exact WritesBy.settlement rfl rfl fun _ => landed) fun _ _ => ?_
    exact Within.bind (within_updateIn own fun row => by exact WritesBy.completed landed)
      fun _ _ => Within.pure trivial
  · exact Within.bind (within_consumeReservation landed _ _) fun _ _ => Within.pure trivial

-----------------------------------------------------------------------------------------
-- The worker
-----------------------------------------------------------------------------------------

/-- The hash that is stored is one that was sent. -/
theorem learns_submit (sdk : StellarSdk) (orderId : Id) (current : Settlement)
    (lock : DistributedLock)
    : F.discipline.Learns t (SettlementWorker.submit sdk F.config orderId current lock)
        fun result => F.Backed (.settlement orderId) result.1 := by
  refine Discipline.Learns.bind ((keeps t).learns (within_throwIfLost _ _)) fun _ _ => ?_
  refine Discipline.Learns.bind ((keeps t).learns
    (within_emit (by simp [footprint, Event.owner, Vouches]))) fun _ _ => ?_
  refine Discipline.Learns.bind (learns_submitSettlement sdk _) fun submission sent => ?_
  refine Discipline.Learns.bind ((keeps t).learns
    (within_emit (by simp [footprint, Event.owner, Vouches]))) fun _ _ => ?_
  split
  · rename_i transactionHash _ given
    refine Discipline.Learns.bind (learns_markSubmitted (sent _ (of_truthy given)))
      fun submitted backed => Discipline.Learns.pure backed
  · dsimp only
    split
    · exact Discipline.Learns.bind (learns_markFailed orderId _) fun given backed =>
        Discipline.Learns.pure backed
    · exact Discipline.Learns.bind (learns_markRequiresReconciliation orderId _)
        fun given backed => Discipline.Learns.pure backed

/-- A settlement is completed only after its transaction was reported successful, by cases on
the report.
-/
theorem learns_confirm (config : Config) {orderId : Id} {current : Settlement}
    (backed : F.Backed (.settlement orderId) current)
    : F.discipline.Learns t (SettlementWorker.confirm config orderId current) := by
  unfold SettlementWorker.confirm
  extract_lets rest
  have settled (current : Settlement) (backed : F.Backed (.settlement orderId) current)
      : F.discipline.Learns t (rest current) := by
    unfold rest
    split
    · rename_i transactionHash _ stored
      have sent : F.sent orderId transactionHash := backed.1 _ (of_truthy stored)
      refine Discipline.Learns.bind (learns_confirmRounds config transactionHash 10)
        fun confirmation succeeded => ?_
      split
      · rename_i ledger confirmed _
        exact Discipline.Learns.bind
          (learns_markCompleted (Or.inr ⟨_, sent, succeeded confirmed⟩) _)
          fun completed _ => Discipline.Learns.pure trivial
      · exact Discipline.Learns.bind (learns_markRequiresReconciliation orderId _)
          fun recon _ => Discipline.Learns.pure trivial
    · exact Discipline.Learns.pure trivial
  split
  · exact Discipline.Learns.bind (learns_markConfirming orderId) settled
  · exact settled current backed

/-- The flow submits, confirms, and consumes in this order. -/
theorem learns_executeSettlementFlow (sdk : StellarSdk) (orderId : Id)
    (settlement : Settlement) (lock : DistributedLock)
    : F.discipline.Learns t
        (SettlementWorker.executeSettlementFlow sdk F.config orderId settlement lock) := by
  refine Discipline.Learns.bind learns_findUnique fun found learnt => ?_
  cases found with
  | none => exact Discipline.Learns.pure trivial
  | some fresh =>
      dsimp only
      split
      · exact learns_confirm F.config (learnt fresh rfl).backed
      · refine Discipline.Learns.bind (learns_submit sdk orderId fresh lock)
          fun result backed => ?_
        split
        · exact learns_confirm F.config backed
        · exact Discipline.Learns.pure trivial

/-- Under the lock of the order the flow runs with the settlement that was read. -/
theorem learns_processLocked (sdk : StellarSdk) (orderId : Id)
    (settlement : Settlement) (stopAtSubmitting : Bool) (lock : DistributedLock)
    : F.discipline.Learns t
        (SettlementWorker.processLocked sdk F.config orderId settlement stopAtSubmitting lock) := by
  refine Discipline.Learns.bind learns_findUnique fun found _ => ?_
  extract_lets currentSettlement
  have executed : F.discipline.Learns t
      (if stopAtSubmitting then pure currentSettlement.status
        else
          SettlementWorker.executeSettlementFlow sdk F.config orderId currentSettlement lock) := by
    split
    · exact Discipline.Learns.pure trivial
    · exact learns_executeSettlementFlow sdk orderId currentSettlement lock
  split
  · refine Discipline.Learns.bind ((keeps t).learns (within_startSubmitting orderId))
      fun submitting _ => ?_
    split
    · exact Discipline.Learns.pure trivial
    · exact learns_executeSettlementFlow sdk orderId submitting lock
  · exact executed
  · exact executed
  · exact executed
  · exact Discipline.Learns.pure trivial

/-- An order is processed under its lock, or left alone. -/
theorem learns_processSingleOrder (sdk : StellarSdk) (orderId : Id)
    (stopAtSubmitting : Bool)
    : F.discipline.Learns t
        (SettlementWorker.processSingleOrder sdk F.config orderId stopAtSubmitting) := by
  refine Discipline.Learns.bind (learns_createSettlementForOrder F.config orderId)
    fun created _ => ?_
  refine Discipline.Learns.bind ((keeps t).learns (within_acquireSettlementLock F.config _))
    fun lock own => ?_
  cases lock with
  | none =>
      refine (keeps t).learns (Within.bind within_throwIf fun _ _ => ?_)
      exact Within.bind within_findUnique fun _ _ => Within.pure trivial
  | some lock =>
      refine Discipline.Learns.finally'
        (learns_processLocked sdk orderId _ stopAtSubmitting lock) ((keeps t).learns ?_)
      exact Within.bind (within_releaseAny own) fun _ _ =>
        within_emit (by simp [footprint, Event.owner, Vouches])

/-- A failure is marked on a settlement that may fail. -/
theorem learns_giveUp (orderId : Id) (error : AppError)
    : F.discipline.Learns t (SettlementWorker.giveUp orderId error) := by
  refine Discipline.Learns.bind learns_findUnique fun found _ => ?_
  cases found with
  | none => exact Discipline.Learns.pure trivial
  | some existing =>
      dsimp only
      split
      · exact Discipline.Learns.bind (learns_markFailed orderId _) fun _ _ =>
          Discipline.Learns.pure trivial
      · exact Discipline.Learns.pure trivial

/-- A sweep processes its orders one after another, by the rule for loops. -/
theorem learns_processPendingOrders (sdk : StellarSdk) (batchSize : Nat)
    (stopAtSubmitting : Bool)
    : F.discipline.Learns t
        (SettlementWorker.processPendingOrders sdk F.config batchSize stopAtSubmitting) := by
  unfold SettlementWorker.processPendingOrders
  split
  · exact Discipline.Learns.pure trivial
  refine Discipline.Learns.bind ((keeps t).learns (within_acquire F.config _)) fun lock own => ?_
  split
  · exact Discipline.Learns.pure trivial
  refine Discipline.Learns.finally' ?_ ((keeps t).learns (within_releaseAny own))
  refine Discipline.Learns.bind (Q := fun _ => True)
    (Discipline.Learns.select fun _ _ => trivial) fun orders _ => ?_
  refine Discipline.Learns.forM fun found _ => Discipline.Learns.tryCatch ?_ fun error =>
    learns_giveUp found.1 error
  exact Discipline.Learns.bind (learns_processSingleOrder sdk found.1 stopAtSubmitting)
    fun _ _ => Discipline.Learns.pure trivial

-----------------------------------------------------------------------------------------
-- The reconciliation of settlements
-----------------------------------------------------------------------------------------

/-- A settlement that is given up is marked FAILED and releases what it holds. -/
theorem learns_giveUpSettlement (orderId : Id) (reason : String)
    : F.discipline.Learns t (ReconciliationDaemon.giveUpSettlement orderId reason) := by
  refine Discipline.Learns.bind (learns_markFailed orderId reason) fun failed _ => ?_
  refine (keeps t).learns (Within.bind (within_releaseReservation (ownOrder orderId) (by simp))
    fun _ _ => ?_)
  exact Within.bind (within_updateNow fun row => by exact WritesBy.order (ownOrder _) (by simp))
    fun _ _ => Within.pure trivial

/-- A settlement is reconciled with the report on its own hash, by cases on the report. -/
theorem learns_reconcileSingleSettlement (config : Config) (orderId : Id) (maxStaleAgeHours : Nat)
    : F.discipline.Learns t
        (ReconciliationDaemon.reconcileSingleSettlement config orderId maxStaleAgeHours) := by
  refine Discipline.Learns.bind learns_findUnique fun found learnt => ?_
  cases found with
  | none => exact Discipline.Learns.throw _
  | some settlement =>
      dsimp only
      split
      · refine Discipline.Learns.bind ((keeps t).learns within_now) fun time _ => ?_
        split
        · exact learns_giveUpSettlement orderId _
        · exact Discipline.Learns.bind (learns_markRequiresReconciliation orderId _) fun _ _ =>
            Discipline.Learns.pure trivial
      · rename_i transactionHash stored
        have sent : F.sent orderId transactionHash :=
          (learnt settlement rfl).backed.1 _ (of_truthy stored)
        refine Discipline.Learns.bind (learns_getTransactionStatus config transactionHash)
          fun result succeeded => ?_
        cases is : result.status with
        | SUCCESS =>
            exact Discipline.Learns.bind
              (learns_markCompleted (Or.inr ⟨_, sent, succeeded is⟩) _) fun _ _ =>
                Discipline.Learns.pure trivial
        | FAILED => exact learns_giveUpSettlement orderId _
        | NOT_FOUND =>
            refine Discipline.Learns.bind ((keeps t).learns within_now) fun time _ => ?_
            split
            · exact learns_giveUpSettlement orderId _
            · exact Discipline.Learns.pure trivial

/-- A sweep reconciles its settlements one after another, by the rule for loops. -/
theorem learns_processReconciliation (config : Config) (batchSize maxStaleAgeHours : Nat)
    : F.discipline.Learns t
        (ReconciliationDaemon.processReconciliation config batchSize maxStaleAgeHours) := by
  refine Discipline.Learns.bind ((keeps t).learns (within_acquire config _)) fun lock own => ?_
  split
  · exact Discipline.Learns.pure trivial
  refine Discipline.Learns.finally' ?_ ((keeps t).learns (within_releaseAny own))
  refine Discipline.Learns.bind (Q := fun _ => True)
    (Discipline.Learns.select fun _ _ => trivial) fun found _ => ?_
  refine Discipline.Learns.forM fun settlement _ => Discipline.Learns.tryCatch ?_ fun _ =>
    Discipline.Learns.pure trivial
  exact Discipline.Learns.bind (learns_reconcileSingleSettlement config _ _) fun _ _ =>
    Discipline.Learns.pure trivial

-----------------------------------------------------------------------------------------
-- The reconciliation of payments
-----------------------------------------------------------------------------------------

/-- A payment that is marked successful has been received. -/
theorem within_updatePayment {x : TxId} (own : x.owner = t) {payment : Option (Id × Payment)}
    {data : Payment → Payment} (terms : ∀ row, (data row).terms = row.terms)
    (received : ∀ row, (data row).status = .SUCCEEDED → ∀ found ∈ payment, F.Received found.1)
    : Within (Step (F.footprint t) t) t
        (ReconciliationDaemon.updatePayment x payment data) := by
  cases payment with
  | none => exact Within.pure trivial
  | some payment =>
      refine Within.bind (within_updateIn own fun row => ?_) fun _ _ => Within.pure trivial
      exact WritesBy.update (ownPayment _) (terms row) fun _ succeeded =>
        received row succeeded payment rfl

/-- A payment that is marked failed needs no receipt. -/
theorem within_markPaymentFailed {x : TxId} (own : x.owner = t) (orderId : Id)
    (payment : Option (Id × Payment))
    : Within (Step (F.footprint t) t) t
        (ReconciliationDaemon.markPaymentFailed x orderId payment) := by
  refine Within.bind (within_updateIn own fun row => by exact WritesBy.order (ownOrder _) (by simp))
    fun _ _ => ?_
  refine Within.bind (within_updatePayment own (fun _ => rfl) (by simp)) fun _ _ => ?_
  exact Within.bind (within_releaseReservationInTx own (ownOrder orderId) (by simp)) fun _ _ =>
    Within.pure trivial

/-- A settlement takes its terms from the order that was read. -/
theorem within_confirmPayment {x : TxId} (own : x.owner = t) (config : Config) {orderId : Id}
    {order : Order} (known : F.known (.order orderId) order) {payment : Option (Id × Payment)}
    (received : ∀ found ∈ payment, F.Received found.1) (paid : F.Paid orderId)
    (paymentReference : String) (response : NormalizedPaymentResponse)
    : Within (Step (F.footprint t) t) t (ReconciliationDaemon.confirmPayment config x orderId order
        payment paymentReference response) := by
  refine Within.bind (within_updatePayment own (fun _ => rfl) fun _ _ => received) fun _ _ => ?_
  refine Within.bind (within_updateIn own fun row => by
    exact WritesBy.paidOrder (ownOrder _) paid (Or.inl rfl)) fun _ _ => ?_
  refine Within.bind (within_confirmReservationInTx own (ownOrder orderId) paid) fun _ _ => ?_
  refine Within.bind within_findUnique fun found _ => ?_
  cases found with
  | some settlement => exact Within.pure trivial
  | none =>
      refine Within.bind within_now fun time _ => Within.bind within_randomText fun suffix _ => ?_
      refine Within.bind (Q := fun _ => True)
        (within_create (by simpa using own) (fun entry member => ?_) trivial)
        fun _ _ => Within.pure trivial
      simp only [List.mem_cons, List.not_mem_nil, or_false] at member
      rcases member with rfl | rfl
      · exact WritesBy.newSettlement known ⟨rfl, rfl, rfl⟩ rfl rfl
      · exact WritesBy.insert trivial trivial trivial

/-- A verdict of success is applied to a payment that was received. -/
theorem within_applyVerdict {x : TxId} (own : x.owner = t) (config : Config) {orderId : Id}
    {order : Order} (known : F.known (.order orderId) order) {payment : Option (Id × Payment)}
    (paymentReference : String) {response : NormalizedPaymentResponse}
    (received : response.status = .SUCCEEDED → (∀ found ∈ payment, F.Received found.1)
      ∧ F.Paid orderId)
    : Within (Step (F.footprint t) t) t (ReconciliationDaemon.applyVerdict config x orderId order
        payment paymentReference response) := by
  unfold ReconciliationDaemon.applyVerdict
  cases verdict : response.status with
  | SUCCEEDED =>
      dsimp only
      split
      · obtain ⟨received, paid⟩ := received verdict
        exact within_confirmPayment own config known received paid _ response
      · exact within_markPaymentFailed own orderId payment
  | FAILED => exact within_markPaymentFailed own orderId payment
  | _ => exact Within.pure trivial

omit [F.System t] in
/-- The provider that is asked is the payment's own, and Paystack is asked by its name. -/
theorem learns_askProvider (config : Config) (providerId name : String) (order : Order)
    : F.discipline.Learns t (ReconciliationDaemon.askProvider config providerId name order)
        fun response => ∀ answer ∈ response, answer.status = .SUCCEEDED
          → providerId = Provider.PAYSTACK_NGN_BANK_TRANSFER.providerId → F.reported name := by
  refine Discipline.Learns.tryCatch ?_ fun _ => Discipline.Learns.pure (by simp)
  refine Discipline.Learns.bind ((keeps t).learns (within_get config _)) fun provider resolved => ?_
  refine Discipline.Learns.map ((learns_providerVerifyPayment config _ _ provider).weaken
    fun response reported answer same succeeded paystack => ?_)
  obtain rfl := Option.some.inj same
  rw [paystack] at resolved
  exact reported succeeded (resolve_paystack resolved)

/-- The reference that the daemon chooses names the payment. -/
theorem names_of_reference {payment : Payment} {order : Order} {name : String}
    (known : F.known (.order payment.orderId) order)
    (chosen : name = ((truthy (some payment.reference)).or (truthy order.idempotencyKey)).getD "")
    (named : name ≠ "")
    : F.Names payment name := by
  rcases ReconciliationDaemon.reference_or_key chosen named with referenced | ⟨unreferenced, key⟩
  · exact Or.inl referenced.symm
  · exact Or.inr (Or.inr ⟨unreferenced, order, known, key⟩)

/-- A Paystack payment is verified by Paystack. -/
theorem verifyingProvider_of_paystack {config : Config} {id : Id} {payment : Payment}
    (paystack : payment.provider = Provider.PAYSTACK_NGN_BANK_TRANSFER.providerId)
    : ReconciliationDaemon.verifyingProvider config (some (id, payment))
      = Provider.PAYSTACK_NGN_BANK_TRANSFER.providerId := by
  have given : truthy (some payment.provider)
      = some Provider.PAYSTACK_NGN_BANK_TRANSFER.providerId := by
    rw [paystack]
    decide
  simp [ReconciliationDaemon.verifyingProvider, given]

/-- The order has a payment. -/
def HasPayment (orderId : Id) (rows : AList Row) : Prop :=
  ∃ found, found ∈ paymentsOf orderId rows

/-- An order that has a payment keeps it. -/
theorem lasts_hasPayment (orderId : Id) : F.discipline.Lasts (HasPayment orderId) := by
  intro rows later evolved has
  obtain ⟨⟨id, payment⟩, member⟩ := has
  obtain ⟨stored, of_order⟩ := mem_paymentsOf.mp member
  have kept : (later.lookup (.payment id)).isSome := evolved.kept (by simp [stored])
  obtain ⟨next, found⟩ := Option.isSome_iff_exists.mp kept
  refine ⟨(id, next), mem_paymentsOf.mpr ⟨found, ?_⟩⟩
  rcases evolved.rows found with same | written
  · obtain rfl := Option.some.inj (stored.symm.trans same)
    exact of_order
  · have terms : Payment.terms next = Payment.terms payment := written.same payment stored
    simp only [Payment.terms, Payment.mk.injEq] at terms
    exact terms.1.trans of_order

omit [F.System t] in
/-- A payment of the order is found before anything is written. -/
theorem spec_findPayment {x : TxId} (own : x.owner = t) (orderId : Id)
    : F.discipline.accountable.Spec t
        (fun world => Discipline.Unwritten x world ∧ HasPayment orderId world.db.committed)
        (findFirst (some x) (paymentsOf orderId))
        (fun found _ => ∃ id payment, found = some (id, payment) ∧ F.Stored id payment
          ∧ payment.orderId = orderId) fun _ _ => True := by
  refine Protocol.Spec.bind ((lasts_hasPayment orderId).select (Q := fun payments =>
    payments ≠ [] ∧ ∀ found ∈ payments, F.Stored found.1 found.2 ∧ found.2.orderId = orderId)
    (keeps t) own fun world inv has => ⟨?_, fun found member => ?_⟩) fun payments => ?_
  · obtain ⟨found, member⟩ := has
    exact List.ne_nil_of_mem member
  · exact (mem_paymentsOf.mp member).imp_left fun found => stored_of_lookup inv found
  refine Protocol.Spec.pre (Protocol.Spec.assume fun listed => ?_) fun _ _ given =>
    ⟨given.1, trivial⟩
  refine Discipline.Learns.bind ((keeps t).learns within_attempts) fun choice _ => ?_
  have bound : choice % payments.length < payments.length :=
    Nat.mod_lt _ (List.length_pos_iff.mpr listed.1)
  refine Discipline.Learns.pure ⟨_, _, List.getElem?_eq_getElem bound, ?_⟩
  exact listed.2 _ (List.getElem_mem bound)

/-- The transaction of a reconciliation asks about the order's own payment. -/
theorem spec_reconcileInTx {x : TxId} (own : x.owner = t) (config : Config) (orderId : Id)
    : F.discipline.accountable.Spec t
        (fun world => Discipline.Unwritten x world ∧ HasPayment orderId world.db.committed)
        (ReconciliationDaemon.reconcileInTx config x orderId)
        (fun _ _ => True) fun _ _ => True := by
  have lasts := lasts_hasPayment (F := F) orderId
  refine Protocol.Spec.bind (lasts.frame ((keeps t).selectForUpdate own)) fun _ => ?_
  refine Protocol.Spec.bind (lasts.select
    (Q := fun found => ∀ order ∈ found, F.known (.order orderId) order) (keeps t) own
    fun _ inv _ order found => inv.1.known found)
    fun found => Protocol.Spec.assume fun ordered => ?_
  cases found with
  | none => exact Protocol.Spec.pure _ fun _ _ _ => trivial
  | some order =>
      refine Protocol.Spec.bind (spec_findPayment own orderId) fun payment => ?_
      refine Protocol.Spec.pre (Protocol.Spec.assume fun found => ?_) fun _ _ given =>
        ⟨given, trivial⟩
      obtain ⟨id, payment, rfl, stored, rfl⟩ := found
      have known : F.known (.order payment.orderId) order := ordered order rfl
      refine Discipline.Learns.bind (Q := fun _ => True) ((keeps t).learns
        (within_findFirst (R := fun _ => True) (by simp)).forget) fun refund _ => ?_
      refine Discipline.Learns.bind ((keeps t).learns
        (within_emit (by simp [footprint, Event.owner, Vouches]))) fun _ _ => ?_
      dsimp only
      split
      · exact Discipline.Learns.pure trivial
      rename_i named
      split
      · exact Discipline.Learns.pure trivial
      split
      · exact Discipline.Learns.pure trivial
      refine Discipline.Learns.bind ((keeps t).learns within_findUnique) fun reservation _ => ?_
      split
      · exact Discipline.Learns.pure trivial
      refine Discipline.Learns.bind (learns_askProvider config _ _ order) fun response asked => ?_
      cases response with
      | none => exact Discipline.Learns.pure trivial
      | some response =>
          refine (keeps t).learns (within_applyVerdict own config known _ fun succeeded => ?_)
          have received : F.Received id := stored.received fun paystack =>
            ⟨_, names_of_reference known rfl named,
              asked response rfl succeeded (verifyingProvider_of_paystack paystack)⟩
          refine ⟨fun found same => ?_, stored.paid received⟩
          obtain rfl := Option.some.inj same
          exact received

/-- The reconciliation of an order with a payment, by the rule for transactions. -/
theorem spec_reconcileSinglePaymentOrder (config : Config) (orderId : Id)
    : F.discipline.accountable.Spec t (fun world => HasPayment orderId world.db.committed)
        (ReconciliationDaemon.reconcileSinglePaymentOrder config orderId)
        (fun _ _ => True) fun _ _ => True := by
  refine (lasts_hasPayment orderId).transaction (Q := fun _ => True) (P := fun _ _ => True)
    (keeps t) (fun x own => ?_) fun _ _ _ _ _ _ _ => trivial
  exact Protocol.Spec.conseq (spec_reconcileInTx own config orderId) (fun _ _ given => given)
    (fun _ _ _ _ => ⟨trivial, fun _ _ => trivial⟩) fun _ _ _ given => given

/-- The orders of the payments that are reconciled have these payments. -/
theorem learns_paymentSweep (config : Config) (batchSize minPendingAgeMinutes : Nat)
    : F.discipline.Learns t
        (ReconciliationDaemon.paymentSweep config batchSize minPendingAgeMinutes) := by
  refine Discipline.Learns.bind ((keeps t).learns within_now) fun time _ => ?_
  refine Protocol.Spec.bind (Q := fun pending world => ∀ found ∈ pending,
    HasPayment found.2.orderId world.db.committed) ?_ fun pending => ?_
  · refine Service.spec_select (Discipline.reading_accountable observable)
      (Protocol.Stable.const True) (fun world _ _ _ found member => ?_) fun _ _ _ _ _ _ => trivial
    exact ⟨found, mem_paymentsOf.mpr ⟨mem_allPayments.mp
      (List.mem_filter.mp (mem_of_mem_firstBy member)).1, rfl⟩⟩
  · have lasts : F.discipline.Lasts fun rows => ∀ found ∈ pending,
        HasPayment found.2.orderId rows :=
      fun rows later evolved has found member => lasts_hasPayment _ evolved (has found member)
    refine lasts.forM fun found member => Protocol.Spec.tryCatch
      (E := fun _ _ => True) ?_ fun _ => Protocol.Spec.pure _ fun _ _ _ => trivial
    refine Protocol.Spec.bind (Q := fun _ _ => True)
      (Protocol.Spec.pre (spec_reconcileSinglePaymentOrder config found.2.orderId)
        fun _ _ has => has found member) fun _ => ?_
    exact Protocol.Spec.pure _ fun _ _ _ => trivial

/-- A sweep selects orders with a payment and reconciles them one after another. -/
theorem learns_processPaymentReconciliation (config : Config) (batchSize minPendingAgeMinutes : Nat)
    : F.discipline.Learns t (ReconciliationDaemon.processPaymentReconciliation config batchSize
        minPendingAgeMinutes) := by
  refine Discipline.Learns.bind ((keeps t).learns (within_acquire config _)) fun lock own => ?_
  split
  · exact Discipline.Learns.pure trivial
  · exact Discipline.Learns.finally' (learns_paymentSweep config batchSize minPendingAgeMinutes)
      ((keeps t).learns (within_releaseAny own))

end Foresight

end LuminaRail
