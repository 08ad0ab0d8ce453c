import LuminaRail.Model.Footprints
import LuminaRail.Services.Refunds

/-! What locks, liquidity transactions and refunds can do to the world, as conditions on the
footprints that allow it.
-/

namespace LuminaRail

open Concurrency Database Service

variable {footprint : Footprint} {t : Tid}

-----------------------------------------------------------------------------------------
-- Locks
-----------------------------------------------------------------------------------------

/-- A lock that was acquired by `t` under a key. -/
def DistributedLock.Of (t : Tid) (key : String) (lock : DistributedLock) : Prop :=
  lock.key = key ∧ lock.ownerToken.owner = t

/-- A lock that is acquired is the caller's own. -/
theorem within_acquire (config : Config) (key : String)
    : Within (Step footprint t) t (DistributedLockService.acquire config key)
        fun lock => ∀ held ∈ lock, held.Of t key := by
  refine Within.action fun world input result after acted => ?_
  have stored : Step footprint t world { world with redis := (world.redis.acquire t key).2 } :=
    .redis _ world.lost fun u _ => Leases.acquire_kept world.redis t key
  split at acted
  · have stepped : Step footprint t world
        (if input.number = 0 then world
          else { world with redis := (world.redis.acquire t key).2 }) := by
      split
      · exact .idle
      · exact stored
    dsimp only at acted
    generalize (if input.number = 0 then world else _) = next at stepped acted
    split at acted
    · obtain ⟨rfl, rfl⟩ := Prod.mk.inj (Option.some.inj acted)
      exact ⟨stepped, trivial⟩
    · obtain ⟨rfl, rfl⟩ := Prod.mk.inj (Option.some.inj acted)
      exact ⟨stepped, nofun⟩
  · obtain ⟨rfl, rfl⟩ := Prod.mk.inj (Option.some.inj acted)
    refine ⟨stored, fun lock member => ?_⟩
    obtain ⟨token, taken, rfl⟩ := Option.map_eq_some_iff.mp member
    refine ⟨rfl, ?_⟩
    rcases Leases.acquire_cases world.redis t key with ⟨new, own, _, same, _⟩ | ⟨refused, _⟩
    · exact Option.some.inj (taken.symm.trans same) ▸ own
    · exact (Option.some_ne_none _ (taken.symm.trans refused)).elim

/-- A question about a lock writes nothing. -/
theorem within_isOwned (lock : DistributedLock)
    : Within (Step footprint t) t (DistributedLockService.isOwned lock) := by
  refine Within.action fun world input result after acted => ?_
  obtain ⟨rfl, rfl⟩ := Prod.mk.inj (Option.some.inj acted)
  exact ⟨.idle, trivial⟩

/-- A check of a lock writes nothing. -/
theorem within_throwIfLost (lock : Option DistributedLock) (error : AppError)
    : Within (Step footprint t) t (DistributedLock.throwIfLost lock error) := by
  cases lock with
  | none => exact Within.pure trivial
  | some lock => exact Within.bind (within_isOwned lock) fun _ _ => within_throwIf.forget

/-- A caller may release its own lock. -/
theorem within_release {key : String} {lock : DistributedLock} (own : lock.Of t key)
    : Within (Step footprint t) t (DistributedLockService.release lock) := by
  refine Within.action fun world input result after acted => ?_
  split at acted
  · obtain ⟨rfl, rfl⟩ := Prod.mk.inj (Option.some.inj acted)
    exact ⟨.idle, trivial⟩
  · split at acted
    · obtain ⟨rfl, rfl⟩ := Prod.mk.inj (Option.some.inj acted)
      exact ⟨.redis world.redis _ fun u _ => Leases.Kept.refl u _, trivial⟩
    · obtain ⟨rfl, rfl⟩ := Prod.mk.inj (Option.some.inj acted)
      refine ⟨.redis _ _ fun u other => Leases.release_kept _ _ ?_, trivial⟩
      rw [own.2]
      exact Ne.symm other

/-- Polling is a number of acquisitions, by induction on it. -/
theorem within_poll (config : Config) (key : String) (attempts : Nat)
    : Within (Step footprint t) t (DistributedLockService.poll config key attempts)
        fun lock => ∀ held ∈ lock, held.Of t key := by
  induction attempts with
  | zero => exact Within.pure nofun
  | succ attempt ih =>
      refine Within.bind (within_acquire config key) fun lock own => ?_
      cases lock with
      | none => exact ih
      | some lock => exact Within.pure own

/-- A lock is released if there is one. -/
theorem within_releaseAny {key : String} {lock : Option DistributedLock}
    (own : ∀ held ∈ lock, held.Of t key)
    : Within (Step footprint t) t (DistributedLock.release lock) := by
  cases lock with
  | none => exact Within.pure trivial
  | some lock =>
      exact Within.bind (within_release (own lock rfl)) fun _ _ => Within.pure trivial

-----------------------------------------------------------------------------------------
-- Liquidity
-----------------------------------------------------------------------------------------

/-- Liquidity transactions may do what they like with their own tables. -/
structure Footprint.AllowsLiquidity (footprint : Footprint) : Prop where
  pool : ∀ id old new, footprint.writes (.liquidityPool id) old new
  reservation : ∀ orderId old new, footprint.writes (.liquidityReservation orderId) old new
  treasury : ∀ id old new, footprint.writes (.treasuryTransaction id) old new

section

variable (allows : footprint.AllowsLiquidity)
include allows

/-- Confirming a reservation writes the reservation. -/
theorem within_confirmReservationInTx {x : TxId} (own : x.owner = t) (orderId : Id)
    : Within (Step footprint t) t (LiquidityService.confirmReservationInTx x orderId) := by
  refine Within.bind within_findUnique fun found _ => ?_
  cases found with
  | none => exact Within.pure trivial
  | some reservation =>
      dsimp only
      split
      · exact Within.pure trivial
      · split
        · exact Within.pure trivial
        · exact Within.map (within_updateIn own fun row =>
            allows.reservation orderId _ _)

/-- Releasing a reservation writes the reservation and its pool. -/
theorem within_releaseReservationInTx {x : TxId} (own : x.owner = t) (orderId : Id)
    (targetStatus : LiquidityReservationStatus)
    : Within (Step footprint t) t
        (LiquidityService.releaseReservationInTx x orderId targetStatus) := by
  refine Within.bind within_findUnique fun found _ => ?_
  cases found with
  | none => exact Within.pure trivial
  | some reservation =>
      dsimp only
      split
      · exact Within.pure trivial
      · refine Within.bind (within_selectForUpdate own) fun _ _ => ?_
        refine Within.bind within_findUniqueOrThrow fun pool _ => ?_
        refine Within.bind (within_updateIn own fun row => allows.pool _ _ _) fun _ _ => ?_
        exact Within.map (within_updateIn own fun row =>
          allows.reservation orderId _ _)

/-- The same in a transaction of its own. -/
theorem within_releaseReservation (orderId : Id) (targetStatus : LiquidityReservationStatus)
    : Within (Step footprint t) t
        (LiquidityService.releaseReservation orderId targetStatus) :=
  within_transaction fun _ own => within_releaseReservationInTx allows own orderId targetStatus

/-- Consuming a reservation writes the reservation, its pool and the treasury. -/
theorem within_consumeReservation (orderId : Id) (externalRef stellarTxHash : Option String)
    : Within (Step footprint t) t
        (LiquidityService.consumeReservation orderId externalRef stellarTxHash) := by
  refine within_transaction fun x own => ?_
  refine Within.bind within_findUnique fun found _ => ?_
  cases found with
  | none => exact Within.pure trivial
  | some reservation =>
      dsimp only
      split
      · exact Within.pure trivial
      · split
        · exact Within.pure trivial
        · refine Within.bind (within_selectForUpdate own) fun _ _ => ?_
          refine Within.bind within_findUniqueOrThrow fun pool _ => ?_
          refine Within.bind (within_updateIn own fun row => allows.pool _ _ _) fun _ _ => ?_
          refine Within.bind (within_updateIn own fun row =>
            allows.reservation orderId _ _) fun _ _ => ?_
          refine Within.bind within_randomText fun id _ => ?_
          refine Within.bind within_now fun time _ => ?_
          refine Within.bind (Q := fun _ => True) (within_create (by simpa using own)
            (fun entry member => ?_) trivial) fun _ _ => Within.pure trivial
          obtain rfl := List.mem_singleton.mp member
          exact allows.treasury id _ _

end

-----------------------------------------------------------------------------------------
-- Refunds
-----------------------------------------------------------------------------------------

/-- What nothing changes about a refund. -/
structure Refund.SameRequest (row new : Refund) : Prop where
  orderId : new.orderId = row.orderId
  paymentId : new.paymentId = row.paymentId
  userId : new.userId = row.userId
  amount : new.amount = row.amount
  currency : new.currency = row.currency
  idempotencyKey : new.idempotencyKey = row.idempotencyKey

/-- The request of a refund stays the same over two writes. -/
theorem Refund.SameRequest.trans {row middle new : Refund} (first : row.SameRequest middle)
    (second : middle.SameRequest new)
    : row.SameRequest new :=
  ⟨second.orderId.trans first.orderId, second.paymentId.trans first.paymentId,
    second.userId.trans first.userId, second.amount.trans first.amount,
    second.currency.trans first.currency, second.idempotencyKey.trans first.idempotencyKey⟩

/-- Executing a refund of one of these payments moves it out of PENDING and follows up on its
payment and its order, whose transition has been checked.
-/
structure Footprint.AllowsRefund (footprint : Footprint) (t : Tid)
    (payments : Id → Prop := fun _ => True) : Prop extends footprint.AllowsLiquidity where
  refund : ∀ id (row new : Refund), row.SameRequest new → new.status ≠ .PENDING
    → footprint.writes (.refund id) (some row) new
  payment : ∀ id (row : Payment), payments id
    → footprint.writes (.payment id) (some row) { row with status := .REFUNDED }
  order : ∀ id (row : Order) (status : OrderStatus), status = .REFUNDED ∨ status = .REFUND_FAILED
    → footprint.writes (.order id) (some row) { row with status := status }
  checked : ∀ orderId status next, OrderStateMachine.canTransition status next = true
    → footprint.events (.orderChecked t orderId status next)

/-- A provider that is found is the one that is registered. -/
theorem within_get (config : Config) (providerId : String)
    : Within (Step footprint t) t (PaymentProviderRegistry.get config providerId) fun provider =>
        PaymentProviderRegistry.resolve config providerId = some provider := by
  unfold PaymentProviderRegistry.get
  cases resolved : PaymentProviderRegistry.resolve config providerId with
  | some provider => exact Within.pure rfl
  | none => exact Within.throw _

/-- A sandbox answers without a request to the outside. -/
theorem within_sandboxRefund (texts : SandboxTexts) (request : CreateRefundRequest)
    : Within (Step footprint t) t (sandboxRefund texts request) := by
  refine Within.bind within_now fun time _ => Within.bind within_randomText fun suffix _ => ?_
  split
  · exact Within.pure trivial
  · split
    · exact Within.pure trivial
    · exact Within.pure trivial

/-- A request to Paystack appends the events of its answer. -/
theorem within_refundTransaction (config : Config) (input : PaystackRefundInput)
    : Within (Step footprint t) t (refundTransaction config input) := by
  refine Within.bind within_throwIf fun _ _ => within_external fun input result events answered => ?_
  split at answered
  · obtain ⟨rfl, rfl⟩ := Prod.mk.inj (Option.some.inj answered)
    exact ⟨nofun, trivial⟩
  · split at answered
    · obtain ⟨rfl, rfl⟩ := Prod.mk.inj (Option.some.inj answered)
      exact ⟨nofun, trivial⟩
    · simp at answered

/-- A Paystack refund writes nothing but its event. -/
theorem within_paystackRefund (config : Config) (request : CreateRefundRequest)
    : Within (Step footprint t) t (paystackRefund config request) := by
  refine Within.bind within_throwIf fun _ _ => Within.tryCatch ?_ fun error => ?_
  · exact Within.bind (within_refundTransaction config _) fun _ _ => Within.pure trivial
  · split
    · refine Within.bind within_now fun time _ => ?_
      split
      · exact Within.pure trivial
      · exact Within.pure trivial
    · exact Within.throw error

/-- Every provider answers without a write, by cases on the provider. -/
theorem within_providerRefund (config : Config) (provider : Provider)
    (request : CreateRefundRequest)
    : Within (Step footprint t) t (provider.refund config request) := by
  cases provider with
  | PAYSTACK_NGN_BANK_TRANSFER => exact within_paystackRefund config request
  | _ => exact within_sandboxRefund _ request

/-- The payment of a refund is only read. -/
theorem within_paymentOf (refund : Refund)
    : Within (Step footprint t) t (RefundService.paymentOf refund) := by
  unfold RefundService.paymentOf
  split
  · exact within_findUnique
  · exact Within.pure trivial

/-- Storing an answer only moves the refund to its status. -/
structure Footprint.AllowsSettling (footprint : Footprint) (t : Tid) (refundId : Id)
    (status : RefundStatus) (payments : Id → Prop := fun _ => True) : Prop extends
    footprint.AllowsLiquidity where
  refund : ∀ (row new : Refund), row.SameRequest new → new.status = status
    → footprint.writes (.refund refundId) (some row) new
  payment : ∀ id (row : Payment), payments id
    → footprint.writes (.payment id) (some row) { row with status := .REFUNDED }
  order : ∀ id (row : Order) (status : OrderStatus), status = .REFUNDED ∨ status = .REFUND_FAILED
    → footprint.writes (.order id) (some row) { row with status := status }
  checked : ∀ orderId status next, OrderStateMachine.canTransition status next = true
    → footprint.events (.orderChecked t orderId status next)

/-- A footprint that allows a refund allows it to be settled. -/
theorem Footprint.AllowsRefund.settling {payments : Id → Prop}
    (allows : footprint.AllowsRefund t payments) (refundId : Id) {status : RefundStatus}
    (begun : status ≠ .PENDING)
    : footprint.AllowsSettling t refundId status payments where
  toAllowsLiquidity := allows.toAllowsLiquidity
  refund row new same is := allows.refund refundId row new same (is ▸ begun)
  payment := allows.payment
  order := allows.order
  checked := allows.checked

/-- The payment that is marked REFUNDED is the one of the refund. -/
theorem within_markPaymentRefunded {payments : Id → Prop} {refundId : Id} {status : RefundStatus}
    (allows : footprint.AllowsSettling t refundId status payments) {x : TxId} (own : x.owner = t)
    {paymentId : Option Id} (meant : ∀ id ∈ paymentId, payments id)
    : Within (Step footprint t) t (RefundService.markPaymentRefunded x paymentId) := by
  cases paymentId with
  | none => exact Within.pure trivial
  | some paymentId =>
      refine Within.bind (within_updateIn own fun row => ?_) fun _ _ => Within.pure trivial
      exact allows.payment paymentId row (meant paymentId rfl)

/-- The status of a refund when an answer of its provider has been stored. -/
def RefundStatus.settled : RefundStatus → RefundStatus
  | .SUCCEEDED => .SUCCEEDED
  | .FAILED => .FAILED
  | _ => .PROCESSING

/-- An answer is settled by writes of the refund, its payment and its order. -/
theorem within_settleRefundAs {payments : Id → Prop} {refundId : Id} {refund : Refund}
    (response : NormalizedRefundResponse)
    (allows : footprint.AllowsSettling t refundId response.status.settled payments)
    (meant : ∀ id ∈ refund.paymentId, payments id) (order : Order)
    : Within (Step footprint t) t
        (RefundService.settleRefund refundId refund order response) := by
  have unsettled (is : response.status.settled = .PROCESSING) : Within (Step footprint t) t
      (update none (.refund refundId) fun row =>
        { row with
          status := .PROCESSING
          failureReason :=
            some ((truthy response.failureReason).getD "Ambiguous provider network response")
          metadata := some
            { ambiguousResponse := true
              ambiguousNetworkFailure := response.ambiguousNetworkFailure } }) := by
    exact within_updateNow fun row => allows.refund row _ ⟨rfl, rfl, rfl, rfl, rfl, rfl⟩ is.symm
  unfold RefundService.settleRefund
  cases is : response.status with
  | SUCCEEDED =>
      rw [is] at allows
      dsimp only
      refine Within.bind (Q := fun _ => True) (within_transaction fun x own => ?_) fun _ _ => ?_
      · refine Within.bind within_now fun _ _ => ?_
        refine Within.bind (within_updateIn own fun row => by
          exact allows.refund row _ ⟨rfl, rfl, rfl, rfl, rfl, rfl⟩ rfl) fun _ _ => ?_
        refine Within.bind (within_markPaymentRefunded allows own meant) fun _ _ => ?_
        refine Within.bind within_throwIf fun _ legal => ?_
        refine Within.bind (within_emit (allows.checked _ _ _ (by simpa using legal)))
          fun _ _ => ?_
        refine Within.bind (within_updateIn own fun row => by
          exact allows.order _ row _ (Or.inl rfl)) fun _ _ => ?_
        exact Within.pure trivial
      · refine Within.bind (within_releaseReservation allows.toAllowsLiquidity _ _)
          fun _ _ => ?_
        exact Within.pure trivial
  | FAILED =>
      rw [is] at allows
      dsimp only
      refine within_transaction fun x own => ?_
      refine Within.bind within_now fun _ _ => ?_
      refine Within.bind (within_updateIn own fun row => by
        exact allows.refund row _ ⟨rfl, rfl, rfl, rfl, rfl, rfl⟩ rfl) fun _ _ => ?_
      refine Within.bind within_throwIf fun _ legal => ?_
      refine Within.bind (within_emit (allows.checked _ _ _ (by simpa using legal))) fun _ _ => ?_
      refine Within.bind (within_updateIn own fun row => by
        exact allows.order _ row _ (Or.inr rfl)) fun _ _ => ?_
      exact Within.pure trivial
  | _ => exact unsettled (by rw [is]; rfl)

/-- The same for a footprint that allows the whole refund. -/
theorem within_settleRefund {payments : Id → Prop} (allows : footprint.AllowsRefund t payments)
    (refundId : Id) {refund : Refund} (meant : ∀ id ∈ refund.paymentId, payments id)
    (order : Order) (response : NormalizedRefundResponse)
    : Within (Step footprint t) t
        (RefundService.settleRefund refundId refund order response) := by
  refine within_settleRefundAs response (allows.settling refundId ?_) meant order
  cases response.status <;> simp [RefundStatus.settled]

/-- Asking for a refund of such a payment stores it and moves its order. -/
structure Footprint.AllowsRefundRequest (footprint : Footprint)
    (payments : Option Id → Prop := fun _ => True) : Prop where
  order : ∀ id (row : Order),
    footprint.writes (.order id) (some row) { row with status := .REFUND_PENDING }
  refund : ∀ id (refund : Refund), refund.status = .PENDING → payments refund.paymentId
    → footprint.writes (.refund id) none refund
  idempotencyKey : ∀ key id, footprint.writes (.refundIdempotencyKey key) none id

/-- The requested amount is computed without any write. -/
theorem within_requestedAmount (input : CreateRefundInput) (remaining : Decimal)
    : Within (Step footprint t) t (RefundService.requestedAmount input remaining) := by
  unfold RefundService.requestedAmount
  split
  · exact Within.pure trivial
  · exact Within.pure trivial
  · exact Within.throw _
  · exact Within.throw _

section

variable {payments : Option Id → Prop} (allows : footprint.AllowsRefundRequest payments)
include allows

/-- A request stores one refund of the order that it has read. -/
theorem within_insertRefund {x : TxId} (own : x.owner = t) (userId : Id)
    (input : CreateRefundInput) (order : Order) {paymentId : Id} (meant : payments (some paymentId))
    (payment : Payment) (generatedKey : String)
    : Within (Step footprint t) t
        (RefundService.insertRefund x userId input order paymentId payment generatedKey) := by
  refine Within.bind (within_select (Q := fun _ => True) fun _ => trivial) fun existing _ => ?_
  refine Within.bind within_throwIf fun _ _ => ?_
  refine Within.bind (within_requestedAmount input _) fun amount _ => ?_
  refine Within.bind within_throwIf fun _ _ => Within.bind within_throwIf fun _ _ => ?_
  refine Within.bind within_throwIf fun _ _ => ?_
  refine Within.bind (within_updateIn own fun row => by exact allows.order _ row) fun _ _ => ?_
  refine Within.bind within_randomText fun id _ => Within.bind within_now fun time _ => ?_
  refine Within.bind (Q := fun _ => True) (within_create (by simpa using own)
    (fun entry member => ?_) trivial) fun _ _ => Within.pure trivial
  simp only [List.mem_cons, List.not_mem_nil, or_false] at member
  rcases member with rfl | rfl
  · exact allows.refund _ _ rfl meant
  · exact allows.idempotencyKey _ _

end

section

variable (allows : footprint.AllowsRefundRequest)
include allows

end

/-- The events of executing a refund. -/
structure Footprint.Refunds (footprint : Footprint) (t : Tid) : Prop where
  claimed : ∀ refundId status, footprint.events (.refundClaimed t refundId status)
  requested : ∀ refundId orderId amountInKobo,
    footprint.events (.refundRequested t refundId orderId amountInKobo)
  answered : ∀ refundId status, footprint.events (.refundAnswered t refundId status)

/-- A footprint that has all events of the call has those of a refund. -/
theorem Footprint.Refunds.of_own
    (own : ∀ event : Event, (∀ u ∈ event.owner, u = t) → footprint.events event)
    : footprint.Refunds t where
  claimed _ _ := own _ (by simp [Event.owner])
  requested _ _ _ := own _ (by simp [Event.owner])
  answered _ _ := own _ (by simp [Event.owner])

/-- A request to the provider appends its events. -/
theorem within_processRefund (refunds : footprint.Refunds t) (config : Config)
    (provider : Provider) (request : CreateRefundRequest)
    : Within (Step footprint t) t (provider.processRefund config request) := by
  refine Within.bind (within_emit (refunds.requested _ _ _)) fun _ _ => ?_
  refine Within.bind (within_providerRefund config provider request) fun response _ => ?_
  exact Within.bind (within_emit (refunds.answered _ _)) fun _ _ => Within.pure trivial

section

variable (allows : footprint.AllowsRefund t) (refunds : footprint.Refunds t)
include allows refunds

/-- A claimed execution asks the provider and settles the answer. -/
theorem within_executeClaimedRefund (config : Config) (refundId : Id)
    (lock : Option DistributedLock)
    : Within (Step footprint t) t
        (RefundService.executeClaimedRefund config refundId lock) := by
  refine Within.bind within_findUniqueOrThrow fun refund _ => ?_
  refine Within.bind within_findUniqueOrThrow fun order _ => ?_
  refine Within.bind (within_paymentOf refund) fun payment _ => ?_
  refine Within.bind (within_get config _) fun provider _ => ?_
  refine Within.bind (within_throwIfLost lock _) fun _ _ => ?_
  refine Within.bind (within_processRefund refunds config provider _) fun response _ => ?_
  exact within_settleRefund allows refundId (fun _ _ => trivial) order response

/-- An execution stays within the footprint of a refund. -/
theorem within_executeRefund (config : Config) (refundId : Id)
    : Within (Step footprint t) t (RefundService.executeRefund config refundId) := by
  refine Within.bind (within_acquire config _) fun lock own => ?_
  refine within_finally' ?_ (within_releaseAny own)
  refine Within.bind within_findUnique fun found _ => ?_
  cases found with
  | none => exact Within.throw _
  | some refund =>
      dsimp only
      split
      · exact Within.pure trivial
      split
      · exact Within.pure trivial
      refine Within.bind (within_throwIfLost lock _) fun _ _ => ?_
      refine Within.bind within_throwIf fun _ _ => ?_
      refine Within.bind (within_claim (refunds.claimed _ _) fun row _ => by
        exact allows.refund _ row _ ⟨rfl, rfl, rfl, rfl, rfl, rfl⟩ (by simp)) fun count _ => ?_
      split
      · exact within_findUniqueOrThrow
      · exact within_executeClaimedRefund allows refunds config refundId lock

end

end LuminaRail
