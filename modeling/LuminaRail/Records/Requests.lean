import LuminaRail.Records.Creation

/-! Requests on payments that have been made: verifying them and refunding them. What such a request
changes is found through the payment or the refund that it names, so a user who may see that one
may also change the order behind it.
-/

namespace LuminaRail

open Concurrency Database Service

namespace Foresight

variable {F : Foresight} {t : Tid} {x : TxId}

/-- The order behind an own payment is an own one, and so are the order and the payment behind an
own refund.
-/
structure Paired (F : Foresight) (t : Tid) : Prop where
  payment : ∀ {id} {payment : Payment}, F.known (.payment id) payment → F.OwnPayment t id
    → F.OwnOrder t payment.orderId
  refund : ∀ {id} {refund : Refund}, F.known (.refund id) refund → F.OwnRefund t id
    → F.OwnOrder t refund.orderId ∧ ∀ paymentId ∈ refund.paymentId, F.OwnPayment t paymentId

theorem paired [F.System t] : F.Paired t :=
  ⟨fun _ _ => ownOrder _, fun _ _ => ⟨ownOrder _, fun _ _ => ownPayment _⟩⟩

theorem within_confirmReservationInTx (own : x.owner = t) {orderId : Id}
    (ordered : F.OwnOrder t orderId) (paid : F.Paid orderId)
    : Within (Step (F.footprint t) t) t (LiquidityService.confirmReservationInTx x orderId) := by
  refine Within.bind within_findUnique fun found _ => ?_
  cases found with
  | none => exact Within.pure trivial
  | some reservation =>
      dsimp only
      split
      · exact Within.pure trivial
      split
      · exact Within.pure trivial
      exact Within.map (within_updateIn own fun row =>
        WritesBy.reservation (fun _ => ordered) ⟨fun _ => paid, by simp⟩)

theorem within_releaseReservationInTx (own : x.owner = t) {orderId : Id}
    (ordered : F.OwnOrder t orderId) {targetStatus : LiquidityReservationStatus}
    (released : targetStatus ≠ .CONFIRMED ∧ targetStatus ≠ .CONSUMED)
    : Within (Step (F.footprint t) t) t
        (LiquidityService.releaseReservationInTx x orderId targetStatus) := by
  refine Within.bind within_findUnique fun found _ => ?_
  cases found with
  | none => exact Within.pure trivial
  | some reservation =>
      dsimp only
      split
      · exact Within.pure trivial
      refine Within.bind (within_selectForUpdate own) fun _ _ => ?_
      refine Within.bind within_findUniqueOrThrow fun pool _ => ?_
      refine Within.bind (within_updateIn own fun row => WritesBy.pool) fun _ _ => ?_
      exact Within.map (within_updateIn own fun row => WritesBy.reservation (fun _ => ordered)
        ⟨fun confirmed => absurd confirmed released.1, fun consumed => absurd consumed released.2⟩)

theorem within_releaseReservation {orderId : Id} (ordered : F.OwnOrder t orderId)
    {targetStatus : LiquidityReservationStatus}
    (released : targetStatus ≠ .CONFIRMED ∧ targetStatus ≠ .CONSUMED)
    : Within (Step (F.footprint t) t) t
        (LiquidityService.releaseReservation orderId targetStatus) :=
  within_transaction fun _ own => within_releaseReservationInTx own ordered released

-----------------------------------------------------------------------------------------
-- The providers' reports
-----------------------------------------------------------------------------------------

/-- The provider is asked, which may be heard of. -/
theorem reports : (F.footprint t).Reports t where
  reported _ := by simp [footprint, Event.owner, Vouches]
  verified _ _ _ _ := by simp [footprint, Event.owner, Vouches]
  answered _ _ _ _ := footprint_own rfl

theorem learns_verifyTransaction (config : Config) (reference : String)
    : F.discipline.Learns t (verifyTransaction config reference) fun result =>
        result.status = "success" → F.reported reference := by
  refine Discipline.Learns.bind ((keeps t).learns within_throwIf) fun _ _ => ?_
  refine Discipline.Learns.external (keeps t) (fun input result events given => ?_)
    fun world input value events given inv => ?_
  · split at given
    · obtain ⟨rfl, rfl⟩ := Prod.mk.inj (Option.some.inj given)
      simp
    · split at given
      · obtain ⟨rfl, rfl⟩ := Prod.mk.inj (Option.some.inj given)
        intro event member
        rcases List.mem_cons.mp member with rfl | member
        · exact reports.verified _ _ _ _
        · split at member
          · obtain rfl := List.mem_singleton.mp member
            exact reports.reported reference
          · simp at member
      · simp at given
  · split at given
    · simp at given
    · split at given
      · obtain ⟨same, rfl⟩ := Prod.mk.inj (Option.some.inj given)
        obtain rfl := Except.ok.inj same
        intro success
        apply inv.1.reported
        rw [if_pos success]
        simp
      · simp at given

theorem success_of_paystackStatus {params : VerifyParams} {result : PaystackVerifyResult}
    (succeeded : paystackStatus params result = .SUCCEEDED)
    : result.status = "success" := by
  unfold paystackStatus at succeeded
  dsimp only at succeeded
  split_ifs at succeeded
  assumption

/-- A payment is only answered to have succeeded if Paystack has reported it, where it is asked. -/
theorem learns_providerVerifyPayment (config : Config) (name : String) (params : VerifyParams)
    (provider : Provider)
    : F.discipline.Learns t (provider.verifyPayment config name params) fun response =>
        response.status = .SUCCEEDED → provider = .PAYSTACK_NGN_BANK_TRANSFER
          → F.reported name := by
  refine Discipline.Learns.bind (Q := fun response => response.status = .SUCCEEDED
    → provider = .PAYSTACK_NGN_BANK_TRANSFER → F.reported name) ?_ fun response learnt => ?_
  · by_cases paystack : provider = .PAYSTACK_NGN_BANK_TRANSFER
    · subst paystack
      refine Discipline.Learns.bind (learns_verifyTransaction config name) fun result learnt => ?_
      exact Discipline.Learns.pure fun succeeded _ => learnt (success_of_paystackStatus succeeded)
    · exact (keeps t).learns ((within_providerVerify reports config name params provider).weaken
        fun _ _ _ given => absurd given paystack)
  · exact (keeps t).learns (Within.bind (within_emit (reports.answered _ _ _ _)) fun _ _ =>
      Within.pure learnt)

/-- Only Paystack answers for its payments. -/
theorem resolve_paystack {config : Config} {provider : Provider}
    (resolved : PaymentProviderRegistry.resolve config
      Provider.PAYSTACK_NGN_BANK_TRANSFER.providerId = some provider)
    : provider = .PAYSTACK_NGN_BANK_TRANSFER := by
  have same : toUpperCase Provider.PAYSTACK_NGN_BANK_TRANSFER.providerId
      = Provider.PAYSTACK_NGN_BANK_TRANSFER.providerId := by
    decide +kernel
  have named : Provider.PAYSTACK_NGN_BANK_TRANSFER.providerId ≠ "" := by
    decide
  unfold PaymentProviderRegistry.resolve at resolved
  rw [if_neg named, same] at resolved
  simpa [Provider.providerId, eq_comm] using resolved

-----------------------------------------------------------------------------------------
-- Verifying a payment
-----------------------------------------------------------------------------------------

theorem within_followUp {client : Option TxId} (own : ∀ x ∈ client, x.owner = t) {orderId : Id}
    (ordered : F.OwnOrder t orderId) {status : PaymentStatus}
    (paid : status = .SUCCEEDED → F.Paid orderId)
    : Within (Step (F.footprint t) t) t (PaymentService.followUp client orderId status) := by
  cases status with
  | SUCCEEDED =>
      refine Within.bind (within_transaction fun _ own =>
        within_confirmReservationInTx own ordered (paid rfl)) fun _ _ => ?_
      refine Within.bind within_findUnique fun found _ => ?_
      cases found with
      | none => exact Within.pure trivial
      | some order =>
          dsimp only
          split
          · exact Within.pure trivial
          refine Within.bind (within_emit (footprint_own rfl)) fun _ _ => ?_
          refine Within.bind (Q := fun _ => True)
            (within_update own (fun row => ?_) fun _ => trivial) fun _ _ => Within.pure trivial
          refine WritesBy.paidOrder ordered (paid rfl) ?_
          unfold Order.paidStatus
          split
          · exact Or.inl rfl
          · exact Or.inr rfl
  | FAILED =>
      refine Within.bind (within_releaseReservation ordered (by simp)) fun _ _ => ?_
      refine Within.bind within_findUnique fun found _ => ?_
      cases found with
      | none => exact Within.pure trivial
      | some order =>
          dsimp only
          split
          · exact Within.pure trivial
          refine Within.bind (within_emit (footprint_own rfl)) fun _ _ => ?_
          exact Within.bind (Q := fun _ => True) (within_update own (fun row => by
            exact WritesBy.order ordered (by simp)) fun _ => trivial) fun _ _ => Within.pure trivial
  | _ => exact Within.pure trivial

theorem within_updateProviderTransaction {client : Option TxId} (own : ∀ x ∈ client, x.owner = t)
    {paymentId : Id} (paid : F.OwnPayment t paymentId) (status : PaymentStatus)
    : Within (Step (F.footprint t) t) t
        (PaymentService.updateProviderTransaction client paymentId status) := by
  refine Within.bind (within_updateMany own fun row _ => ?_) fun _ _ => Within.pure trivial
  exact WritesBy.update paid rfl fun _ => trivial

theorem learns_getPaymentById (paymentId : Id) {userId : Id} {isAdmin : Bool}
    (acts : F.ActsAs t userId isAdmin)
    : F.discipline.Learns t (PaymentService.getPaymentById paymentId userId isAdmin) fun payment =>
        F.OwnPayment t paymentId ∧ F.Stored paymentId payment := by
  refine Discipline.Learns.bind learns_payment fun found stored => ?_
  cases found with
  | none => exact Discipline.Learns.throw _
  | some payment =>
      have stored : F.Stored paymentId payment := stored payment rfl
      refine Discipline.Learns.bind ((keeps t).learns within_throwIf) fun _ checked => ?_
      exact Discipline.Learns.pure ⟨Or.inr ⟨payment, stored.known, acts.allowed checked⟩, stored⟩

theorem learns_verifyPayment (paired : F.Paired t) (config : Config) (paymentId : Id) {userId : Id}
    {isAdmin : Bool} (acts : F.ActsAs t userId isAdmin) (params : VerifyParams)
    : F.discipline.Learns t
        (PaymentService.verifyPayment config paymentId userId isAdmin params) := by
  refine Discipline.Learns.bind (learns_getPaymentById paymentId acts) fun payment found => ?_
  obtain ⟨own, stored⟩ := found
  have ordered : F.OwnOrder t payment.orderId := paired.payment stored.known own
  refine Discipline.Learns.bind ((keeps t).learns within_findUnique) fun providerTransaction _ => ?_
  refine Discipline.Learns.bind ((keeps t).learns (within_get config _)) fun provider resolved => ?_
  refine Discipline.Learns.bind (learns_providerVerifyPayment config _ params provider)
    fun response reported => ?_
  have received (succeeded : response.status = .SUCCEEDED) : F.Received paymentId := by
    refine stored.received fun paystack => ⟨_, ?_, reported succeeded ?_⟩
    · cases named : truthy payment.providerPaymentId with
      | none => exact Or.inl rfl
      | some name => exact Or.inr (Or.inl (of_truthy named))
    · rw [paystack] at resolved
      exact resolve_paystack resolved
  refine (keeps t).learns (Within.bind within_throwIf fun _ _ => ?_)
  refine Within.bind (within_updateMany (by simp) fun row _ => by
    exact WritesBy.payment own received) fun count _ => ?_
  dsimp only
  split
  · refine Within.bind within_findUnique fun found _ => ?_
    cases found with
    | none => exact Within.throw _
    | some current => exact Within.bind within_throwIf fun _ _ => Within.pure trivial
  · have followed : Within (Step (F.footprint t) t) t (do
        PaymentService.followUp none payment.orderId response.status
        findUniqueOrThrow none (.payment paymentId)) :=
      Within.bind (within_followUp (by simp) ordered fun succeeded =>
        stored.paid (received succeeded)) fun _ _ => within_findUniqueOrThrow
    split
    · exact Within.bind (within_updateProviderTransaction (by simp) own _) fun _ _ => followed
    · exact followed

-----------------------------------------------------------------------------------------
-- Creating a refund
-----------------------------------------------------------------------------------------

/-- A refund takes its terms from the order and the payment that were read, and is among the writes
of its transaction.
-/
theorem spec_insertRefund (own : x.owner = t) (userId : Id) {input : CreateRefundInput}
    {order : Order} {paymentId : Id} {payment : Payment}
    (ordered : F.known (.order input.orderId) order) (acts : F.actsFor t order.userId)
    (paid : F.known (.payment paymentId) payment) (of_order : payment.orderId = input.orderId)
    (generatedKey : String)
    : F.discipline.accountable.Spec t (fun _ => True)
        (RefundService.insertRefund x userId input order paymentId payment generatedKey)
        (fun value world => F.actsFor t value.2.1.userId ∧ Discipline.Wrote x
          (fun writes => writes.dlookup (.refund value.1) = some value.2.1) world)
        fun _ _ => True := by
  have own_order : F.OwnOrder t input.orderId := Or.inr ⟨order, ordered, acts⟩
  refine Discipline.Learns.thenSpec ((keeps t).learns
    (within_select (Q := fun _ => True) fun _ => trivial)) fun existing _ => ?_
  refine Discipline.Learns.thenSpec ((keeps t).learns within_throwIf) fun _ _ => ?_
  refine Discipline.Learns.thenSpec ((keeps t).learns (within_requestedAmount input _))
    fun amount _ => ?_
  refine Discipline.Learns.thenSpec ((keeps t).learns within_throwIf) fun _ _ => ?_
  refine Discipline.Learns.thenSpec ((keeps t).learns within_throwIf) fun _ _ => ?_
  refine Discipline.Learns.thenSpec ((keeps t).learns within_throwIf) fun _ _ => ?_
  refine Discipline.Learns.thenSpec ((keeps t).learns (within_updateIn own fun row => by
    exact WritesBy.order own_order (by simp))) fun _ _ => ?_
  refine Discipline.Learns.thenSpec ((keeps t).learns within_randomText) fun id _ => ?_
  refine Discipline.Learns.thenSpec ((keeps t).learns within_now) fun time _ => ?_
  refine Protocol.Spec.bind ((keeps t).create own (fun entry member => ?_) fun entry member => ?_)
    fun refund => Protocol.Spec.assume fun same => ?_
  · obtain rfl := List.mem_singleton.mp member
    simp
  · simp only [List.mem_cons, List.not_mem_nil, or_false] at member
    rcases member with rfl | rfl
    · exact WritesBy.insert acts ⟨order, ordered, rfl, paymentId, payment, rfl, paid, of_order⟩
        trivial
    · exact WritesBy.insert trivial trivial trivial
  · subst same
    exact Protocol.Spec.pure _ fun _ _ wrote => ⟨acts, wrote⟩

/-- Everything that a refund refers to is read before anything is written. -/
theorem spec_createRefundInTx (own : x.owner = t) {userId : Id} (input : CreateRefundInput)
    {isAdmin : Bool} (acts : F.ActsAs t userId isAdmin) (idempotencyKey : Option String)
    : F.discipline.accountable.Spec t (Discipline.Unwritten x)
        (RefundService.createRefundInTx x userId input isAdmin idempotencyKey)
        (fun value world => (value.2.2 = false → F.actsFor t value.2.1.userId)
          ∧ Discipline.Wrote x (fun writes => value.2.2 = false
            → writes.dlookup (.refund value.1) = some value.2.1) world)
        fun _ _ => True := by
  refine Protocol.Spec.bind ((keeps t).selectForUpdate own) fun _ => ?_
  refine Protocol.Spec.bind ((keeps t).selectUnwritten
    (Q := fun found => ∀ order ∈ found, F.known (.order input.orderId) order) own
    fun _ inv order found => inv.1.known found) fun found => Protocol.Spec.assume fun ordered => ?_
  cases found with
  | none => exact Protocol.Spec.throw _ fun _ _ _ => trivial
  | some order =>
      refine Protocol.Spec.bind ((keeps t).selectUnwritten
        (Q := fun payments => ∀ found ∈ payments, F.known (.payment found.1) found.2
          ∧ found.2.orderId = input.orderId) own fun _ inv found listed => ?_)
        fun payments => Protocol.Spec.assume fun listed => ?_
      · obtain ⟨stored, of_order⟩ := mem_paymentsOf.mp listed
        exact ⟨inv.1.known stored, of_order⟩
      refine Protocol.Spec.pre ?_ fun _ _ _ => trivial
      refine Discipline.Learns.thenSpec ((keeps t).learns within_findUnique) fun settlement _ => ?_
      refine Discipline.Learns.thenSpec ((keeps t).learns within_throwIf) fun _ checked => ?_
      refine Discipline.Learns.thenSpec ((keeps t).learns within_throwIf) fun _ _ => ?_
      refine Discipline.Learns.thenSpec ((keeps t).learns within_throwIf) fun _ _ => ?_
      dsimp only
      split
      · exact Protocol.Spec.throw _ fun _ _ _ => trivial
      split
      · exact Protocol.Spec.throw _ fun _ _ _ => trivial
      rename_i paymentId payment chosen
      have member : (paymentId, payment) ∈ payments := by
        split at chosen
        · exact List.mem_of_find?_eq_some chosen
        · rcases Option.or_eq_some_iff.mp chosen with first | ⟨_, first⟩
          · exact List.mem_of_find?_eq_some first
          · exact List.mem_of_mem_head? first
      refine Discipline.Learns.thenSpec ((keeps t).learns within_now) fun time _ => ?_
      refine Discipline.Learns.thenSpec ((keeps t).learns
        (within_select (Q := fun _ => True) fun _ => trivial)) fun found _ => ?_
      cases found with
      | none =>
          refine Protocol.Spec.conseq (spec_insertRefund own userId (ordered order rfl)
            (acts.allowed checked) (listed _ member).1 (listed _ member).2 _)
            (fun _ _ given => given) (fun value world _ ends => ?_) fun _ _ _ given => given
          exact ⟨fun _ => ends.1, ends.2.mono fun _ written _ => written⟩
      | some existing =>
          refine Discipline.Learns.thenSpec ((keeps t).learns within_throwIf) fun _ _ => ?_
          exact Protocol.Spec.pure _ fun _ _ _ => ⟨nofun, fun _ _ => nofun⟩

/-- A new refund is committed, and is the customer's own. -/
theorem learns_createRefund {userId : Id} (input : CreateRefundInput) {isAdmin : Bool}
    (acts : F.ActsAs t userId isAdmin) (idempotencyKeyHeader : Option String)
    : F.discipline.Learns t
        (RefundService.createRefund userId input isAdmin idempotencyKeyHeader)
        fun value => value.2.2 = false → F.OwnRefund t value.1 := by
  refine (keeps t).transactionStoring (fun x own => spec_createRefundInTx own input acts _)
    fun world value writes inv own written stored new => ?_
  exact Or.inr ⟨value.2.1, inv.1.known (stored _ _ (written new)), own new⟩

-----------------------------------------------------------------------------------------
-- Executing a refund
-----------------------------------------------------------------------------------------

/-- The status of a refund moves on. -/
theorem WritesBy.refund {id : Id} {row new : Refund} (own : F.OwnRefund t id)
    (same : row.SameRequest new)
    : F.WritesBy t (.refund id) (some row) new :=
  .update own same fun _ => trivial

theorem within_settleRefund {refundId : Id} {refund : Refund} (own : F.OwnRefund t refundId)
    (ordered : F.OwnOrder t refund.orderId)
    (paid : ∀ paymentId ∈ refund.paymentId, F.OwnPayment t paymentId) (order : Order)
    (response : NormalizedRefundResponse)
    : Within (Step (F.footprint t) t) t
        (RefundService.settleRefund refundId refund order response) := by
  unfold RefundService.settleRefund
  split
  · refine Within.bind (Q := fun _ => True) (within_transaction fun x own' => ?_) fun _ _ => ?_
    · refine Within.bind within_now fun _ _ => ?_
      refine Within.bind (within_updateIn own' fun row => by
        exact WritesBy.refund own ⟨rfl, rfl, rfl, rfl, rfl, rfl⟩) fun _ _ => ?_
      refine Within.bind (Q := fun _ => True) ?_ fun _ _ => ?_
      · unfold RefundService.markPaymentRefunded
        split
        · rename_i paymentId chosen
          exact Within.bind (within_updateIn own' fun row => by
            exact WritesBy.payment (paid paymentId chosen) (by simp)) fun _ _ => Within.pure trivial
        · exact Within.pure trivial
      refine Within.bind within_throwIf fun _ _ => ?_
      refine Within.bind (within_emit (footprint_own rfl)) fun _ _ => ?_
      exact Within.bind (within_updateIn own' fun row => by exact WritesBy.order ordered (by simp))
        fun _ _ => Within.pure trivial
    · exact Within.bind (within_releaseReservation ordered (by simp)) fun _ _ =>
        Within.pure trivial
  · refine within_transaction fun x own' => ?_
    refine Within.bind within_now fun _ _ => ?_
    refine Within.bind (within_updateIn own' fun row => by
      exact WritesBy.refund own ⟨rfl, rfl, rfl, rfl, rfl, rfl⟩) fun _ _ => ?_
    refine Within.bind within_throwIf fun _ _ => ?_
    refine Within.bind (within_emit (footprint_own rfl)) fun _ _ => ?_
    exact Within.bind (within_updateIn own' fun row => by exact WritesBy.order ordered (by simp))
      fun _ _ => Within.pure trivial
  · exact within_updateNow fun row => WritesBy.refund own ⟨rfl, rfl, rfl, rfl, rfl, rfl⟩

/-- Executing a refund is observed. -/
theorem refunds : (F.footprint t).Refunds t where
  claimed _ _ := footprint_own rfl
  requested _ _ _ := footprint_own rfl
  answered _ _ := footprint_own rfl

/-- What a refund refers to is read again once the refund has been claimed. -/
theorem learns_executeClaimedRefund (paired : F.Paired t) (config : Config) {refundId : Id}
    (own : F.OwnRefund t refundId) (lock : Option DistributedLock)
    : F.discipline.Learns t (RefundService.executeClaimedRefund config refundId lock) := by
  refine Discipline.Learns.bind learns_findUniqueOrThrow fun refund read => ?_
  obtain ⟨ordered, paid⟩ := paired.refund read.known own
  refine (keeps t).learns (Within.bind within_findUniqueOrThrow fun order _ => ?_)
  refine Within.bind (within_paymentOf refund) fun payment _ => ?_
  refine Within.bind (within_get config _) fun provider _ => ?_
  refine Within.bind (within_throwIfLost lock _) fun _ _ => ?_
  refine Within.bind (Q := fun _ => True) ?_ fun response _ => ?_
  · exact within_processRefund refunds config provider _
  · exact within_settleRefund own ordered paid order response

theorem learns_executeRefund (paired : F.Paired t) (config : Config) {refundId : Id}
    (own : F.OwnRefund t refundId)
    : F.discipline.Learns t (RefundService.executeRefund config refundId) := by
  refine Discipline.Learns.bind ((keeps t).learns (within_acquire config _)) fun lock held => ?_
  refine Discipline.Learns.finally' ?_ ((keeps t).learns (within_releaseAny held))
  refine Discipline.Learns.bind learns_findUnique fun found _ => ?_
  cases found with
  | none => exact Discipline.Learns.throw _
  | some refund =>
      dsimp only
      split
      · exact Discipline.Learns.pure trivial
      split
      · exact Discipline.Learns.pure trivial
      refine Discipline.Learns.bind ((keeps t).learns (within_throwIfLost lock _)) fun _ _ => ?_
      refine Discipline.Learns.bind ((keeps t).learns within_throwIf) fun _ _ => ?_
      refine Discipline.Learns.bind ((keeps t).learns (within_claim
        (footprint_own rfl) fun row _ => by
          exact WritesBy.refund own ⟨rfl, rfl, rfl, rfl, rfl, rfl⟩)) fun count _ => ?_
      split
      · exact (keeps t).learns within_findUniqueOrThrow
      · exact learns_executeClaimedRefund paired config own lock

theorem learns_requestRefund (paired : F.Paired t) (config : Config) {userId : Id}
    (input : CreateRefundInput) {isAdmin : Bool} (acts : F.ActsAs t userId isAdmin)
    (idempotencyHeader : Option String)
    : F.discipline.Learns t
        (RefundController.createRefund config userId input isAdmin idempotencyHeader) := by
  refine Discipline.Learns.bind (learns_createRefund input acts idempotencyHeader)
    fun created own => ?_
  dsimp only
  split
  · rename_i new
    exact learns_executeRefund paired config (own new.1)
  · exact Discipline.Learns.pure trivial

/-- An automatic refund is made by the system, in the name of the customer. -/
theorem learns_processAutomaticRefund [F.System t] (config : Config) (orderId : Id)
    (paymentId : Option Id) (reason : String)
    : F.discipline.Learns t
        (RefundService.processAutomaticRefund config orderId paymentId reason) := by
  refine Discipline.Learns.tryCatch ?_ fun _ => Discipline.Learns.pure trivial
  refine Discipline.Learns.bind learns_findUnique fun found _ => ?_
  cases found with
  | none => exact Discipline.Learns.pure trivial
  | some order =>
      refine Discipline.Learns.bind (learns_createRefund _ (fun user _ => System.all user) _)
        fun created _ => ?_
      exact Discipline.Learns.map (learns_executeRefund paired config (Or.inl System.all))

end Foresight

end LuminaRail
