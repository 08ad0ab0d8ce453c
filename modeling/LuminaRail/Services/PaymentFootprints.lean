import LuminaRail.Services.Footprints
import LuminaRail.Services.Webhooks

/-! The footprints of payments: creating them, verifying them and processing their webhooks. -/

namespace LuminaRail

open Concurrency Database Service PaymentService WebhookService

variable {footprint : Footprint} {t : Tid}

-----------------------------------------------------------------------------------------
-- Providers
-----------------------------------------------------------------------------------------

/-- The providers' reports of payments and their answers are observed. -/
structure Footprint.Reports (footprint : Footprint) (t : Tid) : Prop where
  reported : ∀ reference, footprint.events (.paymentReported reference)
  verified : ∀ reference status amountInKobo currency,
    footprint.events (.transactionVerified reference status amountInKobo currency)
  answered : ∀ name status amount currency,
    footprint.events (.paymentAnswered t name status amount currency)

/-- A footprint that has all events of the call has those of its reports. -/
theorem Footprint.Reports.of_own
    (own : ∀ event : Event, (∀ u ∈ event.owner, u = t) → footprint.events event)
    : footprint.Reports t where
  reported _ := own _ (by simp [Event.owner])
  verified _ _ _ _ := own _ (by simp [Event.owner])
  answered _ _ _ _ := own _ (by simp [Event.owner])

/-- Paystack's payments are pending at first. -/
theorem within_providerCreatePayment (config : Config) (request : CreatePaymentRequest)
    (provider : Provider)
    : Within (Step footprint t) t (provider.createPayment config request) fun response =>
        provider = .PAYSTACK_NGN_BANK_TRANSFER → response.status = .PENDING := by
  cases provider with
  | MOCK => exact within_onMock.weaken fun _ _ => nofun
  | NGN_BANK_TRANSFER =>
      exact Within.bind within_throwIf fun _ _ => within_onNgn.weaken fun _ _ => nofun
  | PAYSTACK_NGN_BANK_TRANSFER =>
      refine Within.bind within_throwIf fun _ _ => Within.bind within_throwIf fun _ _ => ?_
      refine Within.bind (Q := fun _ => True) (Within.bind within_throwIf fun _ _ => ?_)
        fun _ _ => ?_
      · refine within_external (Q := fun _ => True) fun input result events answered => ?_
        split at answered
        · obtain ⟨rfl, rfl⟩ := Prod.mk.inj (Option.some.inj answered)
          exact ⟨nofun, trivial⟩
        · split at answered
          · obtain ⟨rfl, rfl⟩ := Prod.mk.inj (Option.some.inj answered)
            exact ⟨nofun, trivial⟩
          · simp at answered
      · exact Within.pure fun _ => rfl

/-- A question to Paystack appends the events of its answer. -/
theorem within_verifyTransaction (reports : footprint.Reports t) (config : Config)
    (reference : String)
    : Within (Step footprint t) t (verifyTransaction config reference) := by
  refine Within.bind within_throwIf fun _ _ => within_external fun input result events answered => ?_
  split at answered
  · obtain ⟨rfl, rfl⟩ := Prod.mk.inj (Option.some.inj answered)
    exact ⟨nofun, trivial⟩
  · split at answered
    · obtain ⟨rfl, rfl⟩ := Prod.mk.inj (Option.some.inj answered)
      refine ⟨fun event member => ?_, trivial⟩
      rcases List.mem_cons.mp member with rfl | member
      · exact reports.verified _ _ _ _
      · split at member
        · obtain rfl := List.mem_singleton.mp member
          exact reports.reported reference
        · simp at member
    · simp at answered

/-- If an amount was expected, a payment is only reported as SUCCEEDED with this amount in NGN. -/
def NormalizedPaymentResponse.Expected (params : VerifyParams)
    (response : NormalizedPaymentResponse) : Prop :=
  ∀ expected, params.expectedAmount = some (some expected) → response.status = .SUCCEEDED
    → response.amount = koboToFixed expected.amountInKobo ∧ response.currency = "NGN"

/-- Paystack compares the amount that it is given and the currency. -/
theorem expected_of_paystack (params : VerifyParams) (result : PaystackVerifyResult)
    : NormalizedPaymentResponse.Expected params
        ⟨result.reference, paystackStatus params result, koboToFixed result.amountInKobo, result.currency,
          paystackStatus_unrefunded params result⟩ := by
  intro expected given succeeded
  have fits : ¬((params.expectedAmount.any fun expected =>
      decide (expected.map Decimal.amountInKobo ≠ some result.amountInKobo)) = true
        ∨ result.currency ≠ "NGN") := by
    intro mismatch
    have failed : paystackStatus params result = .FAILED := if_pos mismatch
    exact absurd (failed.symm.trans succeeded) (by simp)
  obtain ⟨amount, currency⟩ := not_or.mp fits
  have amount : expected.amountInKobo = result.amountInKobo := by simpa [given] using amount
  exact ⟨congrArg koboToFixed amount.symm, not_not.mp currency⟩

/-- Every provider answers without a write, and Paystack as the answer is to be expected. -/
theorem within_providerVerify (reports : footprint.Reports t) (config : Config)
    (id : String) (params : VerifyParams) (provider : Provider)
    : Within (Step footprint t) t (provider.verify config id params) fun response =>
        provider = .PAYSTACK_NGN_BANK_TRANSFER → response.Expected params := by
  cases provider with
  | MOCK =>
      change Within _ t (verifyMockPayment id) _
      unfold verifyMockPayment
      exact within_onMock.weaken fun _ _ => nofun
  | NGN_BANK_TRANSFER =>
      change Within _ t (verifyNgnPayment id params) _
      unfold verifyNgnPayment
      exact within_onNgn.weaken fun _ _ => nofun
  | PAYSTACK_NGN_BANK_TRANSFER =>
      exact Within.bind (within_verifyTransaction reports config id) fun result _ =>
        Within.pure fun _ => expected_of_paystack params result

/-- A question to the provider writes nothing. -/
theorem within_providerVerifyPayment (reports : footprint.Reports t) (config : Config)
    (id : String) (params : VerifyParams) (provider : Provider)
    : Within (Step footprint t) t (provider.verifyPayment config id params) :=
  Within.bind (within_providerVerify reports config id params provider) fun _ _ =>
    Within.bind (within_emit (reports.answered _ _ _ _)) fun _ _ => Within.pure trivial

/-- An event is parsed without any write. -/
theorem within_parseWebhookEvent (reports : footprint.Reports t) (crypto : Crypto)
    (config : Config) (request : WebhookRequest) (provider : Provider)
    : Within (Step footprint t) t (provider.parseWebhookEvent crypto config request) := by
  cases provider with
  | MOCK =>
      refine Within.bind within_throwIf fun _ _ => Within.bind within_now fun _ _ => ?_
      exact Within.pure trivial
  | NGN_BANK_TRANSFER => exact Within.bind within_throwIf fun _ _ => within_onNgn
  | PAYSTACK_NGN_BANK_TRANSFER =>
      refine Within.bind within_throwIf fun _ _ => ?_
      dsimp only
      split
      · exact Within.bind (within_emit (reports.reported _)) fun _ _ => Within.pure trivial
      · exact Within.pure trivial

-----------------------------------------------------------------------------------------
-- Creating a payment
-----------------------------------------------------------------------------------------

/-- Creating a payment stores it, the provider's answer and the new status of the order. -/
structure Footprint.AllowsCreation (footprint : Footprint) (t : Tid) : Prop where
  requested : ∀ paymentId, footprint.events (.paymentRequested t paymentId)
  stored : ∀ id (payment : Payment), payment.status = .CREATED
    → footprint.writes (.payment id) none payment
  reference : ∀ reference id, footprint.writes (.paymentReference reference) none id
  idempotencyKey : ∀ key id, footprint.writes (.paymentIdempotencyKey key) none id
  answered : ∀ id (row : Payment) (providerPaymentId : Option String) (status : PaymentStatus),
    status ≠ .REFUNDED → footprint.writes (.payment id) (some row)
      { row with providerPaymentId := providerPaymentId, status := status }
  record : ∀ paymentId (record : ProviderTransaction),
    footprint.writes (.providerTransaction paymentId) none record
  recordId : ∀ provider record id,
    footprint.writes (.providerTransactionId provider record) none id
  order : ∀ id (row : Order),
    footprint.writes (.order id) (some row) { row with status := .AWAITING_PAYMENT }

section

variable (allows : footprint.AllowsCreation t)
include allows

/-- What the provider says of a new payment is stored with it. -/
theorem within_persistProviderResponse {tx : TxId} (own : tx.owner = t) (orderId paymentId : Id)
    (provider : Provider) (response : NormalizedPaymentResponse)
    : Within (Step footprint t) t
        (persistProviderResponse tx orderId paymentId provider response) := by
  refine Within.bind (Q := fun _ => True)
    (within_create (by simpa using own) (fun entry member => ?_) trivial) fun _ _ => ?_
  · simp only [List.mem_cons, List.not_mem_nil, or_false] at member
    rcases member with rfl | rfl
    · exact allows.record _ _
    · exact allows.recordId _ _ _
  refine Within.bind (within_updateIn own fun row => by
    exact allows.answered _ row _ _ response.unrefunded) fun _ _ => ?_
  refine Within.bind (within_updateIn own fun row => by exact allows.order _ row) fun _ _ => ?_
  exact Within.pure trivial

/-- A payment is asked for outside any transaction, and its answer is stored in one. -/
theorem within_requestPayment (config : Config) (orderId paymentId : Id)
    (initialPayment : Payment) (provider : Provider)
    : Within (Step footprint t) t
        (requestPayment config orderId paymentId initialPayment provider) := by
  refine Within.bind (within_emit (allows.requested _)) fun _ _ => ?_
  refine Within.bind (Within.tryCatch (within_providerCreatePayment config _ provider)
    fun error => ?_) fun response _ => ?_
  · refine Within.bind (within_updateNow fun row => by
      exact allows.answered _ row _ .FAILED (by simp)) fun _ _ => ?_
    exact Within.throw error
  · refine Within.tryCatch ?_ fun _ => Within.pure trivial
    refine Within.bind (within_transaction fun x own =>
      within_persistProviderResponse allows own orderId paymentId provider response)
      fun _ _ => Within.pure trivial

/-- A new payment is CREATED. -/
theorem within_storePayment (paymentId : Id) {payment : Payment} (new : payment.status = .CREATED)
    : Within (Step footprint t) t
        (create none (.payment paymentId) payment (paymentIndex paymentId payment)) := by
  refine within_create (by simp) (fun entry member => ?_) trivial
  simp only [paymentIndex, List.mem_cons] at member
  rcases member with rfl | rfl | member
  · exact allows.stored _ _ new
  · exact allows.reference _ _
  · split at member
    · obtain rfl := List.mem_singleton.mp member
      exact allows.idempotencyKey _ _
    · simp at member

/-- A payment is stored before the provider is asked. -/
theorem within_establishPayment (config : Config) (userId : Id) (input : CreatePaymentInput)
    (idempotencyKey : Option String) (order : Order)
    : Within (Step footprint t) t
        (establishPayment config userId input idempotencyKey order) := by
  refine Within.bind within_now fun time _ => Within.bind within_randomText fun suffix _ => ?_
  refine Within.bind (within_get config _) fun provider _ => ?_
  refine Within.bind within_randomText fun paymentId _ => ?_
  refine Within.bind within_now fun createdAt _ => ?_
  refine Within.bind (Q := fun _ => True) (Within.tryCatch ?_ fun error => ?_) fun stored _ => ?_
  · exact Within.bind (within_storePayment allows paymentId rfl) fun _ _ => Within.pure trivial
  · split
    · cases truthy idempotencyKey with
      | none => exact Within.throw _
      | some key =>
          refine Within.bind (within_select (Q := fun _ => True) fun _ => trivial) fun found _ => ?_
          cases found with
          | none => exact Within.throw _
          | some duplicate =>
              exact Within.bind within_throwIf fun _ _ => Within.pure trivial
    · exact Within.throw error
  · cases stored with
    | inl payment => exact within_requestPayment allows config _ paymentId payment provider
    | inr duplicate => exact Within.pure trivial

/-- A payment is created within the footprint of a creation. -/
theorem within_createPayment (config : Config) (userId : Id) (input : CreatePaymentInput)
    (idempotencyKey : Option String)
    : Within (Step footprint t) t (createPayment config userId input idempotencyKey) := by
  refine Within.bind within_findUnique fun found _ => ?_
  cases found with
  | none => exact Within.throw _
  | some order =>
      refine Within.bind within_throwIf fun _ _ => ?_
      cases truthy idempotencyKey with
      | none => exact within_establishPayment allows config userId input idempotencyKey order
      | some key =>
          refine Within.bind (within_select (Q := fun _ => True) fun _ => trivial) fun found _ => ?_
          cases found with
          | none => exact within_establishPayment allows config userId input idempotencyKey order
          | some existing =>
              exact Within.bind within_throwIf fun _ _ => Within.pure trivial

end

-----------------------------------------------------------------------------------------
-- News of a payment
-----------------------------------------------------------------------------------------

/-- The checks by which news of a payment are let through to its order. -/
structure Footprint.ChecksNews (footprint : Footprint) (t : Tid) : Prop where
  succeeded : ∀ orderId (order : Order), order.status.ignoresSuccess = false
    → footprint.events (.orderChecked t orderId order.status order.paidStatus)
  failed : ∀ orderId (status : OrderStatus), status.ignoresFailure = false
    → footprint.events (.orderChecked t orderId status .FAILED)

/-- A footprint that has all events of the call has those of its checks. -/
theorem Footprint.ChecksNews.of_own
    (own : ∀ event : Event, (∀ u ∈ event.owner, u = t) → footprint.events event)
    : footprint.ChecksNews t :=
  ⟨fun _ _ _ => own _ (by simp [Event.owner]), fun _ _ _ => own _ (by simp [Event.owner])⟩

/-- News of a payment move it as its state machine allows, if it may be moved, and its order and
its reservation with it.
-/
structure Footprint.AllowsNews (footprint : Footprint) (t : Tid)
    (moves : Id → PaymentStatus → Prop := fun _ _ => True) : Prop extends
    footprint.AllowsLiquidity where
  reports : footprint.Reports t
  checks : footprint.ChecksNews t
  transition : ∀ id (row : Payment) (status : PaymentStatus), moves id status
    → PaymentStateMachine.canTransition row.status status → status ≠ .REFUNDED
    → footprint.writes (.payment id) (some row) { row with status := status }
  record : ∀ paymentId (row : ProviderTransaction) (status : PaymentStatus),
    footprint.writes (.providerTransaction paymentId) (some row) { row with status := status }
  order : ∀ id (row : Order) (status : OrderStatus),
    status = .PAYMENT_CONFIRMED ∨ status = .SETTLEMENT_PENDING ∨ status = .FAILED
    → footprint.writes (.order id) (some row) { row with status := status }
  event : ∀ provider eventId old (new : WebhookEvent),
    footprint.writes (.webhookEvent provider eventId) old new
  claimed : ∀ provider eventId, footprint.events (.webhookClaimed t provider eventId)

section

variable {moves : Id → PaymentStatus → Prop} (allows : footprint.AllowsNews t moves)
include allows

/-- Confirming a reservation in a transaction of its own. -/
theorem within_confirmReservation (orderId : Id)
    : Within (Step footprint t) t (LiquidityService.confirmReservation orderId) :=
  within_transaction fun _ own =>
    within_confirmReservationInTx allows.toAllowsLiquidity own orderId

/-- News of success moves the order as far as its wallet allows. -/
theorem within_advanceOrder {client : Option TxId} (own : ∀ x ∈ client, x.owner = t)
    (orderId : Id)
    : Within (Step footprint t) t (advanceOrder client orderId) := by
  refine Within.bind within_findUnique fun found _ => ?_
  cases found with
  | none => exact Within.pure trivial
  | some order =>
      dsimp only
      split
      · exact Within.pure trivial
      · rename_i moved
        refine Within.bind (within_emit (allows.checks.succeeded _ order (by simpa using moved)))
          fun _ _ => ?_
        refine Within.bind (Q := fun _ => True) (within_update own (fun row => ?_) fun _ => trivial)
          fun _ _ => Within.pure trivial
        refine allows.order _ row _ ?_
        unfold Order.paidStatus
        split
        · exact Or.inl rfl
        · exact Or.inr (Or.inl rfl)

/-- News of failure moves the order to FAILED. -/
theorem within_failOrder {client : Option TxId} (own : ∀ x ∈ client, x.owner = t) (orderId : Id)
    : Within (Step footprint t) t (failOrder client orderId) := by
  refine Within.bind within_findUnique fun found _ => ?_
  cases found with
  | none => exact Within.pure trivial
  | some order =>
      dsimp only
      split
      · exact Within.pure trivial
      · rename_i moved
        refine Within.bind (within_emit (allows.checks.failed _ _ (by simpa using moved)))
          fun _ _ => ?_
        refine Within.bind (Q := fun _ => True) (within_update own (fun row => ?_) fun _ => trivial)
          fun _ _ => Within.pure trivial
        exact allows.order _ row _ (Or.inr (Or.inr rfl))

/-- The order follows the payment, by cases on its status. -/
theorem within_followUp {client : Option TxId} (own : ∀ x ∈ client, x.owner = t) (orderId : Id)
    (status : PaymentStatus)
    : Within (Step footprint t) t (followUp client orderId status) := by
  cases status with
  | SUCCEEDED =>
      exact Within.bind (within_confirmReservation allows orderId) fun _ _ =>
        within_advanceOrder allows own orderId
  | FAILED =>
      exact Within.bind (within_releaseReservation allows.toAllowsLiquidity orderId _)
        fun _ _ => within_failOrder allows own orderId
  | _ => exact Within.pure trivial

/-- The provider's record of a payment follows the payment. -/
theorem within_updateProviderTransaction {client : Option TxId}
    (own : ∀ x ∈ client, x.owner = t) (paymentId : Id) (status : PaymentStatus)
    : Within (Step footprint t) t (updateProviderTransaction client paymentId status) := by
  refine Within.bind (within_updateMany own fun row _ => ?_) fun _ _ => Within.pure trivial
  exact allows.record _ row _

/-- The compare-and-set of a payment. -/
theorem within_comparePayment {client : Option TxId} (own : ∀ x ∈ client, x.owner = t)
    {paymentId : Id} {payment : Payment} {status : PaymentStatus} (may : moves paymentId status)
    (allowed : PaymentStateMachine.canTransition payment.status status)
    (unrefunded : status ≠ .REFUNDED)
    : Within (Step footprint t) t
        (updateMany client (.payment paymentId) (fun row => row.status = payment.status)
          fun row => { row with status := status }) := by
  refine within_updateMany own fun row unchanged => ?_
  have same : row.status = payment.status := by simpa using unchanged
  exact allows.transition _ row _ may (same ▸ allowed) unrefunded

/-- What `verifyPayment` does with the provider's answer. -/
theorem within_followVerification (paymentId : Id) (payment : Payment)
    (providerTransaction : Option ProviderTransaction) {status : PaymentStatus}
    (may : moves paymentId status) (unrefunded : status ≠ .REFUNDED)
    : Within (Step footprint t) t (do
        PaymentStateMachine.validateTransition payment.status status
        let count ← updateMany none (.payment paymentId) (fun row => row.status = payment.status)
          fun row => { row with status := status }
        if count = 0 then
          let concurrent := AppError.invalidPaymentState
            s!"Concurrent status modification detected for payment {paymentId}."
          match ← findUnique none (.payment paymentId) with
          | none => throw concurrent
          | some currentPayment =>
              throwIf (currentPayment.status ≠ status) concurrent
              pure currentPayment
        else
          if providerTransaction.isSome then
            updateProviderTransaction none paymentId status
          followUp none payment.orderId status
          findUniqueOrThrow none (.payment paymentId)) := by
  refine Within.bind within_throwIf fun _ valid => ?_
  refine Within.bind (within_comparePayment allows (by simp) may (by simpa using valid) unrefunded)
    fun count _ => ?_
  split
  · refine Within.bind within_findUnique fun found _ => ?_
    cases found with
    | none => exact Within.throw _
    | some current => exact Within.bind within_throwIf fun _ _ => Within.pure trivial
  · have rest : Within (Step footprint t) t (do
        followUp none payment.orderId status
        findUniqueOrThrow none (.payment paymentId)) :=
      Within.bind (within_followUp allows (by simp) _ _) fun _ _ => within_findUniqueOrThrow
    split
    · exact Within.bind (within_updateProviderTransaction allows (by simp) _ _) fun _ _ => rest
    · exact rest

/-- An event moves the payment as its state machine allows. -/
theorem within_applyEventInTx {tx : TxId} (own : tx.owner = t) (paymentId : Id)
    (payment : Payment) {status : PaymentStatus} (may : moves paymentId status)
    (allowed : PaymentStateMachine.canTransition payment.status status)
    (unrefunded : status ≠ .REFUNDED)
    : Within (Step footprint t) t (applyEventInTx tx paymentId payment status) := by
  have mine : ∀ x ∈ some tx, x.owner = t := by simpa using own
  refine Within.bind (within_comparePayment allows mine may allowed unrefunded) fun count _ => ?_
  split
  · exact Within.pure trivial
  · exact Within.bind (within_updateProviderTransaction allows mine _ _) fun _ _ =>
      within_followUp allows mine _ _

/-- An event is claimed by a new row under its identity. -/
theorem within_claimEvent (provider : Provider) (event : WebhookEventPayload)
    : Within (Step footprint t) t (claimEvent provider event) := by
  refine Within.tryCatch ?_ fun error => ?_
  · exact Within.bind (within_insert (allows.claimed _ _) (allows.event _ _ _ _)) fun _ _ =>
      Within.pure trivial
  · split
    · refine Within.bind within_findUnique fun existing _ => ?_
      split
      · exact Within.pure trivial
      · exact Within.pure trivial
    · exact Within.throw error

end

section

variable (allows : footprint.AllowsNews t)
include allows

/-- A verification stays within the footprint of news. -/
theorem within_verifyPayment (config : Config) (paymentId userId : Id) (isAdmin : Bool)
    (params : VerifyParams)
    : Within (Step footprint t) t (verifyPayment config paymentId userId isAdmin params) := by
  refine Within.bind (Q := fun _ => True) ?_ fun payment _ => ?_
  · refine Within.bind within_findUnique fun found _ => ?_
    cases found with
    | none => exact Within.throw _
    | some payment => exact Within.bind within_throwIf fun _ _ => Within.pure trivial
  refine Within.bind within_findUnique fun providerTransaction _ => ?_
  refine Within.bind (within_get config _) fun provider _ => ?_
  refine Within.bind (within_providerVerifyPayment allows.reports config _ params provider)
    fun response _ => ?_
  exact within_followVerification allows paymentId payment providerTransaction trivial
    response.unrefunded

/-- An event stays within the footprint of news. -/
theorem within_applyEvent (provider : Provider) (event : WebhookEventPayload)
    : Within (Step footprint t) t (applyEvent provider event) := by
  unfold applyEvent
  cases event.providerPaymentId with
  | none => exact Within.pure trivial
  | some name =>
      refine Within.bind (Q := fun _ => True)
        (within_findFirst (R := fun _ => True) (by simp)).forget fun found _ => ?_
      cases found with
      | none => exact Within.pure trivial
      | some found =>
          dsimp only
          split
          · rename_i allowed
            exact within_transaction fun _ own =>
              within_applyEventInTx allows own _ _ trivial allowed event.unrefunded
          · exact Within.pure trivial

/-- A webhook stays within the footprint of news. -/
theorem within_processWebhook (crypto : Crypto) (config : Config) (providerName : String)
    (request : WebhookRequest)
    : Within (Step footprint t) t (processWebhook crypto config providerName request) := by
  refine Within.bind (within_get config _) fun provider _ => ?_
  refine Within.bind within_throwIf fun _ _ => ?_
  refine Within.bind (within_parseWebhookEvent allows.reports crypto config request provider)
    fun event _ => ?_
  refine Within.bind (within_claimEvent allows provider event) fun claimed _ => ?_
  cases claimed with
  | some duplicate => exact Within.pure trivial
  | none =>
      refine Within.bind (within_applyEvent allows provider event) fun _ _ => ?_
      refine Within.bind within_now fun time _ => ?_
      refine Within.bind (within_updateNow fun row => by exact allows.event _ _ _ _) fun _ _ => ?_
      exact Within.pure trivial

end

end LuminaRail
