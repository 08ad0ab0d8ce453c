import LuminaRail.Payments.Reconciled
import LuminaRail.Webhooks.Deliveries

/-! Whether reconciling a payment whose webhook was missed does what the webhook would have done.
Both settle the payment that they look at and its reservation in the same way, but the daemon
takes the first payment of the order that it finds, has rules of its own for leaving an order
alone, and never moves an order beyond PAYMENT_CONFIRMED.
-/

namespace LuminaRail

open Concurrency Database Service Exclusive ReconciliationDaemon

variable {t : Tid} {s : Snapshot}

-----------------------------------------------------------------------------------------
-- The webhook
-----------------------------------------------------------------------------------------

/-- The status that a webhook gives to an order that waits for its payment. -/
def Order.reportedStatus (order : Order) : PaymentStatus → OrderStatus
  | .SUCCEEDED => order.paidStatus
  | _ => .FAILED

/-- An order that waits for its payment is moved by whatever becomes of the payment. -/
theorem moved_of_reconcilable {status : OrderStatus}
    (waits : ReconciliationDaemon.reconcilable status)
    : status.ignoresSuccess = false ∧ status.ignoresFailure = false := by
  cases status <;> simp_all [ReconciliationDaemon.reconcilable, OrderStatus.ignoresSuccess,
    OrderStatus.ignoresFailure]

theorem PaymentSettled.of_settle {orderId paymentId : Id} {verdict : PaymentStatus}
    {before after : AList Row} {order : Order} {payment : Payment}
    (settled : tableOf after = settle orderId paymentId verdict (tableOf before))
    (found : before.lookup (.order orderId) = some order)
    (stored : before.lookup (.payment paymentId) = some payment)
    (waits : ReconciliationDaemon.reconcilable order.status)
    (decided : verdict = .SUCCEEDED ∨ verdict = .FAILED)
    : PaymentSettled orderId paymentId (order.reportedStatus verdict) verdict before after := by
  have row (key : Key) : after.lookup key = settle orderId paymentId verdict (tableOf before) key :=
    congrFun settled key
  refine ⟨?_, ?_, fun id other => ?_, ?_⟩
  · obtain ⟨success, failure⟩ := moved_of_reconcilable waits
    rw [row]
    rcases decided with rfl | rfl
    · simp [settle, settleOrder, settleReservation, settlePayment, tableOf, found,
        Order.statusAfter, Order.reportedStatus, success]
    · simp [settle, settleOrder, settleReservation, settlePayment, tableOf, found,
        Order.statusAfter, Order.reportedStatus, failure]
  · rw [row]
    simp [settle, settleOrder, settleReservation, settlePayment, tableOf, stored]
  · rw [row]
    simp [settle, settleOrder, settleReservation, settlePayment, tableOf, other]
  · rw [row]
    simp [settle, settleOrder, settleReservation, settlePayment, tableOf, Function.comp_def]

/-- Processing the webhook of a pending payment, when its event comes in for the first time. -/
theorem yields_handleEvent {paymentId : Id} {payment : Payment} {order : Order}
    {verdict : PaymentStatus} {provider : Provider} {event : WebhookEventPayload}
    (found : s.committed.lookup (.order payment.orderId) = some order)
    (waits : ReconciliationDaemon.reconcilable order.status)
    (decided : verdict = .SUCCEEDED ∨ verdict = .FAILED)
    (names : Names provider event paymentId payment s.committed)
    (pending : payment.status = .PENDING) (reported : event.status = verdict)
    (new : s.committed.lookup (.webhookEvent provider.providerId event.eventId) = none)
    : (exclusiveAlone t).Yields s (WebhookService.handleEvent provider event) fun _ last =>
        PaymentSettled payment.orderId paymentId (order.reportedStatus verdict) verdict s.committed
          last.committed := by
  refine Yields.bind (yields_claimEvent provider event) fun duplicate next given => ?_
  rcases given with ⟨_, taken, _⟩ | ⟨rfl, _, row, rfl⟩
  · simp [new] at taken
  have lasts := Lasting.claimed s.committed provider.providerId event.eventId row
  have names' := names.lasting lasts
  have kept {key : Key} (lasting : key.lasting)
      : (s.save none [⟨.webhookEvent provider.providerId event.eventId, row⟩]).committed.lookup key
        = s.committed.lookup key :=
    lasts key lasting
  have allowed : PaymentStateMachine.canTransition payment.status event.status := by
    rw [pending, reported]
    rcases decided with rfl | rfl <;> rfl
  refine Yields.bind (yields_applyEvent (fun _ _ => trivial) (fun _ _ _ => trivial)
    (fun _ _ _ => trivial) names' allowed reported) fun _ last settled => ?_
  refine Yields.bind yields_now fun time _ same => ?_
  subst same
  refine Yields.bind (yields_updateNow trivial fun _ _ => trivial) fun _ after given =>
    Yields.pure ?_
  obtain ⟨_, _, _, rfl⟩ := given
  have since := PaymentSettled.of_settle settled ((kept (by trivial)).trans found) names'.stored
    waits decided
  exact (since.since (fun _ _ => kept (by trivial)) (kept (by trivial))).insert (by simp) (by simp)
    (by simp)

/-- Parsing a request leaves the database alone. -/
theorem yields_parseWebhookEvent (crypto : Crypto) (config : Config) (request : WebhookRequest)
    (provider : Provider)
    : (exclusiveAlone t).Yields s (provider.parseWebhookEvent crypto config request)
        fun event last => (∃ time, event = provider.parsedEvent crypto request time) ∧ last = s := by
  cases provider with
  | MOCK =>
      refine Yields.bind stays_throwIf.yields fun _ next same => ?_
      subst same
      exact Yields.bind yields_now fun time _ same => Yields.pure ⟨⟨time, rfl⟩, same⟩
  | NGN_BANK_TRANSFER =>
      refine Yields.bind stays_throwIf.yields fun _ next same => ?_
      subst same
      refine Protocol.Spec.action (At.stable next) fun world input result after _ here acted _ => ?_
      obtain ⟨rfl, rfl⟩ := Prod.mk.inj (Option.some.inj acted)
      exact ⟨trivial, fun other => absurd rfl other, next,
        ⟨trivial, here.covered, here.pending, here.old, here.committed, nofun⟩,
        ⟨world.clock, rfl⟩, rfl⟩
  | PAYSTACK_NGN_BANK_TRANSFER =>
      refine Yields.bind stays_throwIf.yields fun _ next same => ?_
      subst same
      dsimp only
      split
      · exact Yields.bind stays_emit.yields fun _ _ same => Yields.pure ⟨⟨0, rfl⟩, same⟩
      · exact Yields.pure ⟨⟨0, rfl⟩, rfl⟩

/-- Processing a request that comes in for the first time and is parsed as news of the payment. -/
theorem yields_processWebhook {crypto : Crypto} {config : Config} {delivery : Delivery}
    {paymentId : Id} {payment : Payment} {order : Order} {verdict : PaymentStatus}
    {provider : Provider} (found : s.committed.lookup (.order payment.orderId) = some order)
    (waits : reconcilable order.status) (decided : verdict = .SUCCEEDED ∨ verdict = .FAILED)
    (pending : payment.status = .PENDING)
    (carries : delivery.Carries crypto config provider fun event =>
      Names provider event paymentId payment s.committed ∧ event.status = verdict
        ∧ s.committed.lookup (.webhookEvent provider.providerId event.eventId) = none)
    : (exclusiveAlone t).Yields s
        (WebhookService.processWebhook crypto config delivery.providerName delivery.request)
        fun _ last => PaymentSettled payment.orderId paymentId (order.reportedStatus verdict) verdict
          s.committed last.committed := by
  unfold WebhookService.processWebhook PaymentProviderRegistry.get
  rw [carries.resolved, pure_bind]
  refine Yields.bind stays_throwIf.yields fun _ next same => ?_
  subst same
  refine Yields.bind (yields_parseWebhookEvent crypto config delivery.request provider)
    fun event next given => ?_
  obtain ⟨⟨time, rfl⟩, same⟩ := given
  subst same
  obtain ⟨names, reported, new⟩ := carries.parsed time
  exact yields_handleEvent found waits decided names pending reported new

-----------------------------------------------------------------------------------------
-- The webhook and the daemon
-----------------------------------------------------------------------------------------

/-- The statuses of an order, of its payments and of its reservation are the same. -/
structure SameStatuses (orderId : Id) (rows first second : AList Row) : Prop where
  order : (first.lookup (.order orderId)).map Order.status
    = (second.lookup (.order orderId)).map Order.status
  payments : ∀ id payment, rows.lookup (.payment id) = some payment → payment.orderId = orderId
    → (first.lookup (.payment id)).map Payment.status
      = (second.lookup (.payment id)).map Payment.status
  reservation : (first.lookup (.liquidityReservation orderId)).map LiquidityReservation.status
    = (second.lookup (.liquidityReservation orderId)).map LiquidityReservation.status

/-- The statuses that the two give to an order agree exactly where a paid order has no wallet. -/
theorem reconciledStatus_eq_reportedStatus {order : Order} {verdict : PaymentStatus}
    (decided : verdict = .SUCCEEDED ∨ verdict = .FAILED)
    : reconciledStatus verdict = order.reportedStatus verdict
      ↔ (verdict = .SUCCEEDED → isBlank order.walletAddress) := by
  rcases decided with rfl | rfl
  · by_cases blank : isBlank order.walletAddress = true <;>
      simp [reconciledStatus, Order.reportedStatus, Order.paidStatus, blank]
  · simp [reconciledStatus, Order.reportedStatus]

/-- The reservation and the payments are settled by both, so the orders decide. -/
theorem sameStatuses_iff_of_settled {orderId paymentId : Id} {status status' : OrderStatus}
    {verdict : PaymentStatus} {rows first second : AList Row}
    (settled : PaymentSettled orderId paymentId status verdict rows first)
    (settled' : PaymentSettled orderId paymentId status' verdict rows second)
    : SameStatuses orderId rows first second ↔ status = status' := by
  constructor
  · intro agree
    have order := agree.order
    rw [settled.order, settled'.order] at order
    exact Option.some.inj order
  · rintro rfl
    refine ⟨settled.order.trans settled'.order.symm, fun id payment stored _ => ?_,
      settled.reservation.trans settled'.reservation.symm⟩
    by_cases this : id = paymentId
    · rw [this, settled.payment, settled'.payment]
    · rw [settled.others id this, settled'.others id this]

/-- A payment that is settled on one side only differs. -/
theorem not_sameStatuses_of_unsettled {orderId paymentId : Id} {status : OrderStatus}
    {verdict : PaymentStatus} {payment : Payment} {rows first second : AList Row}
    (stored : rows.lookup (.payment paymentId) = some payment) (of_order : payment.orderId = orderId)
    (unsettled : payment.status ≠ verdict)
    (kept : first.lookup (.payment paymentId) = rows.lookup (.payment paymentId))
    (settled : PaymentSettled orderId paymentId status verdict rows second)
    : ¬SameStatuses orderId rows first second := by
  intro agree
  have same := agree.payments paymentId payment stored of_order
  rw [kept, stored, settled.payment] at same
  exact unsettled (Option.some.inj same)

/-- A pending payment of an order that waits for it is reported by a webhook or, where the
webhook was missed, found by the daemon, which gets the same verdict if it asks for this
payment. The daemon leaves the same statuses as the webhook exactly if it finds this payment,
does not leave the order alone and, where the payment has succeeded, the order has no wallet. By
what a lone run of either leaves behind.
-/
theorem missed_webhook_reconciled {crypto : Crypto} {config : Config} {start : World}
    {orderId paymentId : Id} {order : Order} {payment : Payment} {verdict : PaymentStatus}
    {provider : Provider} {delivery : Delivery} {rows : AList Row}
    (fresh : start.db = Server.start rows) (unobserved : start.trace = [])
    (found : rows.lookup (.order orderId) = some order) (waits : reconcilable order.status)
    (stored : rows.lookup (.payment paymentId) = some payment) (of_order : payment.orderId = orderId)
    (pending : payment.status = .PENDING) (decided : verdict = .SUCCEEDED ∨ verdict = .FAILED)
    (carries : delivery.Carries crypto config provider fun event =>
      Names provider event paymentId payment rows ∧ event.status = verdict
        ∧ rows.lookup (.webhookEvent provider.providerId event.eventId) = none)
    {t u : Tid} {action : ReconciliationAction} {result : WebhookResult}
    {reconciled processed : World}
    (reconciles : Program.Alone t (reconcileSinglePaymentOrder config orderId).run start (.ok action)
      reconciled)
    (judges : ∀ response : NormalizedPaymentResponse,
      .paymentAnswered t (askedAs order payment) response.status response.amount response.currency
          ∈ reconciled.trace
        → response.status = verdict ∧ (verdict = .SUCCEEDED → matchesOrder order response))
    (answered : action ≠ .DEFERRED)
    (processes : Program.Alone u
      (WebhookService.processWebhook crypto config delivery.providerName delivery.request).run start
      (.ok result) processed)
    : SameStatuses orderId rows reconciled.db.committed processed.db.committed
      ↔ ∃ refundId, .paymentPicked t orderId (some paymentId) refundId ∈ reconciled.trace
        ∧ considers order payment (refundId.bind fun id => rows.lookup (.refund id))
          (rows.lookup (.liquidityReservation orderId))
        ∧ (verdict = .SUCCEEDED → isBlank order.walletAddress) := by
  have unsettled : payment.status ≠ verdict := by
    rcases decided with rfl | rfl <;> simp [pending]
  have rows_eq : start.db.committed = rows := by rw [fresh]; rfl
  subst rows_eq of_order
  have webhook := Yields.alone (Q := fun _ last =>
    PaymentSettled payment.orderId paymentId (order.reportedStatus verdict) verdict
      start.db.committed last)
    ((yields_processWebhook (s := .of u start) found waits decided pending carries).mono
      fun _ _ settled _ agree => settled.agree agree) processes
  have listed := mem_paymentsOf.mpr ⟨stored, rfl⟩
  obtain ⟨picked, picks, refund, events, observed, unpicked, last, agree, ended⟩ :=
    reconciled_alone fresh unobserved found waits (List.ne_nil_of_mem listed) reconciles
  have same_pick {refundId : Option Id}
      : .paymentPicked t payment.orderId (some paymentId) refundId ∈ reconciled.trace
        ↔ paymentId = picked.1 ∧ refundId = refund := by
    rw [observed _ rfl, or_iff_right (unpicked _ _ _ _)]
    simp
  have skipped (same : last = start.db.committed)
      : ¬SameStatuses payment.orderId start.db.committed reconciled.db.committed
          processed.db.committed :=
    not_sameStatuses_of_unsettled stored rfl unsettled
      (same ▸ agree _ trivial) webhook
  cases ended with
  | deferred => exact absurd rfl answered
  | skipped unconsidered same =>
      refine iff_of_false (skipped same) fun given => ?_
      obtain ⟨refundId, found_first, considered, _⟩ := given
      obtain ⟨rfl, rfl⟩ := same_pick.mp found_first
      obtain ⟨shown, _⟩ := mem_paymentsOf.mp picks
      obtain rfl := Option.some.inj (stored.symm.trans shown)
      exact absurd (considered.symm.trans unconsidered) (by simp)
  | judged considered answers _ settled =>
      have settled : PaymentSettled payment.orderId picked.1 _ _ start.db.committed
          reconciled.db.committed :=
        settled.agree agree
      by_cases other : paymentId = picked.1
      · obtain ⟨shown, _⟩ := mem_paymentsOf.mp picks
        obtain ⟨pickedId, row⟩ := picked
        obtain rfl : paymentId = pickedId := other
        obtain rfl := Option.some.inj (stored.symm.trans shown)
        obtain ⟨same, amount⟩ := judges _ ((observed _ rfl).mpr (Or.inl
          (answers.answered ▸ List.mem_cons_self)))
        rw [judged_of_verdict decided same amount] at settled
        rw [sameStatuses_iff_of_settled settled webhook, reconciledStatus_eq_reportedStatus decided]
        constructor
        · intro wallet
          exact ⟨_, same_pick.mpr ⟨rfl, rfl⟩, considered, wallet⟩
        · intro given
          obtain ⟨_, _, _, wallet⟩ := given
          exact wallet
      · refine iff_of_false ?_ fun given => ?_
        · exact not_sameStatuses_of_unsettled stored rfl unsettled (settled.others _ other) webhook
        · obtain ⟨refundId, found_first, _⟩ := given
          exact other (same_pick.mp found_first).1

/-- A paid order with a wallet waits for its settlement after the webhook, and for nothing after
the daemon has found its payment.
-/
theorem reconciled_order_stays_confirmed
    : ∃ action result reconciled processed,
        Program.Alone 0 (reconcileSinglePaymentOrder paystackConfig "order").run
          (World.start (awaitingPayment (some "G"))) (.ok action) reconciled
        ∧ Program.Alone 0 (WebhookService.processWebhook plainCrypto paystackConfig
            "paystack" chargeSuccess).run
          (World.start (awaitingPayment (some "G"))) (.ok result) processed
        ∧ action = .CONFIRMED_AND_SETTLED ∧ result.duplicate = false
        ∧ statusOfOrder reconciled = some .PAYMENT_CONFIRMED
        ∧ statusOfOrder processed = some .SETTLEMENT_PENDING := by
  have daemon : ((reconcileSinglePaymentOrder paystackConfig "order").run.evalAlone 0
      (World.start (awaitingPayment (some "G"))) (List.replicate 20 verifiedPayment)).map
        (fun last => (last.1.toOption, statusOfOrder last.2))
      = some (some .CONFIRMED_AND_SETTLED, some .PAYMENT_CONFIRMED) := by
    decide +kernel
  have webhook : ((WebhookService.processWebhook plainCrypto paystackConfig
      "paystack" chargeSuccess).run.evalAlone 0 (World.start (awaitingPayment (some "G")))
        (List.replicate 21 {})).map
        (fun last => (last.1.toOption.map WebhookResult.duplicate, statusOfOrder last.2))
      = some (some false, some .SETTLEMENT_PENDING) := by
    decide +kernel
  obtain ⟨⟨action, reconciled⟩, ran, ended⟩ := Option.map_eq_some_iff.mp daemon
  obtain ⟨⟨result, processed⟩, ran', ended'⟩ := Option.map_eq_some_iff.mp webhook
  obtain ⟨acted, confirmed⟩ := Prod.mk.inj ended
  obtain ⟨answered, waits⟩ := Prod.mk.inj ended'
  cases action with
  | error error => simp [Except.toOption] at acted
  | ok action =>
      cases result with
      | error error => simp [Except.toOption] at answered
      | ok result =>
          refine ⟨action, result, reconciled, processed, Program.alone_of_evalAlone ran,
            Program.alone_of_evalAlone ran', ?_, ?_, confirmed, waits⟩
          · simpa [Except.toOption] using acted
          · simpa [Except.toOption] using answered

/-- Without a wallet the daemon does what the webhook would have done. -/
theorem missed_webhook_reconciled_walletless
    : ∃ action result reconciled processed,
        Program.Alone 0 (reconcileSinglePaymentOrder paystackConfig "order").run
          (World.start (awaitingPayment none)) (.ok action) reconciled
        ∧ Program.Alone 0 (WebhookService.processWebhook plainCrypto paystackConfig
            "paystack" chargeSuccess).run
          (World.start (awaitingPayment none)) (.ok result) processed
        ∧ SameStatuses "order" (awaitingPayment none) reconciled.db.committed
            processed.db.committed := by
  have daemon : ((reconcileSinglePaymentOrder paystackConfig "order").run.evalAlone 0
      (World.start (awaitingPayment none)) (List.replicate 20 verifiedPayment)).map
        (fun last => (last.1.toOption, last.2.trace))
      = some (some .CONFIRMED_AND_SETTLED, [
          .paymentAnswered 0 "PAY_1" .SUCCEEDED ⟨1000000, 4⟩ "NGN",
          .transactionVerified "PAY_1" "success" 10000 "NGN",
          .paymentReported "PAY_1", .paymentPicked 0 "order" (some "payment") none]) := by
    decide +kernel
  have webhook : ((WebhookService.processWebhook plainCrypto paystackConfig
      "paystack" chargeSuccess).run.evalAlone 0 (World.start (awaitingPayment none))
        (List.replicate 21 {})).map
        (fun last => last.1.toOption.map WebhookResult.duplicate)
      = some (some false) := by
    decide +kernel
  obtain ⟨⟨action, reconciled⟩, ran, acted⟩ := Option.map_eq_some_iff.mp daemon
  obtain ⟨⟨result, processed⟩, ran', answered⟩ := Option.map_eq_some_iff.mp webhook
  obtain ⟨acted, traced⟩ := Prod.mk.inj acted
  cases action with
  | error error => simp [Except.toOption] at acted
  | ok action =>
  cases result with
  | error error => simp [Except.toOption] at answered
  | ok result =>
      obtain rfl : action = .CONFIRMED_AND_SETTLED := by simpa [Except.toOption] using acted
      have traced : reconciled.trace = _ := traced
      have reconciles := Program.alone_of_evalAlone ran
      have processes := Program.alone_of_evalAlone ran'
      refine ⟨_, result, reconciled, processed, reconciles, processes, ?_⟩
      have names : Names .PAYSTACK_NGN_BANK_TRANSFER
          (parsePaystackEvent plainCrypto chargeSuccess.body) "payment" paidThroughPaystack
          (awaitingPayment none) :=
        ⟨by decide, rfl, "PAY_1", by decide +kernel, by decide, by decide +kernel⟩
      have carries : (⟨"paystack", chargeSuccess⟩ : Delivery).Carries plainCrypto paystackConfig
          .PAYSTACK_NGN_BANK_TRANSFER fun event =>
            Names .PAYSTACK_NGN_BANK_TRANSFER event "payment" paidThroughPaystack
                (awaitingPayment none)
              ∧ event.status = .SUCCEEDED
              ∧ (awaitingPayment none).lookup (.webhookEvent
                Provider.PAYSTACK_NGN_BANK_TRANSFER.providerId event.eventId) = none := by
        refine ⟨by decide +kernel, fun time => ?_⟩
        have succeeded : (parsePaystackEvent plainCrypto chargeSuccess.body).status = .SUCCEEDED := by
          decide +kernel
        have new : (awaitingPayment none).lookup
            (.webhookEvent Provider.PAYSTACK_NGN_BANK_TRANSFER.providerId
              (parsePaystackEvent plainCrypto chargeSuccess.body).eventId) = none := by
          decide +kernel
        exact ⟨names, succeeded, new⟩
      refine (@missed_webhook_reconciled plainCrypto paystackConfig _ "order" "payment"
        (awaitingOrder none) paidThroughPaystack .SUCCEEDED .PAYSTACK_NGN_BANK_TRANSFER
        ⟨"paystack", chargeSuccess⟩ _ rfl rfl (by decide) (by decide) (by decide) rfl rfl
        (Or.inl rfl) carries 0 0 _ _ _ _ reconciles (fun response member => ?_) (by simp)
        processes).mpr ⟨none, by simp [traced], by decide +kernel, fun _ => by decide⟩
      rw [traced] at member
      have same : askedAs (awaitingOrder none) paidThroughPaystack = "PAY_1"
          ∧ response.status = .SUCCEEDED ∧ response.amount = ⟨1000000, 4⟩
          ∧ response.currency = "NGN" := by
        simpa using member
      obtain ⟨_, status, amount, currency⟩ := same
      refine ⟨status, fun _ => ?_⟩
      rw [matchesOrder, amount, currency]
      decide +kernel

end LuminaRail
