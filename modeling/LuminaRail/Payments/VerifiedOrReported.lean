import LuminaRail.Payments.GivenVerdicts

/-! Verifying a payment and the webhook about it do the same with the same verdict, in whichever order
the two learn of it.
-/

namespace LuminaRail

open Concurrency Database Service Exclusive

variable {t : Tid} {orderId paymentId : Id} {status verdict : PaymentStatus} {table : Table}
  {payment : Payment}

/-- The status of a payment after a verdict. -/
def PaymentStatus.after (status verdict : PaymentStatus) : PaymentStatus :=
  if PaymentStateMachine.canTransition status verdict then verdict else status

theorem settleIfAllowed_again
    : settleIfAllowed orderId paymentId (status.after verdict) verdict
        (settleIfAllowed orderId paymentId status verdict table)
      = settleIfAllowed orderId paymentId status verdict table := by
  by_cases allowed : PaymentStateMachine.canTransition status verdict = true
  · have again : PaymentStateMachine.canTransition verdict verdict = true := by
      simp [PaymentStateMachine.canTransition]
    simp only [settleIfAllowed, PaymentStatus.after, allowed, again, if_true]
    exact settle_again
  · simp [settleIfAllowed, PaymentStatus.after, allowed]

theorem Lasting.settleIfAllowed {table' : Table} (same : Lasting table table')
    : Lasting (settleIfAllowed orderId paymentId status verdict table)
        (settleIfAllowed orderId paymentId status verdict table') := by
  unfold LuminaRail.settleIfAllowed
  split
  · exact same.settle
  · exact same

/-- What a payment looks like after a verdict. -/
theorem settleIfAllowed_payment (stored : table (.payment paymentId) = some payment)
    : settleIfAllowed orderId paymentId payment.status verdict table (.payment paymentId)
      = some { payment with status := payment.status.after verdict } := by
  by_cases allowed : PaymentStateMachine.canTransition payment.status verdict = true
  · simp [settleIfAllowed, PaymentStatus.after, allowed, settle, settleOrder, settleReservation,
      settlePayment, stored]
  · simp [settleIfAllowed, PaymentStatus.after, allowed, stored]

theorem settleIfAllowed_payment_other {id : Id} (other : id ≠ paymentId)
    : settleIfAllowed orderId paymentId status verdict table (.payment id)
      = table (.payment id) := by
  unfold settleIfAllowed
  split
  · simp [settle, settleOrder, settleReservation, settlePayment, other]
  · rfl

theorem settleIfAllowed_webhookEvent {provider eventId : String}
    : settleIfAllowed orderId paymentId status verdict table (.webhookEvent provider eventId)
      = table (.webhookEvent provider eventId) := by
  unfold settleIfAllowed
  split <;> rfl

theorem Pooled.settled {before after : AList Row} (pooled : Pooled orderId before)
    (settled : Lasting (settleIfAllowed orderId paymentId status verdict (tableOf before))
      (tableOf after))
    : Pooled orderId after := by
  intro reservation found
  have reserved : tableOf after (.liquidityReservation orderId) = _ :=
    settled (.liquidityReservation orderId) trivial
  have pool (id : Id) : tableOf after (.liquidityPool id) = _ :=
    settled (.liquidityPool id) trivial
  rw [show tableOf after (.liquidityReservation orderId) = some reservation from found] at reserved
  change (tableOf after (.liquidityPool reservation.poolId)).isSome
  rw [pool]
  by_cases allowed : PaymentStateMachine.canTransition status verdict = true
  · simp only [settleIfAllowed, allowed, if_true, settle, settleOrder, settleReservation,
      settlePayment] at reserved ⊢
    obtain ⟨row, there, same⟩ := Option.map_eq_some_iff.mp reserved.symm
    rw [Option.isSome_map, ← same]
    exact pooled row there
  · simp only [settleIfAllowed, allowed] at reserved ⊢
    exact pooled reservation reserved.symm

/-- An event still names its payment after the verdict. -/
theorem Names.settled {provider : Provider} {event : WebhookEventPayload} {before after : AList Row}
    (names : Names provider event paymentId payment before)
    (settled : Lasting (settleIfAllowed orderId paymentId payment.status verdict (tableOf before))
      (tableOf after))
    : Names provider event paymentId { payment with status := payment.status.after verdict }
        after := by
  obtain ⟨name, same_name, of_name, only⟩ := names.named
  have stored : tableOf before (.payment paymentId) = some payment := names.stored
  refine ⟨(settled (.payment paymentId) trivial).trans (settleIfAllowed_payment stored),
    names.ofProvider, name, same_name, of_name, fun entry listed => ?_⟩
  obtain ⟨id, other⟩ := entry
  by_contra different
  obtain ⟨shown, named⟩ := mem_paymentsNamed.mp listed
  have kept : tableOf after (.payment id) = tableOf before (.payment id) :=
    (settled (.payment id) trivial).trans (settleIfAllowed_payment_other different)
  exact different (only (id, other) (mem_paymentsNamed.mpr ⟨kept.symm.trans shown, named⟩))

variable {provider : Provider} {event : WebhookEventPayload} {world after : World}

/-- The lone run of a webhook whose event comes in for the first time. -/
theorem handleEvent_settles {result : WebhookResult}
    (names : Names provider event paymentId payment world.db.committed)
    (new : world.db.committed.lookup (.webhookEvent provider.providerId event.eventId) = none)
    (run : Program.Alone t (WebhookService.handleEvent provider event).run world (.ok result) after)
    : Lasting (settleIfAllowed payment.orderId paymentId payment.status event.status
        (tableOf world.db.committed)) (tableOf after.db.committed) := by
  refine Yields.alone (Q := fun _ last => Lasting (settleIfAllowed payment.orderId paymentId
    payment.status event.status (tableOf world.db.committed)) (tableOf last))
    ((yields_reportedEvent (s := .of t world) names).mono fun _ last ended rows agree key lasts => ?_)
    run
  have absent : (Snapshot.of t world).committed.lookup
      (.webhookEvent provider.providerId event.eventId) = none := new
  simp only [absent, Option.isSome_none, Bool.false_eq_true, false_or] at ended
  refine (agree key trivial).trans ?_
  by_cases allowed : PaymentStateMachine.canTransition payment.status event.status = true
  · rw [if_neg (by simp [allowed])] at ended
    rw [settleIfAllowed, if_pos allowed]
    exact ended key lasts
  · rw [if_pos (by simpa using allowed)] at ended
    rw [settleIfAllowed, if_neg allowed]
    exact ended key lasts

/-- A payment is verified, the webhook about it is processed, or both one after the other, with
the same verdict. All leave the same database but for the event itself, and where the
verification is refused nothing is changed. By what a lone run of each settles, since settling
again changes nothing.
-/
theorem verified_or_reported_alike {config : Config} {userId : Id} {isAdmin : Bool}
    {registered : Provider} {response : NormalizedPaymentResponse} {t u v w : Tid}
    {start verified processed verifiedFirst processedFirst : World}
    {result result' : Except AppError Payment} {answer answer' : WebhookResult}
    (names : Names provider event paymentId payment start.db.committed)
    (new : start.db.committed.lookup (.webhookEvent provider.providerId event.eventId) = none)
    (same : event.status = response.status) (access : isAdmin = true ∨ payment.userId = userId)
    (known : PaymentProviderRegistry.resolve config payment.provider = some registered)
    (pooled : Pooled payment.orderId start.db.committed)
    (verifies : Program.Alone t
      (PaymentService.verifyGiven response config paymentId userId isAdmin).run start result
      verified)
    (completed : Completed result)
    (processes : Program.Alone u (WebhookService.handleEvent provider event).run start
      (.ok answer) processed)
    (processes' : Program.Alone v (WebhookService.handleEvent provider event).run verified
      (.ok answer') verifiedFirst)
    (verifies' : Program.Alone w
      (PaymentService.verifyGiven response config paymentId userId isAdmin).run processed result'
      processedFirst)
    (completed' : Completed result')
    : Lasting (tableOf verified.db.committed) (tableOf processed.db.committed)
      ∧ Lasting (tableOf verified.db.committed) (tableOf verifiedFirst.db.committed)
      ∧ Lasting (tableOf verified.db.committed) (tableOf processedFirst.db.committed)
      ∧ ∀ error, result = .error error
        → Lasting (tableOf start.db.committed) (tableOf verified.db.committed) := by
  obtain ⟨first, refused⟩ :=
    verifyGiven_settles names.stored access known pooled verifies completed
  have reported := handleEvent_settles names new processes
  rw [same] at reported
  have unclaimed : verified.db.committed.lookup
      (.webhookEvent provider.providerId event.eventId) = none := by
    have kept : tableOf verified.db.committed (.webhookEvent provider.providerId event.eventId) = _ :=
      congrFun first _
    exact kept.trans (settleIfAllowed_webhookEvent.trans new)
  have settled : Lasting (settleIfAllowed payment.orderId paymentId payment.status response.status
      (tableOf start.db.committed)) (tableOf verified.db.committed) :=
    fun key _ => congrFun first key
  refine ⟨?_, ?_, ?_, fun error failed key _ => ?_⟩
  · rw [first]
    exact reported
  · -- the webhook finds the payment as the verification has left it
    have again := handleEvent_settles (names.settled settled) unclaimed processes'
    simp only [same, first, settleIfAllowed_again] at again
    rw [first]
    exact again
  · -- the verification finds it as the webhook has left it
    have again := (verifyGiven_settles (names.settled reported).stored access known
      (pooled.settled reported) verifies' completed').1
    have late : Lasting (settleIfAllowed payment.orderId paymentId
        (payment.status.after response.status) response.status _) _ := reported.settleIfAllowed
    rw [settleIfAllowed_again] at late
    rw [first, again]
    exact late
  · rw [first, settleIfAllowed, if_neg (by simp [refused error failed])]

/-- The world after a service has run alone on these inputs. -/
def worldAfter {α : Type} (service : Service α) (start : World) (inputs : List Input) : World :=
  ((service.run.evalAlone 0 start inputs).map Prod.snd).getD start

/-- The service has run to its end, with a value. -/
def returnsFrom {α : Type} (service : Service α) (start : World) (inputs : List Input) : Bool :=
  (service.run.evalAlone 0 start inputs).any fun last => last.1.toOption.isSome

theorem alone_of_returnsFrom {α : Type} {service : Service α} {start : World} {inputs : List Input}
    (returns : returnsFrom service start inputs)
    : ∃ value, Program.Alone 0 service.run start (.ok value) (worldAfter service start inputs) := by
  unfold returnsFrom at returns
  unfold worldAfter
  cases ran : service.run.evalAlone 0 start inputs with
  | none => simp [ran] at returns
  | some last =>
      obtain ⟨result, world⟩ := last
      cases result with
      | error error => simp [ran, Except.toOption] at returns
      | ok value => exact ⟨value, Program.alone_of_evalAlone ran⟩

/-- A payment of a hundred naira that waits, with its reservation and its pool. -/
def awaitingPooled : World :=
  World.start ((awaitingPayment none).insert (.liquidityPool "pool")
    (⟨1000000000, 500000000, 500000000⟩ : LiquidityPool))

def hundredNairaPaid : NormalizedPaymentResponse := ⟨"PAY_1", .SUCCEEDED, ⟨10000, 2⟩, "NGN", by decide⟩

def hundredNairaEvent : WebhookEventPayload :=
  ⟨"evt_1", "charge.success", some "PAY_1", .SUCCEEDED, by decide⟩

def verifyHundred : Service Payment :=
  PaymentService.verifyGiven hundredNairaPaid paystackConfig "payment" "user" false

def reportHundred : Service WebhookResult :=
  WebhookService.handleEvent .PAYSTACK_NGN_BANK_TRANSFER hundredNairaEvent

/-- Both orders of learning of a payment end alike. -/
theorem hundred_naira_verified_or_reported
    : Lasting
        (tableOf (worldAfter verifyHundred awaitingPooled (List.replicate 20 {})).db.committed)
        (tableOf (worldAfter reportHundred awaitingPooled (List.replicate 20 {})).db.committed) := by
  have first : returnsFrom verifyHundred awaitingPooled (List.replicate 20 {}) := by decide +kernel
  have second : returnsFrom reportHundred awaitingPooled (List.replicate 20 {}) := by decide +kernel
  have third : returnsFrom reportHundred
      (worldAfter verifyHundred awaitingPooled (List.replicate 20 {})) (List.replicate 20 {}) := by
    decide +kernel
  have fourth : returnsFrom verifyHundred
      (worldAfter reportHundred awaitingPooled (List.replicate 20 {})) (List.replicate 20 {}) := by
    decide +kernel
  obtain ⟨_, verifies⟩ := alone_of_returnsFrom first
  obtain ⟨_, processes⟩ := alone_of_returnsFrom second
  obtain ⟨_, processes'⟩ := alone_of_returnsFrom third
  obtain ⟨_, verifies'⟩ := alone_of_returnsFrom fourth
  have names : Names .PAYSTACK_NGN_BANK_TRANSFER hundredNairaEvent "payment" paidThroughPaystack
      awaitingPooled.db.committed :=
    ⟨by decide, rfl, "PAY_1", rfl, by decide, by decide +kernel⟩
  have known : PaymentProviderRegistry.resolve paystackConfig paidThroughPaystack.provider
      = some .PAYSTACK_NGN_BANK_TRANSFER := by decide +kernel
  have pooled : Pooled "order" awaitingPooled.db.committed := by
    intro reservation found
    have reserved : awaitingPooled.db.committed.lookup (.liquidityReservation "order")
        = some (⟨"pool", 500000000, .RESERVED, 900000⟩ : LiquidityReservation) := by decide +kernel
    cases found.symm.trans reserved
    decide +kernel
  exact (verified_or_reported_alike names (by decide) rfl (Or.inr rfl) known pooled verifies
    (by simp [Completed]) processes processes' verifies' (by simp [Completed])).1

end LuminaRail
