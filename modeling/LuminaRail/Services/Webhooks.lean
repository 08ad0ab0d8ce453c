import LuminaRail.Services.Payments

/-! `WebhookService`: an event is claimed by its row in one commit, applied to the payment in
another and marked as processed in a third.
-/

namespace LuminaRail

open Database Service

structure WebhookResult where
  message : String
  duplicate : Bool
  eventId : String
deriving DecidableEq

namespace WebhookService

/-- The payments of a provider with an identifier or a reference. -/
def paymentsNamed (providerId name : String) (rows : AList Row) : List (Id × Payment) :=
  rows.entries.filterMap fun entry =>
    match entry with
    | ⟨.payment id, (payment : Payment)⟩ =>
        if payment.provider = providerId
            ∧ (payment.providerPaymentId = some name ∨ payment.reference = name) then
          some (id, payment)
        else
          none
    | _ => none

/-- Step 4 of `processWebhook` for the payment that was found, if it may take the status. -/
def applyEventInTx (tx : TxId) (paymentId : Id) (payment : Payment) (status : PaymentStatus)
    : Service Unit := do
  let count ← updateMany (some tx) (.payment paymentId)
    (fun row => row.status = payment.status) fun row => { row with status := status }
  if count = 0 then
    pure ()
  else
    PaymentService.updateProviderTransaction (some tx) paymentId status
    PaymentService.followUp (some tx) payment.orderId status

/-- Step 4 of `processWebhook`. -/
def applyEvent (provider : Provider) (event : WebhookEventPayload) : Service Unit := do
  match event.providerPaymentId with
  | none => pure ()
  | some name =>
      match ← findFirst none (paymentsNamed provider.providerId name) with
      | none => pure ()
      | some (paymentId, payment) =>
          if PaymentStateMachine.canTransition payment.status event.status then
            transaction fun tx => applyEventInTx tx paymentId payment event.status
          else
            pure ()

/-- Step 3 of `processWebhook`: the answer if the event has been claimed before. Who claims it is
observed.
-/
def claimEvent (provider : Provider) (event : WebhookEventPayload)
    : Service (Option WebhookResult) :=
  tryCatch (do
    insert (.webhookEvent provider.providerId event.eventId)
      { eventType := event.eventType, signatureVerified := true }
      fun t => .webhookClaimed t provider.providerId event.eventId
    pure none) fun error => do
      if error.errorCode = "P2002" then
        let existingEvent ← findUnique none (.webhookEvent provider.providerId event.eventId)
        if existingEvent.any WebhookEvent.processed then
          pure (some ⟨"Duplicate webhook event already processed", true, event.eventId⟩)
        else
          pure (some ⟨"Webhook event is currently being processed", true, event.eventId⟩)
      else
        throw error

/-- Steps 3 to 5 of `processWebhook`. -/
def handleEvent (provider : Provider) (event : WebhookEventPayload) : Service WebhookResult := do
  match ← claimEvent provider event with
  | some duplicate => pure duplicate
  | none =>
      applyEvent provider event
      let time ← now
      let _ ← update none (.webhookEvent provider.providerId event.eventId) fun row =>
        { row with processed := true, processedAt := some time }
      pure ⟨"Webhook processed successfully", false, event.eventId⟩

def processWebhook (crypto : Crypto) (config : Config) (providerName : String)
    (request : WebhookRequest) : Service WebhookResult := do
  let provider ← PaymentProviderRegistry.get config providerName
  throwIf (provider.verifyWebhookSignature crypto config request.headers request.rawBody = false)
    (.webhookVerification s!"Invalid webhook signature for provider: {providerName}")
  let event ← provider.parseWebhookEvent crypto config request
  handleEvent provider event

end WebhookService

theorem mem_paymentsNamed {providerId name : String} {id : Id} {payment : Payment}
    {rows : AList Row}
    : (id, payment) ∈ WebhookService.paymentsNamed providerId name rows
      ↔ rows.lookup (.payment id) = some payment ∧ payment.provider = providerId
        ∧ (payment.providerPaymentId = some name ∨ payment.reference = name) := by
  rw [WebhookService.paymentsNamed, List.mem_filterMap]
  constructor
  · intro given
    obtain ⟨⟨key, row⟩, present, chosen⟩ := given
    cases key with
    | payment other =>
        simp only [Option.ite_none_right_eq_some, Option.some.injEq, Prod.mk.injEq] at chosen
        obtain ⟨named, rfl, rfl⟩ := chosen
        exact ⟨AList.mem_lookup_iff.mpr present, named⟩
    | _ => simp at chosen
  · intro given
    exact ⟨⟨.payment id, payment⟩, AList.mem_lookup_iff.mp given.1, by simp [given.2]⟩

end LuminaRail
