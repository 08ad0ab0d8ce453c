import LuminaRail.Webhooks.Deliveries

/-! What tells the events of Paystack apart. An event goes by the identifier that its body carries,
which may be that of the transaction, and only a body without any gets a digest of its own.
-/

namespace LuminaRail

open Concurrency Service

/-- The identifier in a body: that of the event, or else that of the transaction. -/
def WebhookBody.carriedId (body : WebhookBody) : Option String :=
  (nonBlank body.id).or (nonBlank body.data.id)

/-- The text that is hashed where a body carries no identifier. -/
def WebhookBody.seed (body : WebhookBody) : String :=
  let eventType := (truthy body.event).getD "charge.success"
  let reference := (truthy body.data.reference).or (truthy body.data.provider_payment_id)
  let paidAt := ((truthy body.data.paidAt).or (truthy body.data.createdAt)).getD ""
  let payment := reference.getD "unknown_ref"
  s!"{eventType}:{payment}:{paidAt}:" ++ (truthy body.data.amount).getD ""

/-- `hash.substring(0, 16)`. -/
def Crypto.digest (crypto : Crypto) (seed : String) : String :=
  toString ((crypto.sha256 seed).take 16)

/-- The identifier of an event without one. -/
def fallbackId (crypto : Crypto) (seed : String) : String := s!"evt_pstk_{crypto.digest seed}"

theorem parsePaystackEvent_eventId (crypto : Crypto) (body : WebhookBody)
    : (parsePaystackEvent crypto body).eventId
      = body.carriedId.getD (fallbackId crypto body.seed) :=
  rfl

/-- The events report different facts. -/
def WebhookEventPayload.DiffersFrom (first second : WebhookEventPayload) : Prop :=
  first.eventType ≠ second.eventType ∨ first.providerPaymentId ≠ second.providerPaymentId
    ∨ first.status ≠ second.status

/-- The bodies carry different identifiers, or one carries an identifier that is not the digest for
the other, or they carry none and have different texts to hash.
-/
def WebhookBody.ToldApart (crypto : Crypto) (first second : WebhookBody) : Prop :=
  match first.carriedId, second.carriedId with
  | some id, some other => id ≠ other
  | some id, none => id ≠ fallbackId crypto second.seed
  | none, some other => other ≠ fallbackId crypto first.seed
  | none, none => first.seed ≠ second.seed

/-- The truncated digests of two texts tell them apart. -/
def Crypto.CollisionFree (crypto : Crypto) (first second : String) : Prop :=
  crypto.digest first = crypto.digest second → first = second

theorem fallbackId_inj {crypto : Crypto} {first second : String}
    (free : crypto.CollisionFree first second)
    : fallbackId crypto first = fallbackId crypto second ↔ first = second := by
  constructor
  · intro same
    exact free ((String.append_right_inj "evt_pstk_").mp (by simpa [fallbackId, toString] using same))
  · intro same
    rw [same]

theorem eventId_ne_iff {crypto : Crypto} {first second : WebhookBody}
    (free : crypto.CollisionFree first.seed second.seed)
    : (parsePaystackEvent crypto first).eventId ≠ (parsePaystackEvent crypto second).eventId
      ↔ first.ToldApart crypto second := by
  rw [parsePaystackEvent_eventId, parsePaystackEvent_eventId, WebhookBody.ToldApart]
  cases first.carriedId with
  | some id => cases second.carriedId <;> rfl
  | none =>
      cases second.carriedId with
      | some other => exact ne_comm
      | none => exact not_congr (fallbackId_inj free)

/-- A request that is not refused has a valid signature and gives the event in its body. -/
theorem parseWebhookEvent_paystack {crypto : Crypto} {config : Config} {request : WebhookRequest}
    {event : WebhookEventPayload} {t : Tid} {world after : World}
    (ran : Program.Alone t (Provider.parseWebhookEvent crypto config request
      .PAYSTACK_NGN_BANK_TRANSFER).run world (.ok event) after)
    : event = parsePaystackEvent crypto request.body := by
  have within : Within (fun _ _ : World => True) t
      (Provider.parseWebhookEvent crypto config request .PAYSTACK_NGN_BANK_TRANSFER)
      fun event => event = parsePaystackEvent crypto request.body := by
    refine Within.bind Within.any fun _ _ => ?_
    dsimp only
    split
    · exact Within.bind Within.any fun _ _ => Within.pure rfl
    · exact Within.pure rfl
  exact within.alone ran

/-- Two signed bodies give events with different identifiers exactly if what the identifiers are
made of tells the bodies apart, whatever facts they report. By cases on where the identifier is
taken from.
-/
theorem eventId_differs_iff {crypto : Crypto} {config : Config} {first second : WebhookRequest}
    {event other : WebhookEventPayload} {t u : Tid} {world world' after after' : World}
    (ran : Program.Alone t (Provider.parseWebhookEvent crypto config first
      .PAYSTACK_NGN_BANK_TRANSFER).run world (.ok event) after)
    (ran' : Program.Alone u (Provider.parseWebhookEvent crypto config second
      .PAYSTACK_NGN_BANK_TRANSFER).run world' (.ok other) after')
    (free : crypto.CollisionFree first.body.seed second.body.seed)
    : event.eventId ≠ other.eventId ↔ first.body.ToldApart crypto second.body := by
  rw [parseWebhookEvent_paystack ran, parseWebhookEvent_paystack ran']
  exact eventId_ne_iff free

/-- A webhook about a transaction, with the identifier of the transaction only. -/
def transactionWebhook (event status : String) (transaction : Option String) : WebhookRequest :=
  { headers := { paystack := some "{}" }
    body := { event := some event,
              data := { id := transaction, reference := some "PAY_1", status := some status } }
    rawBody := "{}" }

/-- A signed request is parsed without a failure. -/
theorem parses (request : WebhookRequest)
    (signed : verifyPaystackSignature plainCrypto paystackConfig request.headers request.rawBody)
    : ∃ after, Program.Alone 0 (Provider.parseWebhookEvent plainCrypto paystackConfig request
        .PAYSTACK_NGN_BANK_TRANSFER).run (World.start ∅)
        (.ok (parsePaystackEvent plainCrypto request.body)) after := by
  have evaluated : ∃ after, Program.evalAlone 0 (Provider.parseWebhookEvent plainCrypto
      paystackConfig request .PAYSTACK_NGN_BANK_TRANSFER).run (World.start ∅) [{}]
      = some (.ok (parsePaystackEvent plainCrypto request.body), after) := by
    simp only [Provider.parseWebhookEvent, throwIf, signed, Bool.true_eq_false, if_false]
    split <;> exact ⟨_, rfl⟩
  exact evaluated.imp fun _ => Program.alone_of_evalAlone

theorem eventId_differs_iff_hashed
    : (parsePaystackEvent plainCrypto (transactionWebhook "charge.failed" "failed" none).body).eventId
      ≠ (parsePaystackEvent plainCrypto
        (transactionWebhook "charge.success" "success" none).body).eventId := by
  obtain ⟨_, first⟩ := parses (transactionWebhook "charge.failed" "failed" none) (by decide +kernel)
  obtain ⟨_, second⟩ := parses (transactionWebhook "charge.success" "success" none) (by decide +kernel)
  refine (eventId_differs_iff first second fun same => ?_).mpr ?_
  · revert same
    decide +kernel
  · show _ ≠ _
    decide +kernel

/-- A charge that has failed and then succeeds is reported by two events of one identifier. -/
theorem eventId_of_transaction
    : ∃ first second event other after after',
        Program.Alone 0 (Provider.parseWebhookEvent plainCrypto paystackConfig first
          .PAYSTACK_NGN_BANK_TRANSFER).run (World.start ∅) (.ok event) after
        ∧ Program.Alone 0 (Provider.parseWebhookEvent plainCrypto paystackConfig second
          .PAYSTACK_NGN_BANK_TRANSFER).run (World.start ∅) (.ok other) after'
        ∧ plainCrypto.CollisionFree first.body.seed second.body.seed
        ∧ event.DiffersFrom other ∧ event.eventId = other.eventId := by
  obtain ⟨_, first⟩ := parses (transactionWebhook "charge.failed" "failed" (some "302961"))
    (by decide +kernel)
  obtain ⟨_, second⟩ := parses (transactionWebhook "charge.success" "success" (some "302961"))
    (by decide +kernel)
  refine ⟨_, _, _, _, _, _, first, second, fun same => ?_, Or.inl ?_, ?_⟩
  · revert same
    decide +kernel
  · decide +kernel
  · decide +kernel

end LuminaRail
