import LuminaRail.Model.Sections
import LuminaRail.Services.Webhooks

/-! Deliveries of webhooks: a request comes in, is parsed as an event, and is answered or fails. -/

namespace LuminaRail

open Concurrency Database Service

/-- The event that a provider makes of a request at a time. -/
def Provider.parsedEvent (crypto : Crypto) (request : WebhookRequest) (time : Nat)
    : Provider → WebhookEventPayload
  | .MOCK => parseMockEvent request.body time
  | .NGN_BANK_TRANSFER => parseNgnEvent request.body time
  | .PAYSTACK_NGN_BANK_TRANSFER => parsePaystackEvent crypto request.body

/-- A request to the webhook of a provider. -/
structure Delivery where
  providerName : String
  request : WebhookRequest

/-- The request is processed, and it is observed how that ends. -/
def Delivery.process (crypto : Crypto) (config : Config) (delivery : Delivery) : Service Unit :=
  tryCatch (do
    let _ ← WebhookService.processWebhook crypto config delivery.providerName delivery.request
    emit fun t => .webhookAnswered t) fun _ => emit fun t => .webhookFailed t

/-- The programs that process deliveries. -/
def processing (crypto : Crypto) (config : Config) (deliveries : Tid → Option Delivery) (t : Tid)
    : Program World Input Unit :=
  match deliveries t with
  | none => .done ()
  | some delivery => (delivery.process crypto config).thread

/-- The request goes to the provider, which makes an event of it of which `reports` holds. -/
structure Delivery.Carries (crypto : Crypto) (config : Config) (provider : Provider)
    (reports : WebhookEventPayload → Prop) (delivery : Delivery) : Prop where
  resolved : PaymentProviderRegistry.resolve config delivery.providerName = some provider
  parsed : ∀ time, reports (provider.parsedEvent crypto delivery.request time)

variable {H : Type} {sections : Sections H} {t : Tid} {P A F : World → Prop}

section

variable (lawful : sections.Lawful) (stable : sections.protocol.Stable t P)
  (keeps : ∀ {world after : World}, after.db = world.db
    → Grows (fun event => event.owner = none) world.trace after.trace
    → sections.inv world → sections.inv after)
  (quiet : ∀ {world after : World}, after.db = world.db
    → Grows (fun event => event.owner = none) world.trace after.trace → P world → P after)
include lawful stable keeps quiet

/-- Parsing a request changes nothing in the database. -/
theorem spec_parseWebhookEvent (crypto : Crypto) (config : Config) (request : WebhookRequest)
    (provider : Provider)
    : sections.protocol.Spec t P (provider.parseWebhookEvent crypto config request)
        (fun event world => (∃ time, event = provider.parsedEvent crypto request time) ∧ P world)
        fun _ => P := by
  cases provider with
  | MOCK =>
      refine Protocol.Spec.bind (spec_throwIf fun _ _ given => given) fun _ => ?_
      refine Protocol.Spec.assume fun _ => ?_
      refine Protocol.Spec.bind (Q := fun _ => P)
        (spec_now lawful.transactional.reading stable fun _ _ given => given) fun time => ?_
      exact Protocol.Spec.pure _ fun _ _ given => ⟨⟨time, rfl⟩, given⟩
  | NGN_BANK_TRANSFER =>
      refine Protocol.Spec.bind (spec_throwIf fun _ _ given => given) fun _ => ?_
      refine Protocol.Spec.assume fun _ => ?_
      refine lawful.spec_quiet stable (fun world input result after acted => ?_) keeps
        (fun world input value after given acted => ?_) fun world input error after given acted => ?_
      · obtain ⟨rfl, rfl⟩ := Prod.mk.inj (Option.some.inj acted)
        exact ⟨rfl, Grows.refl _ _⟩
      · obtain ⟨returned, rfl⟩ := Prod.mk.inj (Option.some.inj acted)
        refine ⟨⟨world.clock, (Except.ok.inj returned).symm⟩, ?_⟩
        exact @quiet world _ rfl (Grows.refl _ _) given
      · simp at acted
  | PAYSTACK_NGN_BANK_TRANSFER =>
      refine Protocol.Spec.bind (spec_throwIf fun _ _ given => given) fun _ => ?_
      refine Protocol.Spec.assume fun _ => ?_
      have parsed : parsePaystackEvent crypto request.body
          = Provider.parsedEvent crypto request 0 .PAYSTACK_NGN_BANK_TRANSFER := rfl
      dsimp only
      split
      · rename_i reference _ _
        have grows (world : World) : Grows (fun event => event.owner = none) world.trace
            (.paymentReported reference :: world.trace) :=
          ⟨[.paymentReported reference], rfl, by simp [Event.owner]⟩
        refine Protocol.Spec.bind (Q := fun _ => P) (lawful.spec_emit stable (by simp [Event.owner])
          fun world inv given => ⟨@keeps world _ rfl (grows world) inv,
            @quiet world _ rfl (grows world) given⟩)
          fun _ => ?_
        exact Protocol.Spec.pure _ fun _ _ given => ⟨⟨0, parsed⟩, given⟩
      · exact Protocol.Spec.pure _ fun _ _ given => ⟨⟨0, parsed⟩, given⟩

/-- How a delivery ends is observed. -/
theorem Delivery.spec_process {crypto : Crypto} {config : Config} {provider : Provider}
    {reports : WebhookEventPayload → Prop} {delivery : Delivery}
    (carries : delivery.Carries crypto config provider reports)
    (handled : ∀ event, reports event → sections.protocol.Spec t P
      (WebhookService.handleEvent provider event) (fun _ => A) fun _ => F)
    (weaker : ∀ world, P world → F world) (answering : sections.protocol.Stable t A)
    (failing : sections.protocol.Stable t F)
    (answers : ∀ world, sections.inv world → A world
      → sections.inv { world with trace := .webhookAnswered t :: world.trace })
    (fails : ∀ world, sections.inv world → F world
      → sections.inv { world with trace := .webhookFailed t :: world.trace })
    : sections.protocol.Spec t P (delivery.process crypto config) (fun _ _ => True)
        fun _ _ => True := by
  refine Protocol.Spec.tryCatch (E := fun _ => F) (Protocol.Spec.bind (Q := fun _ => A) ?_ fun _ => ?_)
    fun _ => ?_
  · unfold WebhookService.processWebhook PaymentProviderRegistry.get
    rw [carries.resolved]
    rw [pure_bind]
    refine Protocol.Spec.bind (spec_throwIf fun world _ given => weaker world given) fun _ => ?_
    refine Protocol.Spec.assume fun _ => ?_
    refine Protocol.Spec.bind ((spec_parseWebhookEvent lawful stable keeps quiet crypto config
      delivery.request provider).conseq (fun _ _ given => given) (fun _ _ _ given => given)
      fun _ world _ given => weaker world given) fun event => ?_
    refine Protocol.Spec.assume fun parsed => ?_
    obtain ⟨time, rfl⟩ := parsed
    exact handled _ (carries.parsed time)
  · exact lawful.spec_emit answering (by simp [Event.owner]) fun world inv given =>
      ⟨answers world inv given, trivial⟩
  · exact lawful.spec_emit failing (by simp [Event.owner]) fun world inv given =>
      ⟨fails world inv given, trivial⟩

end

/-- An order that waits for a payment of 100 NGN through Paystack. -/
def paidThroughPaystack : Payment :=
  { orderId := "order", userId := "user", provider := "PAYSTACK_NGN_BANK_TRANSFER",
    amount := 1000000, currency := "NGN", status := .PENDING, reference := "PAY_1" }

def awaitingOrder (walletAddress : Option String) : Order :=
  { userId := "user", quoteId := "quote", status := .AWAITING_PAYMENT, sourceCurrency := "NGN",
    destinationAsset := "USDC", sourceAmount := 1000000, destinationAmount := 500000000,
    walletAddress := walletAddress }

def awaitingPayment (walletAddress : Option String) : AList Row :=
  (((∅ : AList Row).insert (.order "order") (awaitingOrder walletAddress)).insert
    (.payment "payment") paidThroughPaystack).insert (.liquidityReservation "order")
      (⟨"pool", 500000000, .RESERVED, 900000⟩ : LiquidityReservation)

/-- The webhook of the payment. -/
def chargeSuccess : WebhookRequest :=
  { headers := { paystack := some "{}" }
    body := { id := some "evt_1", event := some "charge.success",
              data := { reference := some "PAY_1", status := some "success" } }
    rawBody := "{}" }

/-- What Paystack answers when it is asked about the payment. -/
def verifiedPayment : Input := { reply := .verification "success" "PAY_1" 10000 "NGN" }

/-- Hash functions under which the body of a request is its signature. -/
def plainCrypto : Crypto := ⟨fun _ body => body, id⟩

/-- The webhook of the payment is delivered twice. -/
def deliveredTwice (t : Tid) : Option Delivery :=
  if t < 2 then some ⟨"paystack", chargeSuccess⟩ else none

def statusOfPayment (world : World) : Option PaymentStatus :=
  (world.db.committed.lookup (.payment "payment")).map Payment.status

def statusOfOrder (world : World) : Option OrderStatus :=
  (world.db.committed.lookup (.order "order")).map Order.status

end LuminaRail
