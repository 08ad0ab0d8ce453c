import LuminaRail.Arithmetic.DecimalPlaces
import LuminaRail.Arithmetic.Doubles
import LuminaRail.Services.Providers

/-! The payment side of the three providers: taking a payment, verifying it, and checking and
reading their webhooks.
-/

namespace LuminaRail

open Arithmetic Service

/-- The identifier that a provider is registered and stored under. -/
def Provider.providerId : Provider → String
  | .MOCK => "MOCK"
  | .NGN_BANK_TRANSFER => "NGN_BANK_TRANSFER"
  | .PAYSTACK_NGN_BANK_TRANSFER => "PAYSTACK_NGN_BANK_TRANSFER"

/-- The amount is in units of 10^-4. -/
structure CreatePaymentRequest where
  amount : Int
  currency : String
  reference : String

/-- The part of `NormalizedPaymentResponse` that the services read. No provider reports a payment
as refunded.
-/
structure NormalizedPaymentResponse where
  providerPaymentId : String
  status : PaymentStatus
  amount : Decimal
  currency : String
  unrefunded : status ≠ .REFUNDED

/-- What the caller of `verifyPayment` may say about the payment; an expected amount that is no
number is `none`.
-/
structure VerifyParams where
  expectedAmount : Option (Option Decimal) := none
  simulateSuccess : Bool := false
  simulateFailure : Bool := false
  status : Option String := none

-----------------------------------------------------------------------------------------
-- Sandbox providers
-----------------------------------------------------------------------------------------

/-- What is answered of a payment that is stored. -/
def StoredPayment.response (stored : StoredPayment) : NormalizedPaymentResponse :=
  ⟨stored.providerPaymentId, stored.status, stored.amount, stored.currency, stored.unrefunded⟩

/-- A sandbox provider answers a reference that it knows with what it has stored. -/
def createSandboxPayment (idText : String) (request : CreatePaymentRequest) (time : Nat)
    (suffix : String) (sandbox : Sandbox) : NormalizedPaymentResponse × Sandbox :=
  match (sandbox.idOf request.reference).bind sandbox.payments with
  | some stored => (stored.response, sandbox)
  | none =>
      let id := s!"{idText}_{time}_{suffix}"
      let stored : StoredPayment :=
        { providerPaymentId := id
          status := if includes request.reference "fail_" then .FAILED else .PENDING
          amount := money request.amount
          currency := request.currency
          unrefunded := by split <;> simp }
      (stored.response,
        { idOf := Function.update sandbox.idOf request.reference (some id)
          payments := Function.update sandbox.payments id (some stored) })

/-- `MockPaymentProvider.verifyPayment`. -/
def verifyMockPayment (id : String) : Service NormalizedPaymentResponse :=
  onMock fun _ _ sandbox =>
    let stored := sandbox.find id
    let failed := includes id "fail_" || stored.any fun stored => stored.status = .FAILED
    (⟨id, if failed then .FAILED else .SUCCEEDED,
      (stored.map StoredPayment.amount).getD ⟨0, 4⟩,
      (truthy (stored.map StoredPayment.currency)).getD "NGN", by split <;> simp⟩, sandbox)

/-- The status that the NGN sandbox gives a payment when it is verified. -/
def verifiedNgnStatus (id : String) (params : VerifyParams) (stored : Option StoredPayment)
    : PaymentStatus :=
  if params.simulateSuccess ∨ params.status = some "SUCCEEDED"
      ∨ params.status = some "SUCCESSFUL" then
    .SUCCEEDED
  else if params.simulateFailure ∨ params.status = some "FAILED" ∨ includes id "fail_" then
    .FAILED
  else
    match stored with
    | none => .PENDING
    | some stored => if stored.status = .PENDING then .SUCCEEDED else stored.status

theorem verifiedNgnStatus_unrefunded (id : String) (params : VerifyParams)
    (stored : Option StoredPayment)
    : verifiedNgnStatus id params stored ≠ .REFUNDED := by
  unfold verifiedNgnStatus
  split
  · simp
  · split
    · simp
    · split
      · simp
      · rename_i stored
        split
        · simp
        · exact stored.unrefunded

/-- `NgnPaymentProvider.verifyPayment`. -/
def verifyNgnPayment (id : String) (params : VerifyParams)
    : Service NormalizedPaymentResponse :=
  onNgn fun _ _ sandbox =>
    let status := verifiedNgnStatus id params (sandbox.find id)
    have unrefunded := verifiedNgnStatus_unrefunded id params (sandbox.find id)
    match sandbox.find id with
    | none => (⟨id, status, ⟨0, 4⟩, "NGN", unrefunded⟩, sandbox)
    | some stored =>
        let verified : StoredPayment := { stored with status := status, unrefunded := unrefunded }
        (verified.response,
          { sandbox with
            payments := Function.update sandbox.payments stored.providerPaymentId
              (some verified) })

-----------------------------------------------------------------------------------------
-- Paystack
-----------------------------------------------------------------------------------------

/-- The number that `parseFloat` reads and `toNumber` yields. -/
def Decimal.toNumber (d : Decimal) : ℚ := toDouble d.value

/-- `Math.round(amount * 100)`. -/
def Decimal.amountInKobo (d : Decimal) : Int := round (toDouble (d.toNumber * 100))

example : (money 10050).amountInKobo = 100 := by decide +kernel

/-- `(amountInKobo / 100).toFixed(4)`. -/
def koboToFixed (amountInKobo : Int) : Decimal :=
  ⟨Rounding.ROUND_HALF_UP.round (toDouble (amountInKobo / 100 : ℚ) * 10 ^ 4), 4⟩

/-- The part of `PaystackInitInput` that says what the customer has to pay. -/
structure PaystackInitInput where
  amountInKobo : Int
  reference : String
  currency : String

def CreatePaymentRequest.paystackInput (request : CreatePaymentRequest) : PaystackInitInput :=
  { amountInKobo := (money request.amount).amountInKobo
    reference := request.reference
    currency := "NGN" }

/-- `PaystackClient.initializeTransaction`. Any answer may be given to any input. -/
def initializeTransaction (config : Config) (_input : PaystackInitInput) : Service String := do
  throwIf (config.paystack.secretKey = "")
    (.badRequest "Paystack API secret key is missing. Set PAYSTACK_SECRET_KEY in environment.")
  external fun input =>
    if input.throws then
      let failure :=
        if input.number = 0 then "Paystack Network Error"
        else "Paystack Transaction Initialization Failed"
      some (.error (.provider s!"{failure}: {input.text}"), [])
    else
      match input.reply with
      | .initialized reference => some (.ok reference, [])
      | _ => none

structure PaystackVerifyResult where
  status : String
  reference : String
  amountInKobo : Int
  currency : String

/-- `PaystackClient.verifyTransaction`; its answer is observed. -/
def verifyTransaction (config : Config) (reference : String)
    : Service PaystackVerifyResult := do
  throwIf (config.paystack.secretKey = "")
    (.badRequest "Paystack API secret key is missing. Set PAYSTACK_SECRET_KEY in environment.")
  external fun input =>
    if input.throws then
      let failure :=
        if input.number = 0 then "Paystack Network Error"
        else "Paystack Transaction Verification Failed"
      some (.error (.provider s!"{failure}: {input.text}"), [])
    else
      match input.reply with
      | .verification status answered amountInKobo currency =>
          let status := toLowerCase status
          let currency := toUpperCase (if currency = "" then "NGN" else currency)
          some (.ok ⟨status, if answered = "" then reference else answered, amountInKobo, currency⟩,
            .transactionVerified reference status amountInKobo currency
              :: if status = "success" then [.paymentReported reference] else [])
      | _ => none

/-- `PaystackNgnPaymentProvider.createPayment`. -/
def createPaystackPayment (config : Config) (request : CreatePaymentRequest)
    : Service NormalizedPaymentResponse := do
  throwIf (request.currency ≠ "NGN")
    (.badRequest ("PaystackNgnPaymentProvider only supports NGN currency, received: "
      ++ request.currency))
  throwIf (request.amount ≤ 0)
    (.badRequest s!"Invalid payment amount for NGN deposit: {money request.amount}")
  let reference ← initializeTransaction config request.paystackInput
  let reference := if reference = "" then request.reference else reference
  pure ⟨reference, .PENDING, money request.amount, request.currency, by simp⟩

/-- The status that Paystack's answer to a verification stands for. -/
def paystackStatus (params : VerifyParams) (result : PaystackVerifyResult) : PaymentStatus :=
  let answered : PaymentStatus :=
    if result.status = "success" then .SUCCEEDED
    else if result.status = "failed" ∨ result.status = "abandoned" then .FAILED
    else .PENDING
  let mismatch := params.expectedAmount.any fun expected =>
    expected.map Decimal.amountInKobo ≠ some result.amountInKobo
  if mismatch ∨ result.currency ≠ "NGN" then .FAILED else answered

theorem paystackStatus_unrefunded (params : VerifyParams) (result : PaystackVerifyResult)
    : paystackStatus params result ≠ .REFUNDED := by
  unfold paystackStatus
  dsimp only
  split_ifs <;> simp

/-- `PaystackNgnPaymentProvider.verifyPayment`. -/
def verifyPaystackPayment (config : Config) (id : String) (params : VerifyParams)
    : Service NormalizedPaymentResponse := do
  let result ← verifyTransaction config id
  pure ⟨result.reference, paystackStatus params result, koboToFixed result.amountInKobo,
    result.currency, paystackStatus_unrefunded params result⟩

def Provider.createPayment (config : Config) (request : CreatePaymentRequest)
    : Provider → Service NormalizedPaymentResponse
  | .MOCK => onMock (createSandboxPayment "mock_pay" request)
  | .NGN_BANK_TRANSFER => do
      throwIf (request.currency ≠ "NGN")
        (.badRequest ("NgnPaymentProvider only supports NGN currency, received: "
          ++ request.currency))
      onNgn (createSandboxPayment "ngn_pay" request)
  | .PAYSTACK_NGN_BANK_TRANSFER => createPaystackPayment config request

def Provider.verify (config : Config) (id : String) (params : VerifyParams)
    : Provider → Service NormalizedPaymentResponse
  | .MOCK => verifyMockPayment id
  | .NGN_BANK_TRANSFER => verifyNgnPayment id params
  | .PAYSTACK_NGN_BANK_TRANSFER => verifyPaystackPayment config id params

/-- `provider.verifyPayment`; its answer is observed. -/
def Provider.verifyPayment (config : Config) (id : String) (params : VerifyParams)
    (provider : Provider) : Service NormalizedPaymentResponse := do
  let response ← provider.verify config id params
  emit fun t => .paymentAnswered t id response.status response.amount response.currency
  pure response

-----------------------------------------------------------------------------------------
-- Webhooks
-----------------------------------------------------------------------------------------

/-- The hash functions of the platform, as hexadecimal texts. -/
structure Crypto where
  hmacSha512 : String → String → String
  sha256 : String → String

/-- The signatures that a request carries in its headers. -/
structure WebhookHeaders where
  mock : Option String := none
  ngn : Option String := none
  paystack : Option String := none

/-- Nobody reads the currency. -/
structure WebhookData where
  id : Option String := none
  reference : Option String := none
  provider_payment_id : Option String := none
  providerPaymentId : Option String := none
  status : Option String := none
  paidAt : Option String := none
  createdAt : Option String := none
  amount : Option String := none
  currency : Option String := none

structure WebhookBody where
  id : Option String := none
  event_id : Option String := none
  eventId : Option String := none
  event : Option String := none
  event_type : Option String := none
  eventType : Option String := none
  status : Option String := none
  providerPaymentId : Option String := none
  data : WebhookData := {}

/-- The text of the body as it came in and as `JSON.stringify` writes it again. -/
structure WebhookRequest where
  headers : WebhookHeaders := {}
  body : WebhookBody := {}
  rawBody : String := ""
  stringified : String := ""

structure WebhookEventPayload where
  eventId : String
  eventType : String
  providerPaymentId : Option String
  status : PaymentStatus
  unrefunded : status ≠ .REFUNDED

def verifyMockSignature (headers : WebhookHeaders) : Bool :=
  headers.mock = some "mock_valid_signature" || headers.mock = some "valid_mock_sig"

def verifyNgnSignature (crypto : Crypto) (config : Config) (headers : WebhookHeaders)
    (rawBody : String) : Bool :=
  match (truthy headers.ngn).or (truthy headers.paystack) with
  | none => false
  | some signature =>
      signature = "ngn_valid_signature" || signature = "valid_mock_sig"
        || match (truthy (some config.ngnProviderSecretKey)).or
            (truthy (some config.paystack.secretKey)) with
          | some secret => crypto.hmacSha512 secret rawBody = signature
          | none => false

def verifyPaystackSignature (crypto : Crypto) (config : Config) (headers : WebhookHeaders)
    (rawBody : String) : Bool :=
  match (truthy headers.paystack).or (truthy headers.ngn) with
  | none => false
  | some signature =>
      config.paystack.secretKey ≠ ""
        && crypto.hmacSha512 config.paystack.secretKey rawBody = signature

def Provider.verifyWebhookSignature (crypto : Crypto) (config : Config)
    (headers : WebhookHeaders) (rawBody : String) : Provider → Bool
  | .MOCK => verifyMockSignature headers
  | .NGN_BANK_TRANSFER => verifyNgnSignature crypto config headers rawBody
  | .PAYSTACK_NGN_BANK_TRANSFER => verifyPaystackSignature crypto config headers rawBody

def parseMockEvent (body : WebhookBody) (time : Nat) : WebhookEventPayload where
  eventId := ((truthy body.event_id).or (truthy body.eventId)).getD s!"evt_{time}"
  eventType := ((truthy body.event_type).or (truthy body.eventType)).getD "payment.updated"
  providerPaymentId := ((truthy body.data.provider_payment_id).or
    (truthy body.data.providerPaymentId)).or (truthy body.providerPaymentId)
  status :=
    if body.data.status = some "SUCCEEDED" ∨ body.status = some "SUCCEEDED" then .SUCCEEDED
    else if body.data.status = some "FAILED" ∨ body.status = some "FAILED" then .FAILED
    else .PENDING
  unrefunded := by split <;> [simp; split <;> simp]

def parseNgnEvent (body : WebhookBody) (time : Nat) : WebhookEventPayload :=
  let eventType := ((truthy body.event_type).or (truthy body.event)).getD "charge.success"
  let rawStatus :=
    toUpperCase (((truthy body.data.status).or (truthy body.status)).getD "")
  { eventId := ((truthy body.event_id).or (truthy body.id)).getD s!"evt_{time}"
    eventType := eventType
    providerPaymentId := (((truthy body.data.provider_payment_id).or
      (truthy body.data.providerPaymentId)).or (truthy body.data.reference)).or
      (truthy body.providerPaymentId)
    status :=
      if rawStatus = "SUCCESS" ∨ rawStatus = "SUCCEEDED" ∨ rawStatus = "SUCCESSFUL"
          ∨ eventType = "charge.success" then
        .SUCCEEDED
      else if rawStatus = "FAILED" ∨ rawStatus = "CANCELLED" ∨ eventType = "charge.failed" then
        .FAILED
      else
        .PENDING
    unrefunded := by split <;> [simp; split <;> simp] }

/-- An identifier that is not blank. -/
def nonBlank (text : Option String) : Option String := text.filter fun id => !isBlank (some id)

def parsePaystackEvent (crypto : Crypto) (body : WebhookBody) : WebhookEventPayload :=
  let eventType := (truthy body.event).getD "charge.success"
  let reference := (truthy body.data.reference).or (truthy body.data.provider_payment_id)
  let paidAt := ((truthy body.data.paidAt).or (truthy body.data.createdAt)).getD ""
  let payment := reference.getD "unknown_ref"
  let seed := s!"{eventType}:{payment}:{paidAt}:"
    ++ (truthy body.data.amount).getD ""
  let hashed := s!"evt_pstk_{(crypto.sha256 seed).take 16}"
  let rawStatus :=
    toLowerCase (((truthy body.data.status).or (truthy body.status)).getD "")
  { eventId := ((nonBlank body.id).or (nonBlank body.data.id)).getD hashed
    eventType := eventType
    providerPaymentId := reference
    status :=
      if eventType = "charge.success" ∧ rawStatus = "success" then .SUCCEEDED
      else if eventType = "charge.failed" ∨ rawStatus = "failed" then .FAILED
      else .PENDING
    unrefunded := by split <;> [simp; split <;> simp] }

/-- The sandbox provider for NGN also stores the status of a payment that it knows. -/
def rememberNgnStatus (event : WebhookEventPayload) (sandbox : Sandbox) : Sandbox :=
  match event.providerPaymentId.bind sandbox.find with
  | none => sandbox
  | some stored =>
      { sandbox with
        payments := Function.update sandbox.payments stored.providerPaymentId
          (some { stored with status := event.status, unrefunded := event.unrefunded }) }

/-- `provider.parseWebhookEvent`, which checks the signature once more; a successful payment in a
Paystack event is observed.
-/
def Provider.parseWebhookEvent (crypto : Crypto) (config : Config) (request : WebhookRequest)
    : Provider → Service WebhookEventPayload
  | .MOCK => do
      throwIf (verifyMockSignature request.headers = false)
        (.webhookVerification "Invalid mock webhook signature header")
      let time ← now
      pure (parseMockEvent request.body time)
  | .NGN_BANK_TRANSFER => do
      throwIf (verifyNgnSignature crypto config request.headers request.stringified = false)
        (.webhookVerification "Invalid NGN webhook signature header")
      onNgn fun time _ sandbox =>
        let event := parseNgnEvent request.body time
        (event, rememberNgnStatus event sandbox)
  | .PAYSTACK_NGN_BANK_TRANSFER => do
      throwIf (verifyPaystackSignature crypto config request.headers request.rawBody = false)
        (.webhookVerification "Invalid Paystack webhook signature")
      let event := parsePaystackEvent crypto request.body
      match event.status, event.providerPaymentId with
      | .SUCCEEDED, some reference => emit fun _ => .paymentReported reference
      | _, _ => pure ()
      pure event

end LuminaRail
