import LuminaRail.Model.Config
import LuminaRail.Model.Decimal
import LuminaRail.Model.World

/-! `PaymentProviderRegistry` and the refund side of its three providers. -/

namespace LuminaRail

open Service

/-- The providers that are registered when the module is loaded. -/
inductive Provider
  | MOCK
  | NGN_BANK_TRANSFER
  | PAYSTACK_NGN_BANK_TRANSFER
deriving DecidableEq

namespace PaymentProviderRegistry

/-- The provider of an identifier, through its aliases. -/
def resolve (config : Config) (providerId : String) : Option Provider :=
  let normId := toUpperCase (if providerId = "" then "MOCK" else providerId)
  if normId = "NGN" ∨ normId = "NGN_BANK_TRANSFER" then
    match config.ngnProvider with
    | .paystack => some .PAYSTACK_NGN_BANK_TRANSFER
    | .sandbox => some .NGN_BANK_TRANSFER
  else if normId = "PAYSTACK" then
    some .PAYSTACK_NGN_BANK_TRANSFER
  else if normId = "SANDBOX" then
    some .NGN_BANK_TRANSFER
  else if normId = "MOCK" then
    some .MOCK
  else if normId = "PAYSTACK_NGN_BANK_TRANSFER" then
    some .PAYSTACK_NGN_BANK_TRANSFER
  else
    none

def get (config : Config) (providerId : String) : Service Provider :=
  match resolve config providerId with
  | some provider => pure provider
  | none =>
      throw (.notFound s!"Payment provider '{providerId}' is not registered or supported.")

end PaymentProviderRegistry

structure CreateRefundRequest where
  refundId : Id
  orderId : Id
  paymentReference : String
  amount : Int
  currency : String
  reason : String
  idempotencyKey : String

/-- The part of `NormalizedRefundResponse` that the refund service reads. -/
structure NormalizedRefundResponse where
  providerRefundId : String
  status : RefundStatus
  failureReason : Option String := none
  transactionReference : Option String := none
  ambiguousNetworkFailure : Bool := false
  hasRawResponse : Bool := false

/-- The texts that a sandbox provider answers with. -/
structure SandboxTexts where
  ambiguousId : String
  failedId : String
  refundId : String
  timeout : String
  rejection : String
  hasRawResponse : Bool

/-- The sandbox providers answer by what is written in the reason. -/
def sandboxRefund (texts : SandboxTexts) (request : CreateRefundRequest)
    : Service NormalizedRefundResponse := do
  let time ← now
  let suffix ← randomText
  if includes request.reason "simulated_network_error" then
    pure
      { providerRefundId := s!"{texts.ambiguousId}_{time}"
        status := .PROCESSING
        failureReason := some texts.timeout
        ambiguousNetworkFailure := true }
  else if includes request.reason "simulated_failure" then
    pure
      { providerRefundId := s!"{texts.failedId}_{time}"
        status := .FAILED
        failureReason := some texts.rejection }
  else
    pure
      { providerRefundId := s!"{texts.refundId}_{time}_{suffix}"
        status := .SUCCEEDED
        hasRawResponse := texts.hasRawResponse }

/-- `Math.round(amount * 100)` of a refund, in exact arithmetic. -/
def Decimal.toKobo (d : Decimal) : Int := (200 * d.units + 10 ^ d.scale) / (2 * 10 ^ d.scale)

structure PaystackRefundInput where
  transaction : String
  amountInKobo : Int
  merchantNote : String

/-- What the provider asks Paystack for. -/
def CreateRefundRequest.paystackInput (request : CreateRefundRequest) : PaystackRefundInput :=
  { transaction := request.paymentReference
    amountInKobo := (money request.amount).toKobo
    merchantNote := request.reason }

structure PaystackRefundResult where
  id : String
  status : String
  transactionReference : String

/-- `PaystackClient.refundTransaction`: a rejected request, a failed one and one of which the
outcome is not known are all provider errors. Any answer may be given to any input.
-/
def refundTransaction (config : Config) (_input : PaystackRefundInput)
    : Service PaystackRefundResult := do
  throwIf (config.paystack.secretKey = "")
    (.badRequest "Paystack API secret key is missing. Set PAYSTACK_SECRET_KEY in environment.")
  external fun input =>
    if input.throws then
      let failure :=
        match input.number with
        | 0 => "Paystack Refund Network Error"
        | 1 => "Paystack Refund Rejected"
        | _ => "Paystack Refund Request Failed"
      some (.error (.provider s!"{failure}: {input.text}"), [])
    else
      match input.reply with
      | .refund id status reference => some (.ok ⟨id, status, reference⟩, [])
      | _ => none

/-- `PaystackNgnPaymentProvider.processRefund`. -/
def paystackRefund (config : Config) (request : CreateRefundRequest)
    : Service NormalizedRefundResponse := do
  throwIf (request.amount ≤ 0) (.badRequest s!"Invalid refund amount: {money request.amount}")
  tryCatch (do
    let refundRes ← refundTransaction config request.paystackInput
    let status :=
      if refundRes.status = "processed" ∨ refundRes.status = "success"
          ∨ refundRes.status = "successful" then
        RefundStatus.SUCCEEDED
      else if refundRes.status = "failed" then
        .FAILED
      else
        .PROCESSING
    pure
      { providerRefundId := refundRes.id
        status := status
        transactionReference := some refundRes.transactionReference
        hasRawResponse := true }) fun error => do
      if error.errorCode = "PROVIDER_ERROR" then
        let time ← now
        if includes error.message "Network Error" then
          pure
            { providerRefundId := s!"ambiguous_{time}"
              status := .PROCESSING
              failureReason := some error.message
              ambiguousNetworkFailure := true }
        else
          pure
            { providerRefundId := s!"failed_{time}"
              status := .FAILED
              failureReason := some error.message }
      else
        throw error

/-- How a provider carries out a refund. -/
def Provider.refund (config : Config) (request : CreateRefundRequest)
    : Provider → Service NormalizedRefundResponse
  | .MOCK =>
      sandboxRefund
        { ambiguousId := "mock_ambiguous"
          failedId := "mock_ref_failed"
          refundId := "mock_ref"
          timeout := "Paystack Refund Network Error: Connection timed out"
          rejection := "Paystack Refund Rejected: Transaction ineligible for refund"
          hasRawResponse := true } request
  | .NGN_BANK_TRANSFER =>
      sandboxRefund
        { ambiguousId := "ngn_ambiguous"
          failedId := "ngn_ref_fail"
          refundId := "ngn_ref"
          timeout := "NGN Provider Network Timeout"
          rejection := "NGN Provider Refund Rejected"
          hasRawResponse := false } request
  | .PAYSTACK_NGN_BANK_TRANSFER => paystackRefund config request

/-- `provider.processRefund`; the call is observed when it is made and when it is answered. -/
def Provider.processRefund (config : Config) (provider : Provider)
    (request : CreateRefundRequest) : Service NormalizedRefundResponse := do
  emit fun t => .refundRequested t request.refundId request.orderId
    request.paystackInput.amountInKobo
  let response ← provider.refund config request
  emit fun t => .refundAnswered t request.refundId response.status
  pure response

end LuminaRail
