import LuminaRail.Payments.FailedAttempts

/-! What the body of a request to verify a payment has to say in the outcome. The NGN sandbox is told
by it what to pretend, and Paystack's answer is compared with the amount that it names.
-/

namespace LuminaRail

open Concurrency Database Service Exclusive

/-- What a body asks the NGN sandbox to pretend. -/
def VerifyParams.simulated (params : VerifyParams) : Option PaymentStatus :=
  if params.simulateSuccess ∨ params.status = some "SUCCEEDED"
      ∨ params.status = some "SUCCESSFUL" then
    some .SUCCEEDED
  else if params.simulateFailure ∨ params.status = some "FAILED" then
    some .FAILED
  else
    none

/-- Two bodies that say the same to a provider. -/
def Provider.ReadsAlike (body body' : VerifyParams) : Provider → Prop
  | .MOCK => True
  | .NGN_BANK_TRANSFER => body.simulated = body'.simulated
  | .PAYSTACK_NGN_BANK_TRANSFER => body.expectedAmount = body'.expectedAmount

variable {config : Config} {body body' : VerifyParams}

theorem verifiedNgnStatus_eq (id : String) (params : VerifyParams) (stored : Option StoredPayment)
    : verifiedNgnStatus id params stored
      = params.simulated.getD
          (if includes id "fail_" then .FAILED
            else
              match stored with
              | none => .PENDING
              | some stored => if stored.status = .PENDING then .SUCCEEDED else stored.status) := by
  unfold verifiedNgnStatus VerifyParams.simulated
  split
  · rfl
  · by_cases failing : params.simulateFailure ∨ params.status = some "FAILED"
    · rw [if_pos failing, if_pos (by rwa [← or_assoc, or_iff_left_of_imp fun _ => failing])]
      rfl
    · rw [if_neg failing]
      obtain ⟨failure, named⟩ := not_or.mp failing
      simp only [failure, named, false_or, Bool.false_eq_true]
      rfl

/-- A provider is asked the same with two bodies that say the same to it. -/
theorem Provider.verifyPayment_alike (config : Config) {provider : Provider}
    (alike : provider.ReadsAlike body body') (id : String)
    : provider.verifyPayment config id body = provider.verifyPayment config id body' := by
  unfold Provider.verifyPayment
  congr 1
  cases provider with
  | MOCK => rfl
  | NGN_BANK_TRANSFER =>
      have same (stored : Option StoredPayment)
          : verifiedNgnStatus id body stored = verifiedNgnStatus id body' stored := by
        rw [verifiedNgnStatus_eq, verifiedNgnStatus_eq, show body.simulated = _ from alike]
      simp only [Provider.verify, verifyNgnPayment, same]
  | PAYSTACK_NGN_BANK_TRANSFER =>
      have same (result : PaystackVerifyResult)
          : paystackStatus body result = paystackStatus body' result := by
        rw [paystackStatus, paystackStatus, show body.expectedAmount = _ from alike]
      simp only [Provider.verify, verifyPaystackPayment, same]

section

variable {paymentId userId : Id} {isAdmin : Bool} {payment : Payment} {t : Tid} {start : World}

/-- A verification depends only on what the provider of the payment is asked. -/
theorem PaymentService.verifyAsking_alike
    {ask ask' : String → Provider → Service NormalizedPaymentResponse}
    (stored : start.db.committed.lookup (.payment paymentId) = some payment)
    (alike
      : ∀ provider,
          PaymentProviderRegistry.resolve config payment.provider = some provider
          → ∀ id, ask id provider = ask' id provider)
    (inputs : List Input)
    : (verifyAsking ask config paymentId userId isAdmin).run.evalAlone t start inputs
      = (verifyAsking ask' config paymentId userId isAdmin).run.evalAlone t start inputs := by
  refine Program.evalAlone_bind_congr fun found world later reads => ?_
  cases found with
  | error error => rfl
  | ok found =>
      obtain ⟨last, -, known, -⟩ := Protocol.Spec.of_alone
        (yields_getPaymentById (s := .of t start) paymentId userId isAdmin) (at_alone t start) reads
      obtain rfl : payment = found := Option.some.inj (stored.symm.trans known)
      refine Program.evalAlone_bind_congr fun record world later _ => ?_
      cases record with
      | error error => rfl
      | ok record =>
          cases registered : PaymentProviderRegistry.resolve config payment.provider with
          | none =>
              simp only [PaymentProviderRegistry.get, registered]
              rfl
          | some provider =>
              simp only [PaymentProviderRegistry.get, registered, pure_bind, alike provider registered]

/-- Two requests to verify a payment, with bodies that say the same to its provider, are
answered alike and leave the same behind under the same circumstances. By the same of the
question to the provider, for each of the providers.
-/
theorem verified_alike
    (stored : start.db.committed.lookup (.payment paymentId) = some payment)
    (alike
      : ∀ provider,
          PaymentProviderRegistry.resolve config payment.provider = some provider
          → provider.ReadsAlike body body')
    (inputs : List Input)
    : (PaymentService.verifyPayment config paymentId userId isAdmin body).run.evalAlone t start
        inputs
      = (PaymentService.verifyPayment config paymentId userId isAdmin body').run.evalAlone t start
          inputs := by
  simp only [PaymentService.verifyPayment_eq]
  exact PaymentService.verifyAsking_alike stored
    (fun provider registered => Provider.verifyPayment_alike config (alike provider registered))
    inputs

end

/-- A payment that waits in the NGN sandbox. -/
def paidInSandbox : Payment :=
  { paidThroughPaystack with provider := "NGN_BANK_TRANSFER", providerPaymentId := some "ngn_pay_1" }

def awaitingInSandbox : World :=
  { World.start ((awaitingPayment none).insert (.payment "payment") paidInSandbox) with
    ngn :=
      { idOf := fun _ => some "ngn_pay_1"
        payments := fun _ => some ⟨"ngn_pay_1", .PENDING, ⟨1000000, 4⟩, "NGN", by decide⟩ } }

/-- The owner verifies the payment with this body. -/
def verifyInSandbox (body : VerifyParams) : Option (Except AppError Payment × World) :=
  (PaymentService.verifyPayment {} "payment" "user" false body).run.evalAlone 0 awaitingInSandbox
    (List.replicate 20 {})

/-- The amount that a body names is nothing to the sandbox. -/
theorem amount_not_read_in_sandbox
    : verifyInSandbox { expectedAmount := some none } = verifyInSandbox {} :=
  verified_alike
    (show awaitingInSandbox.db.committed.lookup (.payment "payment") = some paidInSandbox by decide)
    (fun provider registered => by
      rw [show PaymentProviderRegistry.resolve {} paidInSandbox.provider
        = some .NGN_BANK_TRANSFER by decide +kernel] at registered
      obtain rfl := Option.some.inj registered
      rfl)
    (List.replicate 20 {})

/-- The owner of a payment decides what becomes of it. -/
theorem body_decides_in_sandbox
    : (verifyInSandbox { simulateSuccess := true }).bind (fun last => statusOfPayment last.2)
        = some .SUCCEEDED
      ∧ (verifyInSandbox { simulateFailure := true }).bind (fun last => statusOfPayment last.2)
        = some .FAILED := by
  decide +kernel

end LuminaRail
