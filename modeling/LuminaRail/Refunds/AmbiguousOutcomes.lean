import LuminaRail.Services.Refunds

/-! What Paystack's answer to a refund is taken for. An answer that does not tell whether the refund was
carried out should leave it in progress, so that its amount stays reserved.
-/

namespace LuminaRail

open Concurrency Service

-----------------------------------------------------------------------------------------
-- Answers of Paystack
-----------------------------------------------------------------------------------------

/-- `body.data` of an answer; an empty text or a missing number is the same as nothing. -/
structure PaystackRefundData where
  id : Option String := none
  status : Option String := none
  refund_status : Option String := none
  reference : Option String := none

/-- The body of an answer; a field of another type reads as a missing one. -/
structure PaystackRefundBody where
  status : Option Bool := none
  message : Option String := none
  data : PaystackRefundData := {}

/-- What comes of the request: `fetch` throws, or there is an answer, of which the body may be lost or
no JSON.
-/
inductive PaystackOutcome
  | failed (message : String)
  | response (status : Nat) (body : Option PaystackRefundBody)

/-- `response.ok`. -/
def isOk (status : Nat) : Prop := 200 ≤ status ∧ status < 300

instance (status : Nat) : Decidable (isOk status) := inferInstanceAs (Decidable (_ ∧ _))

def isRejection (status : Nat) : Prop := 400 ≤ status ∧ status < 500

instance (status : Nat) : Decidable (isRejection status) := inferInstanceAs (Decidable (_ ∧ _))

/-- The state of the refund that an answer names. -/
def PaystackRefundBody.named (body : PaystackRefundBody) : Option String :=
  (truthy body.data.status).or (truthy body.data.refund_status)

def PaystackRefundBody.statusStr (body : PaystackRefundBody) : String :=
  toLowerCase (body.named.getD (if body.status = some true then "processed" else "failed"))

/-- `errorMsg`. -/
def refundErrorMsg (status : Nat) (body : Option PaystackRefundBody) : String :=
  (body.bind fun body => truthy body.message).getD
    s!"Paystack refund request failed with status {status}"

/-- What `PaystackClient.refundTransaction` makes of an outcome. -/
def PaystackOutcome.refundResult (input : PaystackRefundInput) (time : Nat)
    : PaystackOutcome → Except AppError PaystackRefundResult
  | .failed message => .error (.provider s!"Paystack Refund Network Error: {message}")
  | .response status body =>
      match body.filter fun _ => isOk status with
      | none =>
          if isRejection status then
            .error (.provider s!"Paystack Refund Rejected: {refundErrorMsg status body}")
          else
            .error (.provider s!"Paystack Refund Request Failed: {refundErrorMsg status body}")
      | some body =>
          .ok
            { id := (truthy body.data.id).getD s!"ref_{time}"
              status := body.statusStr
              transactionReference := (truthy body.data.reference).getD input.transaction }

/-- An outcome as an input of the environment. -/
def PaystackOutcome.input (input : PaystackRefundInput) (time : Nat) : PaystackOutcome → Input
  | .failed message => { throws := true, text := message, number := 0 }
  | .response status body =>
      match body.filter fun _ => isOk status with
      | none =>
          { throws := true
            text := refundErrorMsg status body
            number := if isRejection status then 1 else 2 }
      | some body =>
          { reply := .refund ((truthy body.data.id).getD s!"ref_{time}") body.statusStr
              ((truthy body.data.reference).getD input.transaction) }

/-- The program of the client does with an outcome what the client does. -/
theorem refundTransaction_answers {config : Config} (keyed : config.paystack.secretKey ≠ "")
    (input : PaystackRefundInput) (t : Tid) (world : World) (time : Nat)
    (outcome : PaystackOutcome)
    : (refundTransaction config input).run.evalAlone t world [outcome.input input time]
      = some (outcome.refundResult input time, world) := by
  rw [refundTransaction, throwIf, if_neg keyed]
  cases outcome with
  | failed message => rfl
  | response status body =>
      simp only [PaystackOutcome.input, PaystackOutcome.refundResult]
      cases body.filter fun _ => decide (isOk status) with
      | some body => rfl
      | none =>
          by_cases rejected : isRejection status
          · simp only [if_pos rejected]
            rfl
          · simp only [if_neg rejected]
            rfl

-----------------------------------------------------------------------------------------
-- What an outcome is taken for
-----------------------------------------------------------------------------------------

/-- The status of a refund after what the client made of the outcome. -/
def refundStatus : Except AppError PaystackRefundResult → RefundStatus
  | .ok result =>
      if result.status = "processed" ∨ result.status = "success" ∨ result.status = "successful" then
        .SUCCEEDED
      else if result.status = "failed" then
        .FAILED
      else
        .PROCESSING
  | .error error => if includes error.message "Network Error" then .PROCESSING else .FAILED

/-- The client fails with a provider error only. -/
theorem refundResult_error {input : PaystackRefundInput} {time : Nat} {outcome : PaystackOutcome}
    {error : AppError} (failed : outcome.refundResult input time = .error error)
    : error.errorCode = "PROVIDER_ERROR" := by
  cases outcome with
  | failed message =>
      obtain rfl := Except.error.inj failed
      rfl
  | response status body =>
      simp only [PaystackOutcome.refundResult] at failed
      split at failed
      · split at failed <;> obtain rfl := Except.error.inj failed <;> rfl
      · cases failed

/-- The provider answers any outcome with a status that depends on what the client made of it. -/
theorem paystackRefund_answers {config : Config} (keyed : config.paystack.secretKey ≠ "")
    {request : CreateRefundRequest} (positive : 0 < request.amount) (t : Tid) (world : World)
    (time : Nat) (outcome : PaystackOutcome) (input : Input)
    : ∃ response,
        (paystackRefund config request).run.evalAlone t world
            [outcome.input request.paystackInput time, input]
          = some (.ok response, world)
        ∧ response.status = refundStatus (outcome.refundResult request.paystackInput time) := by
  obtain ⟨send, client⟩ : ∃ send, refundTransaction config request.paystackInput = act send :=
    ⟨_, by rw [refundTransaction, throwIf, if_neg keyed]; rfl⟩
  have answered := refundTransaction_answers keyed request.paystackInput t world time outcome
  have sent : send t world (outcome.input request.paystackInput time)
      = some (outcome.refundResult request.paystackInput time, world) := by
    rw [client] at answered
    cases called : send t world (outcome.input request.paystackInput time) with
    | none => simp [act, Program.action, Program.evalAlone, called] at answered
    | some reply => simpa [act, Program.action, Program.evalAlone, called] using answered
  rw [paystackRefund, throwIf, if_neg (not_le.mpr positive), client]
  cases made : outcome.refundResult request.paystackInput time with
  | ok result =>
      rw [made] at sent
      simp [tryCatch, tryCatchThe, MonadExceptOf.tryCatch, ExceptT.tryCatch, ExceptT.run, ExceptT.mk,
        ExceptT.bind, ExceptT.bindCont, ExceptT.pure, bind, pure, act, Program.bind, Program.action,
        Program.evalAlone, refundStatus, sent]
  | error error =>
      have provider := refundResult_error made
      rw [made] at sent
      by_cases network : includes error.message "Network Error" <;>
      simp [tryCatch, tryCatchThe, MonadExceptOf.tryCatch, ExceptT.tryCatch, ExceptT.run, ExceptT.mk,
        ExceptT.bind, ExceptT.bindCont, ExceptT.pure, bind, pure, act, now, Program.bind,
        Program.action, Program.evalAlone, refundStatus, sent, provider, network]

-----------------------------------------------------------------------------------------
-- What an outcome tells
-----------------------------------------------------------------------------------------

/-- Paystack may have carried out the refund: its answer is lost, or it tells nothing. -/
def PaystackOutcome.MayBeExecuted : PaystackOutcome → Prop
  | .failed _ => True
  | .response status body => (500 ≤ status ∧ status < 600) ∨ (isOk status ∧ body = none)

/-- The answer says that there is no refund: the request was rejected, or it succeeded and the refund is
named as failed, or none is named and the request as failed.
-/
def PaystackOutcome.Refused : PaystackOutcome → Prop
  | .failed _ => False
  | .response status body =>
      isRejection status
        ∨ (isOk status ∧ ∃ answer ∈ body, toLowerCase <$> answer.named = some "failed"
          ∨ (answer.named = none ∧ answer.status = some false))

/-- No answer came, or the request was rejected, or the answer to a successful request tells of the
refund or of the request. Any other answer has to have a message with the text of a network error.
-/
def PaystackOutcome.Telling : PaystackOutcome → Prop
  | .failed _ => True
  | .response status body =>
      isRejection status
        ∨ (isOk status ∧ ∃ answer ∈ body, answer.named.isSome ∨ answer.status.isSome)
        ∨ (¬isOk status ∧ ∃ answer ∈ body, ∃ message ∈ truthy answer.message,
          includes message "Network Error")

theorem networkError_begins
    : "Network Error".toList
      = 'N' :: ['e', 't', 'w', 'o', 'r', 'k', ' ', 'E', 'r', 'r', 'o', 'r'] := by
  decide

/-- The texts that the client makes up do not have the text of a network error. -/
theorem refundErrorMsg_network {status : Nat} {body : Option PaystackRefundBody}
    : includes (refundErrorMsg status body) "Network Error"
      ↔ ∃ answer ∈ body, ∃ message ∈ truthy answer.message, includes message "Network Error" := by
  have digits : 'N' ∉ s!"Paystack refund request failed with status {status}".toList := by
    intro member
    rw [String.toList_append, List.mem_append] at member
    rcases member with fixed | digit
    · exact absurd fixed (by decide)
    · rw [show toString status = status.repr from rfl, Nat.toList_repr] at digit
      exact absurd (Nat.isDigit_of_mem_toDigits (by decide) (by decide) digit) (by decide)
  have made_up := includes_of_notMem networkError_begins digits
  rw [refundErrorMsg]
  cases body with
  | none => simpa using made_up
  | some answer =>
      cases told : truthy answer.message with
      | none => simpa [told] using made_up
      | some message => simp [told]

/-- What the provider makes of an outcome. -/
theorem refundStatus_rejected {input : PaystackRefundInput} {time status : Nat}
    {body : Option PaystackRefundBody} (unsuccessful : body.filter (fun _ => isOk status) = none)
    : refundStatus ((PaystackOutcome.response status body).refundResult input time)
      = if includes (refundErrorMsg status body) "Network Error" then .PROCESSING else .FAILED := by
  have rejected : includes ("Paystack Refund Rejected: " ++ refundErrorMsg status body)
      "Network Error" = includes (refundErrorMsg status body) "Network Error" :=
    includes_append networkError_begins (by decide)
  have failed : includes ("Paystack Refund Request Failed: " ++ refundErrorMsg status body)
      "Network Error" = includes (refundErrorMsg status body) "Network Error" :=
    includes_append networkError_begins (by decide)
  simp only [PaystackOutcome.refundResult, unsuccessful]
  by_cases rejection : isRejection status
  · rw [if_pos rejection, refundStatus, ← rejected]
    rfl
  · rw [if_neg rejection, refundStatus, ← failed]
    rfl

theorem refundStatus_failed {input : PaystackRefundInput} {time : Nat} {message : String}
    : refundStatus ((PaystackOutcome.failed message).refundResult input time) = .PROCESSING := by
  have network : includes ("Paystack Refund " ++ ("Network Error: " ++ message)) "Network Error"
      = includes ("Network Error: " ++ message) "Network Error" :=
    includes_append networkError_begins (by decide)
  have found : includes ("Network Error: " ++ message) "Network Error" = true := by
    simp [includes, String.toList_append]
  have split : "Paystack Refund Network Error: " ++ message
      = "Paystack Refund " ++ ("Network Error: " ++ message) := by
    rw [← String.append_assoc]
    rfl
  rw [found, ← split] at network
  exact if_pos network

/-- An answer to a successful request: what it names, or else whether it calls the request successful.
-/
theorem refundStatus_answered {input : PaystackRefundInput} {time status : Nat}
    {answer : PaystackRefundBody} (successful : isOk status)
    : refundStatus ((PaystackOutcome.response status (some answer)).refundResult input time) = .FAILED
      ↔ toLowerCase <$> answer.named = some "failed"
        ∨ (answer.named = none ∧ answer.status ≠ some true) := by
  have reads : refundStatus
        ((PaystackOutcome.response status (some answer)).refundResult input time) = .FAILED
      ↔ answer.statusStr = "failed" := by
    simp only [PaystackOutcome.refundResult, Option.filter_some, decide_eq_true successful, if_true,
      refundStatus]
    constructor
    · intro failed
      split_ifs at failed with done refused
      exact refused
    · intro refused
      simp [refused]
  rw [reads, PaystackRefundBody.statusStr]
  cases answer.named with
  | some named => simp
  | none =>
      by_cases called : answer.status = some true
      · simp [called]
        decide
      · simp [called]
        decide

/-- The provider leaves what may have been carried out in progress, and fails only what was refused. -/
def PaystackOutcome.Distinguished (outcome : PaystackOutcome) (status : RefundStatus) : Prop :=
  (outcome.MayBeExecuted → status = .PROCESSING) ∧ (status = .FAILED → outcome.Refused)

/-- An answer to a successful request without a body is taken for a failure. -/
theorem distinguished_of_lost {input : PaystackRefundInput} {time status : Nat}
    (successful : isOk status)
    : ¬(PaystackOutcome.response status none).Distinguished
        (refundStatus ((PaystackOutcome.response status none).refundResult input time)) := by
  have unnamed : includes (refundErrorMsg status none) "Network Error" = false := by
    simpa using mt refundErrorMsg_network.mp (by simp)
  rw [show refundStatus ((PaystackOutcome.response status none).refundResult input time) = _ from
    refundStatus_rejected rfl, unnamed]
  intro distinguished
  exact absurd (distinguished.1 (Or.inr ⟨successful, rfl⟩)) (by simp)

/-- The body of an answer to a successful request is understood if it tells of anything. -/
theorem distinguished_of_answered {input : PaystackRefundInput} {time status : Nat}
    {answer : PaystackRefundBody} (successful : isOk status)
    : (PaystackOutcome.response status (some answer)).Distinguished
        (refundStatus ((PaystackOutcome.response status (some answer)).refundResult input time))
      ↔ answer.named.isSome ∨ answer.status.isSome := by
  have bounds := successful
  unfold isOk at bounds
  have definite : ¬(PaystackOutcome.response status (some answer)).MayBeExecuted := by
    simp only [PaystackOutcome.MayBeExecuted]
    rintro (⟨error, -⟩ | ⟨-, lost⟩)
    · omega
    · cases lost
  have accepted : ¬isRejection status := by
    unfold isRejection
    omega
  rw [PaystackOutcome.Distinguished, refundStatus_answered successful]
  simp only [definite, false_implies, true_and, PaystackOutcome.Refused, accepted, false_or,
    successful, Option.mem_def, Option.some.injEq, exists_eq_left']
  cases named : answer.named with
  | some name => simp
  | none => cases answer.status <;> simp

/-- Any other answer has to be a rejection or to have the text of a network error. -/
theorem distinguished_of_unsuccessful {input : PaystackRefundInput} {time status : Nat}
    {body : Option PaystackRefundBody} (unsuccessful : ¬isOk status)
    : (PaystackOutcome.response status body).Distinguished
        (refundStatus ((PaystackOutcome.response status body).refundResult input time))
      ↔ isRejection status ∨ includes (refundErrorMsg status body) "Network Error" := by
  rw [refundStatus_rejected (by simp [unsuccessful])]
  simp only [PaystackOutcome.Distinguished, PaystackOutcome.MayBeExecuted, PaystackOutcome.Refused,
    unsuccessful, false_and, or_false]
  by_cases rejection : isRejection status
  · have accepted : ¬(500 ≤ status ∧ status < 600) := by
      unfold isRejection at rejection
      omega
    simp [rejection, accepted]
  · by_cases network : includes (refundErrorMsg status body) "Network Error" <;>
      simp [rejection, network]

/-- `existingRefunds`: the refunds of an order that `createRefund` adds up. -/
def countedRefunds (orderId : Id) (rows : AList Row) : List (Id × Refund) :=
  (refundsOf orderId rows).filter fun refund => refund.2.status.isActive

/-- An active refund that is stored is counted. -/
theorem mem_countedRefunds {rows : AList Row} {id : Id} {refund : Refund}
    (stored : rows.lookup (.refund id) = some refund) (active : refund.status.isActive)
    : (id, refund) ∈ countedRefunds refund.orderId rows :=
  List.mem_filter.mpr ⟨mem_refundsOf.mpr ⟨stored, rfl⟩, active⟩

theorem distinguished_iff_telling (input : PaystackRefundInput) (time : Nat)
    (outcome : PaystackOutcome)
    : outcome.Distinguished (refundStatus (outcome.refundResult input time)) ↔ outcome.Telling := by
  cases outcome with
  | failed message =>
      simp [PaystackOutcome.Distinguished, refundStatus_failed, PaystackOutcome.Telling]
  | response status body =>
      by_cases successful : isOk status
      · have accepted : ¬isRejection status := by
          unfold isOk at successful
          unfold isRejection
          omega
        cases body with
        | none =>
            simp [distinguished_of_lost successful, PaystackOutcome.Telling, accepted, successful]
        | some answer =>
            simp [distinguished_of_answered successful, PaystackOutcome.Telling, accepted, successful]
      · rw [distinguished_of_unsuccessful successful, refundErrorMsg_network]
        simp [PaystackOutcome.Telling, successful]

/-- A refund that may have been carried out is left in progress, and only one that was refused
is failed, exactly if the outcome of the request is telling. By cases on the outcome. What is in
progress counts against the remainder of its order.
-/
theorem ambiguous_refund_processing_iff {config : Config} (keyed : config.paystack.secretKey ≠ "")
    {request : CreateRefundRequest} (positive : 0 < request.amount) (t : Tid) (world : World)
    (time : Nat) (outcome : PaystackOutcome) (input : Input)
    : ∃ response,
        (paystackRefund config request).run.evalAlone t world
            [outcome.input request.paystackInput time, input]
          = some (.ok response, world)
        ∧ ((outcome.MayBeExecuted → response.status = .PROCESSING)
            ∧ (response.status = .FAILED → outcome.Refused)
          ↔ outcome.Telling)
        ∧ ∀ rows id (refund : Refund), rows.lookup (.refund id) = some refund
          → refund.status = .PROCESSING
          → (id, refund) ∈ countedRefunds refund.orderId rows := by
  obtain ⟨response, answered, taken⟩ :=
    paystackRefund_answers keyed positive t world time outcome input
  refine ⟨response, answered, ?_, fun rows id refund stored progress => ?_⟩
  · rw [taken]
    exact distinguished_iff_telling request.paystackInput time outcome
  · exact mem_countedRefunds stored (by simp [progress, RefundStatus.isActive])

/-- A refund of fifty naira. -/
def fiftyNaira : CreateRefundRequest :=
  { refundId := "refund"
    orderId := "order"
    paymentReference := "PAY_1"
    amount := 500000
    currency := "NGN"
    reason := "Customer request"
    idempotencyKey := "key" }

/-- A request that is lost stays in progress. -/
theorem lost_refund_processing
    : ∃ response,
        (paystackRefund paystackConfig fiftyNaira).run.evalAlone 0 (World.start ∅)
            [(PaystackOutcome.failed "fetch failed").input fiftyNaira.paystackInput 0, {}]
          = some (.ok response, World.start ∅)
        ∧ response.status = .PROCESSING := by
  obtain ⟨response, answered, distinguished, _⟩ :=
    @ambiguous_refund_processing_iff paystackConfig (by decide) fiftyNaira (by decide) 0
      (World.start ∅) 0 (.failed "fetch failed") {}
  exact ⟨response, answered, (distinguished.mpr trivial).1 trivial⟩

/-- A bad gateway says nothing of the refund, which fails. -/
theorem bad_gateway_refund_failed
    : (PaystackOutcome.response 502 none).MayBeExecuted
      ∧ ((paystackRefund paystackConfig fiftyNaira).run.evalAlone 0 (World.start ∅)
            [(PaystackOutcome.response 502 none).input fiftyNaira.paystackInput 0, {}]).map
          (fun answer => answer.1.map NormalizedRefundResponse.status)
        = some (.ok .FAILED) :=
  ⟨Or.inl (by decide), by decide +kernel⟩

end LuminaRail
