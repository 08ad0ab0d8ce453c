import LuminaRail.Quotes.Admission
import LuminaRail.Services.OrderFootprints

/-! Requests that take more than one service. `QuoteService.createQuote` looks for the pool of the
asset on the way and stores the quote, and a refund that has been created is executed at once.
-/

namespace LuminaRail

open Arithmetic Concurrency Database Service

/-- The columns of a quote that the other services read. -/
def QuoteData.row (data : QuoteData) : Quote where
  sourceCurrency := data.sourceCurrency
  destinationAsset := data.destinationAsset
  sourceAmount := ⌊data.sourceAmount * 10 ^ 4⌋
  destinationAmount := ⌊data.destinationAmount * 10 ^ 7⌋
  expiresAt := data.expiresAt.toNat

namespace QuoteService

/-- What `createQuote` does before it looks for the pool. -/
def calculation (config : QuotesConfig) (provider : QuoteProvider) (rates : FxReply) (time : Int)
    (input : GenerateQuoteInput) : Except AppError QuoteCalculationResult := do
  let sourceCurrency := toUpperCase input.sourceCurrency
  let destinationAsset := toUpperCase input.destinationAsset
  let side := input.side.getD .source
  let amount ← validateInput config sourceCurrency destinationAsset side input.amount
  let calculation ←
    provider.calculate config ⟨rates, .ok 0, time⟩ sourceCurrency destinationAsset amount side
  if destinationAsset = "USDC" ∧ config.maxQuoteUsdcAmount < calculation.destinationAmount then
    throw (.badRequest ("Requested output exceeds maximum allowed quote size of "
      ++ s!"{config.maxQuoteUsdcAmount} USDC."))
  else
    pure calculation

/-- What it stores when it has found the pool. -/
def priced (config : QuotesConfig) (input : GenerateQuoteInput) (time : Int)
    (calculation : QuoteCalculationResult) (availableLiquidity : ℚ) : Except AppError QuoteData :=
  if input.side.getD .source = .destination
      ∧ calculation.appliedFxRate * (1 - config.feePercentage) = 0 then
    throw ⟨"Invalid value for sourceAmount", 500, ""⟩
  else
    storeQuote config calculation (calculation.destinationAmount ≤ availableLiquidity) time

def requestQuote (config : QuotesConfig) (provider : QuoteProvider) (rates : FxReply)
    (input : GenerateQuoteInput) : Service (Id × Quote) := do
  let time ← now
  let calculation ← MonadExcept.ofExcept (calculation config provider rates time input)
  let (_, pool) ← LiquidityService.getPool
  let data ← MonadExcept.ofExcept
    (priced config input time calculation (pool.availableBalance / 10 ^ 7))
  let id ← randomText
  let quote ← create none (.quote id) data.row
  pure (id, quote)

end QuoteService

/-- A new refund is executed, a duplicate is answered with as it is. -/
def RefundController.createRefund (config : Config) (userId : Id) (input : CreateRefundInput)
    (isAdmin : Bool) (idempotencyHeader : Option String) : Service Refund := do
  let (id, refund, isDuplicate) ←
    RefundService.createRefund userId input isAdmin idempotencyHeader
  if isDuplicate = false ∧ refund.status = .PENDING then
    RefundService.executeRefund config id
  else
    pure refund

/-- A refund in the name of the order's customer; what goes wrong is only logged. -/
def RefundService.processAutomaticRefund (config : Config) (orderId : Id)
    (paymentId : Option Id) (reason : String) : Service (Option Refund) :=
  let payment := (truthy paymentId).getD "def"
  let idempotencyKey := s!"AUTO_REF_{orderId}_{payment}"
  tryCatch
    (do
      match ← findUnique none (.order orderId) with
      | none => pure none
      | some order =>
          let (id, _) ← createRefund order.userId
            { orderId := orderId, paymentId := paymentId, reason := reason,
              idempotencyKey := some idempotencyKey } true (some idempotencyKey)
          some <$> executeRefund config id)
    fun _ => pure none

namespace QuoteService

variable {config : QuotesConfig} {provider : QuoteProvider} {rates : FxReply} {time : Int}
  {input : GenerateQuoteInput} {found : QuoteCalculationResult} {available : ℚ} {data : QuoteData}

/-- The two parts are `createQuote` with the answer about the pool in between. -/
theorem createQuote_eq (calculated : calculation config provider rates time input = .ok found)
    : createQuote config provider ⟨rates, .ok available, time⟩ input
      = priced config input time found available := by
  obtain ⟨amount, valid, calculated⟩ := Except.bind_ok calculated
  obtain ⟨result, computed, calculated⟩ := Except.bind_ok calculated
  have computed' : provider.calculate config ⟨rates, .ok available, time⟩
      (toUpperCase input.sourceCurrency) (toUpperCase input.destinationAsset) amount
      (input.side.getD .source) = .ok result := by
    cases provider with
    | mock => exact computed
    | real => exact computed
  split at calculated
  · cases calculated
  · rename_i within
    obtain rfl := Except.ok.inj calculated
    have bound {α β : Type} (value : α) (rest : α → Except AppError β)
        : (Except.ok value >>= rest) = rest value := rfl
    simp only [createQuote, valid, computed', bound, priced]
    rw [if_neg within]

theorem createQuote_of_priced (calculated : calculation config provider rates time input = .ok found)
    (stored : priced config input time found available = .ok data)
    : createQuote config provider ⟨rates, .ok available, time⟩ input = .ok data :=
  (createQuote_eq calculated).trans stored

end QuoteService

variable {footprint : Footprint} {t : Tid}

theorem within_ofExcept {α : Type} {outcome : Except AppError α}
    : Within (Step footprint t) t (MonadExcept.ofExcept outcome : Service α) fun value =>
        outcome = .ok value := by
  cases outcome with
  | ok value => exact Within.pure rfl
  | error error => exact Within.throw error

theorem LiquidityService.within_getPool
    (created : ∀ id pool, footprint.writes (.liquidityPool id) none pool)
    : Within (Step footprint t) t LiquidityService.getPool := by
  refine Within.bind within_randomText fun poolId _ => ?_
  refine Within.bind within_findUnique fun found _ => ?_
  cases found with
  | some existing => exact Within.pure trivial
  | none =>
      refine Within.bind (Q := fun _ => True)
        (within_create (by simp) (fun entry member => ?_) trivial) fun _ _ => Within.pure trivial
      obtain rfl := List.mem_singleton.mp member
      exact created _ _

/-- What is stored is a quote that `createQuote` makes. -/
theorem QuoteService.within_requestQuote {config : QuotesConfig} {provider : QuoteProvider}
    {rates : FxReply} {input : GenerateQuoteInput}
    (created : ∀ id pool, footprint.writes (.liquidityPool id) none pool)
    (quoted : ∀ id replies data, createQuote config provider replies input = .ok data
      → footprint.writes (.quote id) none data.row)
    : Within (Step footprint t) t (requestQuote config provider rates input) := by
  refine Within.bind within_now fun time _ => ?_
  refine Within.bind within_ofExcept fun found calculated => ?_
  refine Within.bind (LiquidityService.within_getPool created) fun pool _ => ?_
  refine Within.bind within_ofExcept fun data stored => ?_
  refine Within.bind within_randomText fun id _ => ?_
  refine Within.bind (Q := fun _ => True)
    (within_create (by simp) (fun entry member => ?_) trivial) fun _ _ => Within.pure trivial
  obtain rfl := List.mem_singleton.mp member
  exact quoted id _ data (createQuote_of_priced calculated stored)

end LuminaRail
