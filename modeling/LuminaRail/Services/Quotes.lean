import LuminaRail.Model.Text
import LuminaRail.Services.QuoteProviders

/-! `QuoteService.createQuote`: which quotes are made, and how they are stored. -/

namespace LuminaRail

open Arithmetic

/-- An amount that is no finite number is missing. -/
structure GenerateQuoteInput where
  sourceCurrency : String
  destinationAsset : String
  amount : Option ℚ
  side : Option QuoteSide := none

/-- The provider that `getProvider` answers with. -/
inductive QuoteProvider
  | mock
  | real
deriving DecidableEq

/-- What the calls of `createQuote` are answered: the request for the rates, the search for the pool,
and the time.
-/
structure QuoteReplies where
  rates : FxReply
  availableLiquidity : Except AppError ℚ
  time : Int

/-- A quote with the columns that are computed. -/
structure QuoteData where
  sourceCurrency : String
  destinationAsset : String
  sourceAmount : ℚ
  destinationAmount : ℚ
  exchangeRate : ℚ
  fee : ℚ
  grossUsdcAmount : ℚ
  networkFeeUsdc : ℚ
  spread : ℚ
  baseFxRate : ℚ
  rateTimestamp : Int
  liquidityAvailable : Bool
  provider : String
  expiresAt : Int
deriving DecidableEq

/-- The rate of the provider, which fails where the live rates do. -/
def QuoteProvider.calculate (config : QuotesConfig) (replies : QuoteReplies)
    (sourceCurrency destinationAsset : String) (amount : ℚ) (side : QuoteSide)
    : QuoteProvider → Except AppError QuoteCalculationResult
  | .mock =>
      MockQuoteProvider.calculate config replies.time sourceCurrency destinationAsset amount side
  | .real =>
      RealFXQuoteProvider.calculate config replies.rates replies.time sourceCurrency
        destinationAsset amount side

/-- A value of a column DECIMAL(18, scale): rounded, and refused if it has too many digits. -/
def storedDecimal (scale : Nat) (value : ℚ) : Except AppError ℚ :=
  if |toDecimalPlaces value scale .ROUND_HALF_UP| < 10 ^ (18 - scale) then
    .ok (toDecimalPlaces value scale .ROUND_HALF_UP)
  else
    .error ⟨"numeric field overflow", 500, "P2020"⟩

namespace QuoteService

def allowedPairs : List String :=
  ["NGN_USDC", "NGN_USD", "USDC_NGN", "USD_NGN", "NGN_XLM", "XLM_NGN", "USDC_XLM", "XLM_USDC",
    "NGN_NGN", "USDC_USDC"]

/-- The checks of the request before the provider is asked. -/
def validateInput (config : QuotesConfig) (sourceCurrency destinationAsset : String)
    (side : QuoteSide) : Option ℚ → Except AppError ℚ
  | none => .error (.badRequest "Amount must be a positive number.")
  | some amount =>
      if amount ≤ 0 then
        .error (.badRequest "Amount must be a positive number.")
      else if s!"{sourceCurrency}_{destinationAsset}" ∉ allowedPairs then
        .error (.badRequest
          s!"Unsupported currency pair: {sourceCurrency} -> {destinationAsset}")
      else if sourceCurrency = "NGN" ∧ side = .source ∧ amount < config.minNgnAmount then
        .error (.badRequest s!"Minimum transaction amount is {config.minNgnAmount} NGN.")
      else if sourceCurrency = "NGN" ∧ side = .source ∧ config.maxNgnAmount < amount then
        .error (.badRequest s!"Maximum transaction amount is {config.maxNgnAmount} NGN.")
      else
        .ok amount

/-- `config.quotes.ttlSeconds || config.quotes.expirySeconds || 300`. -/
def ttlSeconds (config : QuotesConfig) : Nat :=
  if config.ttlSeconds ≠ 0 then config.ttlSeconds
  else if config.expirySeconds ≠ 0 then config.expirySeconds
  else 300

/-- `prisma.quote.create`. -/
def storeQuote (config : QuotesConfig) (calculation : QuoteCalculationResult)
    (liquidityAvailable : Bool) (time : Int) : Except AppError QuoteData := do
  let sourceAmount ← storedDecimal 4 calculation.sourceAmount
  let destinationAmount ← storedDecimal 7 calculation.destinationAmount
  let exchangeRate ← storedDecimal 6 calculation.exchangeRate
  let fee ← storedDecimal 4 calculation.fee
  let grossUsdcAmount ← storedDecimal 7 calculation.grossUsdcAmount
  let networkFeeUsdc ← storedDecimal 7 calculation.networkFeeUsdc
  let spread ← storedDecimal 6 calculation.spread
  let baseFxRate ← storedDecimal 6 calculation.baseFxRate
  pure
    { sourceCurrency := calculation.sourceCurrency
      destinationAsset := calculation.destinationAsset
      sourceAmount := sourceAmount
      destinationAmount := destinationAmount
      exchangeRate := exchangeRate
      fee := fee
      grossUsdcAmount := grossUsdcAmount
      networkFeeUsdc := networkFeeUsdc
      spread := spread
      baseFxRate := baseFxRate
      rateTimestamp := calculation.rateTimestamp
      liquidityAvailable := liquidityAvailable
      provider := calculation.provider
      expiresAt := time + ttlSeconds config * 1000 }

/-- The quote that is stored. From the side of the destination nothing is stored where the source
amount is no number, since a rate or a fee leaves nothing to divide by.
-/
def createQuote (config : QuotesConfig) (provider : QuoteProvider) (replies : QuoteReplies)
    (input : GenerateQuoteInput) : Except AppError QuoteData := do
  let sourceCurrency := toUpperCase input.sourceCurrency
  let destinationAsset := toUpperCase input.destinationAsset
  let side := input.side.getD .source
  let amount ← validateInput config sourceCurrency destinationAsset side input.amount
  let calculation ←
    provider.calculate config replies sourceCurrency destinationAsset amount side
  if destinationAsset = "USDC" ∧ config.maxQuoteUsdcAmount < calculation.destinationAmount then
    throw (.badRequest ("Requested output exceeds maximum allowed quote size of "
      ++ s!"{config.maxQuoteUsdcAmount} USDC."))
  else
    let availableLiquidity ← replies.availableLiquidity
    if side = .destination
        ∧ calculation.appliedFxRate * (1 - config.feePercentage) = 0 then
      throw ⟨"Invalid value for sourceAmount", 500, ""⟩
    else
      storeQuote config calculation (calculation.destinationAmount ≤ availableLiquidity)
        replies.time

end QuoteService

end LuminaRail
