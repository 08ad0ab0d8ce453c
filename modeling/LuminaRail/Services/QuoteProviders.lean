import LuminaRail.Arithmetic.SignificantDigits
import LuminaRail.Model.Errors

/-! The quote providers: what an amount is worth on the other side, at a live rate or at a fixed one.
decimal.js rounds the result of each operation to 20 significant digits.
-/

namespace LuminaRail

open Arithmetic

/-- `config.quotes`. -/
structure QuotesConfig where
  expirySeconds : Nat := 300
  ttlSeconds : Nat := 300
  fxMaxAgeSeconds : Int := 300
  feePercentage : ℚ := 1 / 100
  spreadPercentage : ℚ := 0
  minNgnAmount : ℚ := 1000
  maxNgnAmount : ℚ := 10000000
  maxQuoteUsdcAmount : ℚ := 10000

inductive QuoteSide
  | source
  | destination
deriving DecidableEq

/-- Times are in milliseconds. -/
structure QuoteCalculationResult where
  sourceCurrency : String
  destinationAsset : String
  sourceAmount : ℚ
  destinationAmount : ℚ
  grossUsdcAmount : ℚ
  fee : ℚ
  networkFeeUsdc : ℚ
  spread : ℚ
  baseFxRate : ℚ
  appliedFxRate : ℚ
  exchangeRate : ℚ
  provider : String
  rateTimestamp : Int
deriving DecidableEq

structure QuoteAmounts where
  sourceAmount : ℚ
  destinationAmount : ℚ
  grossUsdcAmount : ℚ
  fee : ℚ
deriving DecidableEq

section

variable (round : ℚ → ℚ)

/-- The rate after the spread, where the result of each operation is rounded so. -/
def appliedFxRate (baseFxRate spreadPercentage : ℚ) : ℚ :=
  round (baseFxRate * round (1 - spreadPercentage))

/-- The amounts that both providers compute from their rates, where the result of each operation is
rounded so.
-/
def roundedAmounts (baseFxRate feePercentage spreadPercentage amount : ℚ)
    : QuoteSide → QuoteAmounts
  | .source =>
      let sourceAmount := toDecimalPlaces amount 4 .ROUND_HALF_UP
      let fee := toDecimalPlaces (round (sourceAmount * feePercentage)) 4 .ROUND_UP
      let netSource := round (sourceAmount - fee)
      { sourceAmount := sourceAmount
        destinationAmount :=
          toDecimalPlaces (round (netSource * appliedFxRate round baseFxRate spreadPercentage)) 7
            .ROUND_DOWN
        grossUsdcAmount := toDecimalPlaces (round (sourceAmount * baseFxRate)) 7 .ROUND_DOWN
        fee := fee }
  | .destination =>
      let destinationAmount := toDecimalPlaces amount 7 .ROUND_HALF_UP
      let netSourceNeeded :=
        round (destinationAmount / appliedFxRate round baseFxRate spreadPercentage)
      let sourceAmount :=
        toDecimalPlaces (round (netSourceNeeded / round (1 - feePercentage))) 4 .ROUND_UP
      { sourceAmount := sourceAmount
        destinationAmount := destinationAmount
        grossUsdcAmount := toDecimalPlaces (round (sourceAmount * baseFxRate)) 7 .ROUND_DOWN
        fee := toDecimalPlaces (round (sourceAmount * feePercentage)) 4 .ROUND_UP }

end

/-- The result of an operation of decimal.js. -/
def computed (x : ℚ) : ℚ := toSignificantDigits 20 x

/-- The rate after the spread in exact arithmetic. -/
def appliedRate (baseFxRate spreadPercentage : ℚ) : ℚ :=
  appliedFxRate id baseFxRate spreadPercentage

/-- The amounts in exact arithmetic. -/
def calculateAmounts (baseFxRate feePercentage spreadPercentage amount : ℚ) (side : QuoteSide)
    : QuoteAmounts :=
  roundedAmounts id baseFxRate feePercentage spreadPercentage amount side

/-- The result of a provider with this rate. -/
def quoteResult (provider sourceCurrency destinationAsset : String)
    (baseFxRate feePercentage spreadPercentage amount : ℚ) (side : QuoteSide) (rateTimestamp : Int)
    : QuoteCalculationResult :=
  let amounts :=
    roundedAmounts computed baseFxRate feePercentage spreadPercentage amount side
  { sourceCurrency := sourceCurrency
    destinationAsset := destinationAsset
    sourceAmount := amounts.sourceAmount
    destinationAmount := amounts.destinationAmount
    grossUsdcAmount := amounts.grossUsdcAmount
    fee := amounts.fee
    networkFeeUsdc := 0
    spread := spreadPercentage
    baseFxRate := baseFxRate
    appliedFxRate := appliedFxRate computed baseFxRate spreadPercentage
    exchangeRate :=
      toDecimalPlaces (appliedFxRate computed baseFxRate spreadPercentage) 8 .ROUND_HALF_UP
    provider := provider
    rateTimestamp := rateTimestamp }

/-- `Invalid quote amount requested`. -/
def invalidAmount : AppError := ⟨"Invalid quote amount requested", 400, "INVALID_AMOUNT"⟩

namespace MockQuoteProvider

def MOCK_RATES : List (String × ℚ) :=
  [("NGN_USDC", 66667 / 10 ^ 8), ("USDC_NGN", 1500), ("USD_NGN", 1500),
    ("NGN_USD", 66667 / 10 ^ 8), ("XLM_NGN", 150), ("NGN_XLM", 666667 / 10 ^ 8),
    ("USDC_XLM", 10), ("XLM_USDC", 1 / 10)]

/-- `MOCK_RATES[pairKey] || '1.0'`. -/
def rate (sourceCurrency destinationAsset : String) : ℚ :=
  (MOCK_RATES.lookup s!"{sourceCurrency}_{destinationAsset}").getD 1

def calculate (config : QuotesConfig) (time : Int) (sourceCurrency destinationAsset : String)
    (amount : ℚ) (side : QuoteSide) : Except AppError QuoteCalculationResult :=
  if amount ≤ 0 then
    .error invalidAmount
  else
    .ok (quoteResult "MOCK_QUOTE_PROVIDER" sourceCurrency destinationAsset
      (rate sourceCurrency destinationAsset) config.feePercentage config.spreadPercentage amount side
      time)

end MockQuoteProvider

/-- What comes of the request for the rates. A rate is missing where it is no finite number. -/
inductive FxReply
  | aborted
  | failed (message : String)
  | status (code : Nat)
  | malformed
  | withoutRates
  | rates (ngn : Option ℚ) (lastUpdate : Option ℚ)

namespace RealFXQuoteProvider

/-- When the rate was last updated, if that is plausible: in seconds of the reply and in milliseconds
here.
-/
def rateTimestamp (time : Int) (lastUpdate : Option ℚ) : Int :=
  match lastUpdate.filter (· ≠ 0) with
  | none => time
  | some seconds =>
      let parsed := (seconds * 1000).num.tdiv (seconds * 1000).den
      let ageSeconds : ℚ := (time - parsed) / 1000
      if 0 ≤ ageSeconds ∧ ageSeconds ≤ 7 * 86400 then parsed else time

def fetchLiveNgnRate (time : Int) : FxReply → Except AppError (ℚ × Int)
  | .aborted => .error ⟨"FX rate provider request timed out", 504, "FX_PROVIDER_TIMEOUT"⟩
  | .failed message =>
      let reason := if message = "" then "Unknown network error" else message
      .error ⟨s!"Failed to fetch FX rate: {reason}", 502, "FX_PROVIDER_ERROR"⟩
  | .status code =>
      .error ⟨s!"FX rate provider returned HTTP status {code}", 502, "FX_PROVIDER_HTTP_ERROR"⟩
  | .malformed => .error ⟨"Malformed payload from FX rate provider", 502, "FX_PROVIDER_MALFORMED"⟩
  | .withoutRates =>
      .error ⟨"Rates payload missing from FX rate provider", 502, "FX_PROVIDER_MALFORMED"⟩
  | .rates ngn lastUpdate =>
      match ngn.filter (0 < ·) with
      | none =>
          .error ⟨"Invalid or non-positive NGN rate returned by FX provider", 502,
            "FX_PROVIDER_INVALID_RATE"⟩
      | some rateNgn => .ok (rateNgn, rateTimestamp time lastUpdate)

/-- The rate of a pair, from naira for a dollar. -/
def rawRate (sourceCurrency destinationAsset : String) (rateNgn : ℚ) : ℚ :=
  if sourceCurrency = "NGN" ∧ (destinationAsset = "USDC" ∨ destinationAsset = "USD") then
    computed (1 / rateNgn)
  else if (sourceCurrency = "USDC" ∨ sourceCurrency = "USD") ∧ destinationAsset = "NGN" then
    rateNgn
  else if sourceCurrency = destinationAsset then
    1
  else
    computed (1 / rateNgn)

def calculate (config : QuotesConfig) (reply : FxReply) (time : Int)
    (sourceCurrency destinationAsset : String) (amount : ℚ) (side : QuoteSide)
    : Except AppError QuoteCalculationResult :=
  if amount ≤ 0 then
    .error invalidAmount
  else do
    let (rateNgn, rateTimestamp) ← fetchLiveNgnRate time reply
    let rateAgeSeconds : ℚ := (time - rateTimestamp) / 1000
    if 0 < config.fxMaxAgeSeconds ∧ config.fxMaxAgeSeconds < rateAgeSeconds then
      throw ⟨s!"FX rate from provider is stale (age: {⌊rateAgeSeconds + 1 / 2⌋}s, max allowed: "
        ++ s!"{config.fxMaxAgeSeconds}s)", 502, "FX_PROVIDER_STALE_RATE"⟩
    else if rateNgn < 50 ∨ 500000 < rateNgn then
      throw ⟨"FX rate returned is outside reasonable safety bounds", 502,
        "FX_PROVIDER_UNREASONABLE_RATE"⟩
    else if rawRate sourceCurrency destinationAsset rateNgn ≤ 0 then
      throw ⟨"Calculated exchange rate is invalid or non-positive", 502, "INVALID_EXCHANGE_RATE"⟩
    else
      pure (quoteResult "REAL_FX_PROVIDER" sourceCurrency destinationAsset
        (rawRate sourceCurrency destinationAsset rateNgn) config.feePercentage
        config.spreadPercentage amount side rateTimestamp)

end RealFXQuoteProvider

end LuminaRail
