import LuminaRail.Quotes.Pricing
import LuminaRail.Services.Quotes

/-! Which quotes are stored. The limits for naira are checked on the requested amount and only from the
side of the source, before the amounts of the quote are computed and rounded.
-/

namespace LuminaRail

open Arithmetic QuoteService

variable {config : QuotesConfig} {replies : QuoteReplies} {input : GenerateQuoteInput}
  {sourceCurrency destinationAsset : String} {amount : ℚ} {side : QuoteSide}

theorem Except.bind_ok {ε α β : Type} {first : Except ε α} {rest : α → Except ε β} {result : β}
    (success : first >>= rest = .ok result)
    : ∃ value, first = .ok value ∧ rest value = .ok result := by
  cases first with
  | error error => cases success
  | ok value => exact ⟨value, rfl, success⟩

/-- The rate that a provider computes with. -/
def QuoteProvider.baseFxRate (replies : QuoteReplies) (sourceCurrency destinationAsset : String)
    : QuoteProvider → ℚ
  | .mock => MockQuoteProvider.rate sourceCurrency destinationAsset
  | .real =>
      match replies.rates with
      | .rates (some rateNgn) _ => RealFXQuoteProvider.rawRate sourceCurrency destinationAsset rateNgn
      | _ => 0

theorem RealFXQuoteProvider.fetchLiveNgnRate_ok {time : Int} {reply : FxReply} {rateNgn : ℚ}
    {rateTimestamp : Int} (fetched : fetchLiveNgnRate time reply = .ok (rateNgn, rateTimestamp))
    : ∃ lastUpdate, reply = .rates (some rateNgn) lastUpdate := by
  cases reply with
  | rates ngn lastUpdate =>
      simp only [fetchLiveNgnRate] at fetched
      split at fetched
      · cases fetched
      · rename_i found
        obtain ⟨rfl, -⟩ := Prod.mk.inj (Except.ok.inj fetched)
        exact ⟨lastUpdate, by rw [(Option.filter_eq_some_iff.mp found).1]⟩
  | _ => cases fetched

/-- What a provider answers is computed with its rate. -/
theorem calculate_ok {provider : QuoteProvider} {calculation : QuoteCalculationResult}
    (calculated : provider.calculate config replies sourceCurrency destinationAsset amount side
      = .ok calculation)
    : ∃ name rateTimestamp,
        calculation = quoteResult name sourceCurrency destinationAsset
          (provider.baseFxRate replies sourceCurrency destinationAsset) config.feePercentage
          config.spreadPercentage amount side rateTimestamp := by
  cases provider with
  | mock =>
      simp only [QuoteProvider.calculate, MockQuoteProvider.calculate] at calculated
      split at calculated
      · cases calculated
      · exact ⟨_, _, (Except.ok.inj calculated).symm⟩
  | real =>
      simp only [QuoteProvider.calculate, RealFXQuoteProvider.calculate] at calculated
      split at calculated
      · cases calculated
      · obtain ⟨⟨rateNgn, rateTimestamp⟩, fetched, computed⟩ := Except.bind_ok calculated
        obtain ⟨lastUpdate, replied⟩ := RealFXQuoteProvider.fetchLiveNgnRate_ok fetched
        simp only at computed
        split_ifs at computed
        · exact ⟨_, _, by
            rw [QuoteProvider.baseFxRate, replied]
            exact (Except.ok.inj computed).symm⟩

-----------------------------------------------------------------------------------------
-- What is stored
-----------------------------------------------------------------------------------------

theorem storedDecimal_ok {scale : Nat} {value stored : ℚ}
    (fits : storedDecimal scale value = .ok stored)
    : stored = toDecimalPlaces value scale .ROUND_HALF_UP := by
  rw [storedDecimal] at fits
  split at fits
  · exact (Except.ok.inj fits).symm
  · cases fits

/-- The amounts and currencies of a stored quote are those that were computed, if they have no more
decimal places than the columns.
-/
theorem storeQuote_ok {calculation : QuoteCalculationResult} {liquidityAvailable : Bool}
    {time : Int} {quote : QuoteData}
    (stored : storeQuote config calculation liquidityAvailable time = .ok quote)
    : quote.sourceCurrency = calculation.sourceCurrency
      ∧ quote.sourceAmount = toDecimalPlaces calculation.sourceAmount 4 .ROUND_HALF_UP
      ∧ quote.destinationAmount
        = toDecimalPlaces calculation.destinationAmount 7 .ROUND_HALF_UP := by
  obtain ⟨source, source_fits, stored⟩ := Except.bind_ok stored
  obtain ⟨destination, destination_fits, stored⟩ := Except.bind_ok stored
  obtain ⟨exchangeRate, -, stored⟩ := Except.bind_ok stored
  obtain ⟨fee, -, stored⟩ := Except.bind_ok stored
  obtain ⟨gross, -, stored⟩ := Except.bind_ok stored
  obtain ⟨networkFee, -, stored⟩ := Except.bind_ok stored
  obtain ⟨spread, -, stored⟩ := Except.bind_ok stored
  obtain ⟨baseFxRate, -, stored⟩ := Except.bind_ok stored
  obtain rfl := Except.ok.inj stored
  exact ⟨rfl, storedDecimal_ok source_fits, storedDecimal_ok destination_fits⟩

/-- The amounts are computed to the decimal places of their columns. -/
theorem roundedAmounts_onGrid {round : ℚ → ℚ} {rate fee spread : ℚ} {amounts : QuoteAmounts}
    (quoted : amounts = roundedAmounts round rate fee spread amount side)
    : OnGrid 4 amounts.sourceAmount ∧ OnGrid 7 amounts.destinationAmount := by
  subst quoted
  cases side with
  | source => exact ⟨onGrid_toDecimalPlaces, onGrid_toDecimalPlaces⟩
  | destination => exact ⟨onGrid_toDecimalPlaces, onGrid_toDecimalPlaces⟩

theorem validateInput_ok {requested : Option ℚ}
    (valid : validateInput config sourceCurrency destinationAsset side requested = .ok amount)
    : requested = some amount ∧ 0 < amount := by
  cases requested with
  | none => cases valid
  | some requested =>
      simp only [validateInput] at valid
      split_ifs at valid with positive
      obtain rfl := Except.ok.inj valid
      exact ⟨rfl, not_le.mp positive⟩

/-- A stored quote has the amounts that are computed from its request. -/
theorem createQuote_ok {provider : QuoteProvider} {quote : QuoteData}
    (persisted : createQuote config provider replies input = .ok quote)
    : ∃ amount,
        input.amount = some amount ∧ 0 < amount
        ∧ quote.sourceCurrency = toUpperCase input.sourceCurrency
        ∧ ∃ amounts,
            amounts = roundedAmounts computed (provider.baseFxRate replies
                (toUpperCase input.sourceCurrency) (toUpperCase input.destinationAsset))
              config.feePercentage config.spreadPercentage amount (input.side.getD .source)
            ∧ quote.sourceAmount = toDecimalPlaces amounts.sourceAmount 4 .ROUND_HALF_UP
            ∧ quote.destinationAmount
              = toDecimalPlaces amounts.destinationAmount 7 .ROUND_HALF_UP := by
  obtain ⟨amount, valid, persisted⟩ := Except.bind_ok persisted
  obtain ⟨requested, positive⟩ := validateInput_ok valid
  obtain ⟨calculation, calculated, persisted⟩ := Except.bind_ok persisted
  obtain ⟨name, rateTimestamp, rfl⟩ := calculate_ok calculated
  split at persisted
  · cases persisted
  · obtain ⟨available, -, persisted⟩ := Except.bind_ok persisted
    split at persisted
    · cases persisted
    · obtain ⟨currency, source, destination⟩ := storeQuote_ok persisted
      exact ⟨amount, requested, positive, currency, _, rfl, source, destination⟩

-----------------------------------------------------------------------------------------
-- What is admitted
-----------------------------------------------------------------------------------------

/-- The amounts of a quote are positive, and naira are within the limits. -/
def Admitted (config : QuotesConfig) (quote : QuoteData) : Prop :=
  0 < quote.sourceAmount ∧ 0 < quote.destinationAmount
  ∧ (quote.sourceCurrency = "NGN"
    → config.minNgnAmount ≤ quote.sourceAmount ∧ quote.sourceAmount ≤ config.maxNgnAmount)

instance (config : QuotesConfig) (quote : QuoteData) : Decidable (Admitted config quote) :=
  inferInstanceAs (Decidable (_ ∧ _ ∧ (_ → _)))

/-- What remains of an amount after the fee, as it is computed. -/
def remainder (feePercentage amount : ℚ) : ℚ :=
  computed (amount - toDecimalPlaces (computed (amount * feePercentage)) 4 .ROUND_UP)

/-- The least destination amount that costs more than a source amount, which is one of 4 decimal
places. In exact arithmetic it would be `limit * rate * (1 - fee)`; the terms account for the three
roundings on the way back from this.
-/
def leastCosting (rate fee limit : ℚ) : ℚ :=
  reachesFrom 7 (|rate| * leastReaching 20 (|fee| * leastExceeding 20 limit))

/-- From the side of the source: what remains of the rounded amount after the fee buys a unit of the
last decimal place, and naira are so much that they are within the limits once they are rounded.
From the side of the destination: the amount is not rounded to nothing, its price is positive, and
for naira it is between what costs less than the minimum and what costs more than the maximum, which
nobody checks.
-/
def Admissible (config : QuotesConfig) (baseFxRate : ℚ) (sourceCurrency : String) (amount : ℚ)
    : QuoteSide → Prop
  | .source =>
      leastReaching 20 (1 / 10 ^ 7)
          ≤ remainder config.feePercentage (toDecimalPlaces amount 4 .ROUND_HALF_UP)
            * appliedFxRate computed baseFxRate config.spreadPercentage
        ∧ (sourceCurrency = "NGN"
          → reachesFrom 4 config.minNgnAmount ≤ amount ∧ amount < exceedsFrom 4 config.maxNgnAmount)
  | .destination =>
      1 / 2 / 10 ^ 7 ≤ amount
        ∧ 0 < appliedFxRate computed baseFxRate config.spreadPercentage
          * computed (1 - config.feePercentage)
        ∧ (sourceCurrency = "NGN"
          → leastCosting (appliedFxRate computed baseFxRate config.spreadPercentage)
                (computed (1 - config.feePercentage)) (placeBelow 4 config.minNgnAmount) ≤ amount
            ∧ amount < leastCosting (appliedFxRate computed baseFxRate config.spreadPercentage)
                (computed (1 - config.feePercentage)) (placeWithin 4 config.maxNgnAmount))

instance (config : QuotesConfig) (baseFxRate : ℚ) (sourceCurrency : String) (amount : ℚ)
    : (side : QuoteSide) → Decidable (Admissible config baseFxRate sourceCurrency amount side)
  | .source => inferInstanceAs (Decidable (_ ∧ (_ → _)))
  | .destination => inferInstanceAs (Decidable (_ ∧ _ ∧ (_ → _)))

-----------------------------------------------------------------------------------------
-- From the side of the source
-----------------------------------------------------------------------------------------

theorem computed_pos_iff {x : ℚ} : 0 < computed x ↔ 0 < x :=
  toSignificantDigits_pos_iff (by norm_num)

theorem computed_zero : computed 0 = 0 := toSignificantDigits_zero

theorem computed_neg {x : ℚ} : computed (-x) = -computed x := toSignificantDigits_neg

theorem computed_neg_iff {x : ℚ} : computed x < 0 ↔ x < 0 := by
  rw [← neg_pos, ← computed_neg, computed_pos_iff, neg_pos]

/-- What is computed is worth a unit of the last decimal place exactly if it is from half a unit of
the last digit below on.
-/
theorem paid_pos_iff {x : ℚ}
    : 0 < toDecimalPlaces (computed x) 7 .ROUND_DOWN ↔ leastReaching 20 (1 / 10 ^ 7) ≤ x := by
  rw [toDecimalPlaces_down_pos_iff]
  exact le_toSignificantDigits_iff (by norm_num) (.inl (by norm_num))

/-- An amount that leaves something after its fee is positive. -/
theorem sourceAmount_pos {rate f : ℚ} (nonneg : 0 ≤ amount)
    (pays : leastReaching 20 (1 / 10 ^ 7)
      ≤ remainder f (toDecimalPlaces amount 4 .ROUND_HALF_UP) * rate)
    : 0 < toDecimalPlaces amount 4 .ROUND_HALF_UP := by
  refine lt_of_le_of_ne (toDecimalPlaces_half_up_nonneg nonneg) fun zero => ?_
  have nothing : remainder f 0 = 0 := by
    rw [remainder, zero_mul, computed_zero, toDecimalPlaces_of_onGrid onGrid_zero, sub_zero,
      computed_zero]
  have worthless : ¬leastReaching 20 (1 / 10 ^ 7 : ℚ) ≤ 0 := by decide +kernel
  rw [← zero, nothing, zero_mul] at pays
  exact worthless pays

/-- From the side of the source a quote is admitted exactly if its amount is admissible: the limits
are undone through the rounding to 4 decimal places, the payout through the two roundings of it.
-/
theorem admitted_source_iff {rate : ℚ} {amounts : QuoteAmounts} (nonneg : 0 ≤ amount)
    (quoted : amounts = roundedAmounts computed rate config.feePercentage config.spreadPercentage
      amount .source)
    : 0 < amounts.sourceAmount ∧ 0 < amounts.destinationAmount
        ∧ (sourceCurrency = "NGN" → config.minNgnAmount ≤ amounts.sourceAmount
          ∧ amounts.sourceAmount ≤ config.maxNgnAmount)
      ↔ Admissible config rate sourceCurrency amount .source := by
  subst quoted
  simp only [roundedAmounts, paid_pos_iff, Admissible, remainder]
  rw [le_toDecimalPlaces_half_up_iff nonneg, ← not_lt (a := config.maxNgnAmount),
    @lt_toDecimalPlaces_half_up_iff _ _ _ _ _ config.maxNgnAmount 4 _ nonneg, not_le]
  constructor
  · intro admitted
    exact ⟨admitted.2.1, admitted.2.2⟩
  · intro admissible
    exact ⟨sourceAmount_pos nonneg admissible.1, admissible.1, admissible.2⟩

-----------------------------------------------------------------------------------------
-- From the side of the destination
-----------------------------------------------------------------------------------------

variable {rate fee limit delivered : ℚ}

/-- The price of an amount is positive if rate and fee have the same sign. -/
theorem price_pos_iff (positive : 0 < delivered)
    : 0 < computed (computed (delivered / rate) / fee) ↔ 0 < rate * fee := by
  rw [computed_pos_iff, div_pos_iff, computed_pos_iff, computed_neg_iff,
    div_pos_iff_of_pos_left positive, div_neg_iff, mul_pos_iff]
  simp [positive, not_lt_of_gt positive]

/-- The signs of rate and fee cancel each other. -/
theorem price_abs (same : 0 < rate * fee)
    : computed (delivered / rate) / fee = computed (delivered / |rate|) / |fee| := by
  rcases pos_and_pos_or_neg_and_neg_of_mul_pos same with ⟨rate_pos, fee_pos⟩ | ⟨rate_neg, fee_neg⟩
  · rw [abs_of_pos rate_pos, abs_of_pos fee_pos]
  · rw [abs_of_neg rate_neg, abs_of_neg fee_neg, div_neg, div_neg, computed_neg, neg_div,
      neg_neg]

/-- An amount costs more than a limit exactly from `leastCosting` on, by undoing the quotients and
their roundings one after the other.
-/
theorem lt_price_iff (same : 0 < rate * fee) (nonneg : 0 ≤ amount)
    (positive : 0 < toDecimalPlaces amount 7 .ROUND_HALF_UP)
    : limit < computed (computed (toDecimalPlaces amount 7 .ROUND_HALF_UP / rate) / fee)
      ↔ leastCosting rate fee limit ≤ amount := by
  have rate_pos : 0 < |rate| := abs_pos.mpr (left_ne_zero_of_mul (ne_of_gt same))
  have fee_pos : 0 < |fee| := abs_pos.mpr (right_ne_zero_of_mul (ne_of_gt same))
  have needed_pos := computed_pos_iff.mpr (div_pos positive rate_pos)
  have digits : 0 < 20 := by norm_num
  calc
    limit < computed (computed (toDecimalPlaces amount 7 .ROUND_HALF_UP / rate) / fee)
      ↔ leastExceeding 20 limit
          ≤ computed (toDecimalPlaces amount 7 .ROUND_HALF_UP / |rate|) / |fee| := by
        rw [price_abs same]
        exact lt_toSignificantDigits_iff digits (div_pos needed_pos fee_pos)
    _ ↔ |fee| * leastExceeding 20 limit
          ≤ computed (toDecimalPlaces amount 7 .ROUND_HALF_UP / |rate|) :=
        le_div_iff₀' fee_pos
    _ ↔ leastReaching 20 (|fee| * leastExceeding 20 limit)
          ≤ toDecimalPlaces amount 7 .ROUND_HALF_UP / |rate| :=
        le_toSignificantDigits_iff digits (.inr (div_pos positive rate_pos))
    _ ↔ |rate| * leastReaching 20 (|fee| * leastExceeding 20 limit)
          ≤ toDecimalPlaces amount 7 .ROUND_HALF_UP :=
        le_div_iff₀' rate_pos
    _ ↔ leastCosting rate fee limit ≤ amount := le_toDecimalPlaces_half_up_iff nonneg

/-- From the side of the destination a quote is admitted exactly if its amount is admissible. -/
theorem admitted_destination_iff {amounts : QuoteAmounts} (nonneg : 0 ≤ amount)
    (quoted : amounts = roundedAmounts computed rate config.feePercentage config.spreadPercentage
      amount .destination)
    : 0 < amounts.sourceAmount ∧ 0 < amounts.destinationAmount
        ∧ (sourceCurrency = "NGN" → config.minNgnAmount ≤ amounts.sourceAmount
          ∧ amounts.sourceAmount ≤ config.maxNgnAmount)
      ↔ Admissible config rate sourceCurrency amount .destination := by
  subst quoted
  simp only [roundedAmounts, Admissible]
  rw [← toDecimalPlaces_half_up_pos_iff nonneg, toDecimalPlaces_up_pos_iff, and_left_comm]
  refine and_congr_right fun positive => ?_
  rw [price_pos_iff positive]
  refine and_congr_right fun same => imp_congr_right fun _ => ?_
  have price_nonneg := le_of_lt ((price_pos_iff positive).mpr same)
  rw [le_toDecimalPlaces_up_iff price_nonneg, ← not_lt (a := config.maxNgnAmount),
    lt_toDecimalPlaces_up_iff price_nonneg, lt_price_iff same nonneg positive,
    lt_price_iff same nonneg positive, not_le]

/-- A stored quote is admitted exactly if its request is admissible at the rate of the provider.
By cases on the side of the request.
-/
theorem quote_admission_iff {provider : QuoteProvider} {quote : QuoteData}
    (persisted : createQuote config provider replies input = .ok quote)
    : ∃ amount,
        input.amount = some amount
        ∧ (Admitted config quote
          ↔ Admissible config
            (provider.baseFxRate replies (toUpperCase input.sourceCurrency)
              (toUpperCase input.destinationAsset))
            (toUpperCase input.sourceCurrency) amount (input.side.getD .source)) := by
  obtain ⟨amount, requested, positive, currency, amounts, quoted, source, destination⟩ :=
    createQuote_ok persisted
  refine ⟨amount, requested, ?_⟩
  have onGrid := roundedAmounts_onGrid quoted
  rw [Admitted, currency, source, destination, toDecimalPlaces_of_onGrid onGrid.1,
    toDecimalPlaces_of_onGrid onGrid.2]
  cases side : input.side.getD .source with
  | source => exact admitted_source_iff (le_of_lt positive) (side ▸ quoted)
  | destination => exact admitted_destination_iff (le_of_lt positive) (side ▸ quoted)

/-- A request at the fixed rates, with plenty of liquidity. -/
def quoteAtFixedRates (sourceCurrency destinationAsset : String) (amount : ℚ) (side : QuoteSide)
    : Except AppError QuoteData :=
  createQuote {} .mock { rates := .aborted, availableLiquidity := .ok 1000000, time := 0 }
    { sourceCurrency := sourceCurrency
      destinationAsset := destinationAsset
      amount := some amount
      side := some side }

/-- A quote for a hundred dollars is admitted. -/
theorem hundred_dollars_admitted
    : ∃ quote, quoteAtFixedRates "NGN" "USDC" 100 .destination = .ok quote ∧ Admitted {} quote := by
  have persisted : (quoteAtFixedRates "NGN" "USDC" 100 .destination).toOption.isSome := by
    decide +kernel
  obtain ⟨quote, quoted⟩ : ∃ quote, quoteAtFixedRates "NGN" "USDC" 100 .destination = .ok quote := by
    cases quoted : quoteAtFixedRates "NGN" "USDC" 100 .destination with
    | error error =>
        rw [quoted] at persisted
        cases persisted
    | ok quote => exact ⟨quote, rfl⟩
  obtain ⟨amount, requested, admitted⟩ := quote_admission_iff quoted
  obtain rfl := Option.some.inj requested
  exact ⟨quote, quoted, admitted.mpr (by decide +kernel)⟩

/-- From the side of the destination a cent is sold, far below the minimum of naira. -/
theorem one_cent_below_minimum
    : (quoteAtFixedRates "NGN" "USDC" (1 / 100) .destination).toOption.any (fun quote =>
        quote.sourceAmount < 1000 ∧ ¬Admitted {} quote) := by
  decide +kernel

/-- At 3000 naira for a dollar three units of the fourth decimal place would buy one of the seventh,
but the rate is rounded down.
-/
example
    : (createQuote {} .real ⟨.rates (some 3000) none, .ok 1000000, 0⟩
        ⟨"XLM", "NGN", some (4 / 10 ^ 4), none⟩).toOption.map QuoteData.destinationAmount
      = some 0 := by
  decide +kernel

end LuminaRail
