import LuminaRail.Records.Runs

/-! The limit for USDC over whole runs. It is checked once, when a quote is made; orders and
settlements are held to it by their terms.
-/

namespace LuminaRail

open Arithmetic Concurrency Database Service

theorem storeQuote_destinationAsset {config : QuotesConfig} {calculation : QuoteCalculationResult}
    {liquidityAvailable : Bool} {time : Int} {quote : QuoteData}
    (stored : QuoteService.storeQuote config calculation liquidityAvailable time = .ok quote)
    : quote.destinationAsset = calculation.destinationAsset := by
  iterate 8 obtain ⟨_, -, stored⟩ := Except.bind_ok stored
  obtain rfl := Except.ok.inj stored
  rfl

/-- A quote for USDC is made only within the limit. -/
theorem createQuote_within_limit {config : QuotesConfig} {provider : QuoteProvider}
    {replies : QuoteReplies} {input : GenerateQuoteInput} {quote : QuoteData}
    (made : QuoteService.createQuote config provider replies input = .ok quote)
    (usdc : quote.destinationAsset = "USDC")
    : quote.destinationAmount ≤ config.maxQuoteUsdcAmount := by
  obtain ⟨amount, -, made⟩ := Except.bind_ok made
  obtain ⟨calculation, calculated, made⟩ := Except.bind_ok made
  obtain ⟨name, rateTimestamp, rfl⟩ := calculate_ok calculated
  split at made
  · cases made
  rename_i within
  obtain ⟨available, -, made⟩ := Except.bind_ok made
  split at made
  · cases made
  have asset : toUpperCase input.destinationAsset = "USDC" :=
    (storeQuote_destinationAsset made).symm.trans usdc
  obtain ⟨-, -, destination⟩ := storeQuote_ok made
  rw [destination, quoteResult, toDecimalPlaces_of_onGrid (roundedAmounts_onGrid rfl).2]
  exact not_lt.mp fun more => within ⟨asset, more⟩

theorem Offered.within_limit {quotes : QuotesConfig} {quote : Quote}
    (offered : Offered quotes quote) (usdc : quote.destinationAsset = "USDC")
    : (quote.destinationAmount : ℚ) ≤ quotes.maxQuoteUsdcAmount * 10 ^ 7 := by
  obtain ⟨provider, replies, input, data, made, rfl⟩ := offered
  calc ((QuoteData.row data).destinationAmount : ℚ)
      ≤ data.destinationAmount * 10 ^ 7 := Int.floor_le _
    _ ≤ quotes.maxQuoteUsdcAmount * 10 ^ 7 := by
        have limited := createQuote_within_limit made usdc
        linarith

/-- Rounding adds at most half a unit. -/
theorem roundAway_le (dividend : Int) {divisor : Nat} (positive : 0 < divisor)
    : 2 * (roundAway dividend divisor * divisor) ≤ 2 * dividend + divisor := by
  have below := Nat.div_mul_le_self (2 * dividend.natAbs + divisor) (2 * divisor)
  have above := Nat.lt_div_mul_add (a := 2 * dividend.natAbs + divisor)
    (show 0 < 2 * divisor by omega)
  unfold roundAway
  generalize (2 * dividend.natAbs + divisor) / (2 * divisor) = rounded at below above
  zify at below above
  rcases lt_trichotomy dividend 0 with negative | rfl | positive
  · rw [Int.sign_eq_neg_one_of_neg negative]
    rw [abs_of_neg negative] at above
    linarith
  · simp
  · rw [Int.sign_eq_one_of_pos positive]
    rw [abs_of_pos positive] at below
    linarith

/-- An amount of 7 places that is stored with 4. -/
theorem stored_le (units : Int) : ((stroops units).stored 4 : ℚ) ≤ units / 10 ^ 3 + 1 / 2 := by
  have rounded := roundAway_le (units * 10 ^ 4) (show 0 < 10 ^ 7 by norm_num)
  have rounded' : (2 * (((stroops units).stored 4 : Int) * 10 ^ 7) : ℚ)
      ≤ 2 * (units * 10 ^ 4) + 10 ^ 7 := by
    exact_mod_cast rounded
  linarith

variable {deployment : Deployment} {calls : Tid → SystemCall} {rows : AList Row}
  {last : Pool World Input} {quotes : QuotesConfig} {orderId : Id}

theorem AllLinked.order_within_limit (linked : AllLinked quotes rows) {order : Order}
    (stored : rows.lookup (.order orderId) = some order) (usdc : order.destinationAsset = "USDC")
    : (order.destinationAmount : ℚ) ≤ quotes.maxQuoteUsdcAmount * 10 ^ 7 := by
  obtain ⟨quote, found, -, asset, -, amount⟩ := linked (.order orderId) order stored
  have offered : Offered quotes quote.terms := linked (.quote order.quoteId) quote found
  rw [amount]
  exact offered.within_limit (asset.symm.trans usdc)

theorem AllLinked.settlement_within_limit (linked : AllLinked quotes rows)
    {settlement : Settlement} (stored : rows.lookup (.settlement orderId) = some settlement)
    (usdc : settlement.asset = "USDC")
    : (settlement.amount : ℚ) ≤ quotes.maxQuoteUsdcAmount * 10 ^ 4 + 1 / 2 := by
  obtain ⟨order, found, -, asset, amount⟩ := linked (.settlement orderId) settlement stored
  have limited := linked.order_within_limit found (asset.symm.trans usdc)
  have rounded := stored_le order.destinationAmount
  rw [amount]
  linarith

/-- Whatever calls run, in whatever order they act, fail and crash: no order is for more USDC
than a quote may offer, and no settlement pays more than that, but for the rounding of its
column. By the limits of the quotes that they are linked to.
-/
theorem usdc_within_limit (linked : AllLinked deployment.quotes rows)
    (run : AnyRun (machine anyExpiry) (startOf deployment calls rows) last)
    : (∀ orderId (order : Order), last.state.db.committed.lookup (.order orderId) = some order
        → order.destinationAsset = "USDC"
        → (order.destinationAmount : ℚ) ≤ deployment.quotes.maxQuoteUsdcAmount * 10 ^ 7)
      ∧ ∀ orderId (settlement : Settlement),
        last.state.db.committed.lookup (.settlement orderId) = some settlement
        → settlement.asset = "USDC"
        → (settlement.amount : ℚ) ≤ deployment.quotes.maxQuoteUsdcAmount * 10 ^ 4 + 1 / 2 := by
  have linked := linked.after_run run
  exact ⟨fun _ _ => linked.order_within_limit, fun _ _ => linked.settlement_within_limit⟩

/-- An order of an empty database is within the limit. -/
theorem usdc_within_limit_ordered
    : ∃ last, AnyRun (machine anyExpiry) (startOf testnet ordersQuote ∅) last
      ∧ ∃ order : Order, last.state.db.committed.lookup (.order "quote") = some order
        ∧ order.destinationAsset = "USDC" ∧ (order.destinationAmount : ℚ) ≤ 10000 * 10 ^ 7 := by
  have went : ((startOf testnet ordersQuote ∅).schedule (machine anyExpiry)
      (List.replicate 6 (.run 0 { text := "quote" })
        ++ List.replicate 17 (.run 1 { text := "quote" }))).map
        (fun pool => (pool.state.db.committed.lookup (.order "quote")).map fun (order : Order) =>
          order.destinationAsset) = some (some "USDC") := by
    decide +kernel
  obtain ⟨last, run, ordered⟩ := AnyRun.of_schedule_map went
  obtain ⟨order, stored, usdc⟩ := Option.map_eq_some_iff.mp ordered
  have nothing : AllLinked testnet.quotes ∅ := by
    intro key row stored
    simp at stored
  have limited := (usdc_within_limit nothing run).1 "quote" order stored usdc
  exact ⟨last, run, order, stored, usdc, limited⟩

end LuminaRail
