import LuminaRail.Services.QuoteProviders

/-! Who gains by the rounding of a quote. From the side of the source the fee is rounded up and the
payout down, each once; from the side of the destination the source amount is rounded up before the
fee on it is, which may leave too little.
-/

namespace LuminaRail

open Arithmetic

section

variable {rate f s a b : ℚ}

theorem appliedRate_eq : appliedRate rate s = rate * (1 - s) := rfl

theorem appliedRate_nonneg (positive : 0 < rate) (spread : s ≤ 1) : 0 ≤ appliedRate rate s :=
  mul_nonneg (le_of_lt positive) (sub_nonneg.mpr spread)

theorem appliedRate_pos (positive : 0 < rate) (spread : s < 1) : 0 < appliedRate rate s :=
  mul_pos positive (sub_pos.mpr spread)

theorem appliedRate_le (positive : 0 < rate) (spread : 0 ≤ s) : appliedRate rate s ≤ rate := by
  have kept := mul_le_mul_of_nonneg_left (show 1 - s ≤ 1 by linarith) (le_of_lt positive)
  rwa [mul_one] at kept

/-- What remains of the source amount after the fee. -/
def netSource (f a : ℚ) : ℚ := a - toDecimalPlaces (a * f) 4 .ROUND_UP

/-- The quote for a source amount that is one of 4 decimal places. -/
theorem calculateAmounts_source (onGrid : OnGrid 4 a)
    : calculateAmounts rate f s a .source
      = { sourceAmount := a
          destinationAmount := toDecimalPlaces (netSource f a * appliedRate rate s) 7 .ROUND_DOWN
          grossUsdcAmount := toDecimalPlaces (a * rate) 7 .ROUND_DOWN
          fee := toDecimalPlaces (a * f) 4 .ROUND_UP } := by
  simp only [calculateAmounts, roundedAmounts, id_eq, toDecimalPlaces_of_onGrid onGrid]
  rfl

/-- The fee is no more than the amount, since the amount is a number of 4 decimal places itself. -/
theorem netSource_nonneg (onGrid : OnGrid 4 a) (nonneg : 0 ≤ a) (fee : 0 ≤ f) (fraction : f ≤ 1)
    : 0 ≤ netSource f a := by
  have charged : a * f ≤ a := mul_le_of_le_one_right nonneg fraction
  exact sub_nonneg.mpr ((toDecimalPlaces_up_le_iff (mul_nonneg nonneg fee) onGrid).mpr charged)

theorem netSource_le (nonneg : 0 ≤ a) (fee : 0 ≤ f) : netSource f a ≤ a := by
  have charged : a * f ≤ toDecimalPlaces (a * f) 4 .ROUND_UP :=
    le_toDecimalPlaces_up (mul_nonneg nonneg fee)
  have nothing := mul_nonneg nonneg fee
  unfold netSource
  linarith

/-- Of two amounts more remains together than apart. -/
theorem netSource_add (a_nonneg : 0 ≤ a) (b_nonneg : 0 ≤ b) (fee : 0 ≤ f)
    : netSource f a + netSource f b ≤ netSource f (a + b) := by
  have charged : toDecimalPlaces (a * f + b * f) 4 .ROUND_UP
      ≤ toDecimalPlaces (a * f) 4 .ROUND_UP + toDecimalPlaces (b * f) 4 .ROUND_UP :=
    toDecimalPlaces_up_add_le (mul_nonneg a_nonneg fee) (mul_nonneg b_nonneg fee)
  rw [← add_mul] at charged
  unfold netSource
  linarith

theorem netSource_mono (a_grid : OnGrid 4 a) (b_grid : OnGrid 4 b) (a_nonneg : 0 ≤ a) (le : a ≤ b)
    (fee : 0 ≤ f) (fraction : f ≤ 1)
    : netSource f a ≤ netSource f b := by
  have rest_nonneg := netSource_nonneg (b_grid.sub a_grid) (sub_nonneg.mpr le) fee fraction
  have together := netSource_add (f := f) a_nonneg (sub_nonneg.mpr le) fee
  rw [add_sub_cancel] at together
  linarith

/-- From the side of the source nothing is lost by rounding: the fee is at least its fraction
and at most the amount, the payout is not more than without fee and spread, more is paid for
more, and splitting an amount does not pay. By the direction of each rounding.
-/
theorem source_quotes_favour_platform (positive : 0 < rate) (fee : 0 ≤ f ∧ f ≤ 1)
    (spread : 0 ≤ s ∧ s ≤ 1) (a_pos : 0 < a) (b_pos : 0 < b) (a_grid : OnGrid 4 a)
    (b_grid : OnGrid 4 b)
    : f * a ≤ (calculateAmounts rate f s a .source).fee
      ∧ (calculateAmounts rate f s a .source).fee ≤ a
      ∧ 0 ≤ (calculateAmounts rate f s a .source).destinationAmount
      ∧ (calculateAmounts rate f s a .source).destinationAmount
        ≤ (calculateAmounts rate f s a .source).grossUsdcAmount
      ∧ (a ≤ b → (calculateAmounts rate f s a .source).destinationAmount
        ≤ (calculateAmounts rate f s b .source).destinationAmount)
      ∧ (calculateAmounts rate f s a .source).destinationAmount
          + (calculateAmounts rate f s b .source).destinationAmount
        ≤ (calculateAmounts rate f s (a + b) .source).destinationAmount := by
  have applied := appliedRate_nonneg positive spread.2
  have a_net := netSource_nonneg a_grid (le_of_lt a_pos) fee.1 fee.2
  have b_net := netSource_nonneg b_grid (le_of_lt b_pos) fee.1 fee.2
  rw [calculateAmounts_source a_grid, calculateAmounts_source b_grid,
    calculateAmounts_source (a_grid.add b_grid)]
  refine ⟨?_, ?_, ?_, ?_, fun le => ?_, ?_⟩
  · rw [mul_comm]
    exact le_toDecimalPlaces_up (mul_nonneg (le_of_lt a_pos) fee.1)
  · exact sub_nonneg.mp a_net
  · exact toDecimalPlaces_nonneg (mul_nonneg a_net applied)
  · exact toDecimalPlaces_down_mono (mul_nonneg a_net applied)
      (mul_le_mul (netSource_le (le_of_lt a_pos) fee.1) (appliedRate_le positive spread.1) applied
        (le_of_lt a_pos))
  · exact toDecimalPlaces_down_mono (mul_nonneg a_net applied)
      (mul_le_mul_of_nonneg_right
        (netSource_mono a_grid b_grid (le_of_lt a_pos) le fee.1 fee.2) applied)
  · have together := netSource_add (le_of_lt a_pos) (le_of_lt b_pos) fee.1
    have apart := @add_le_toDecimalPlaces_down _ _ _ _ _ _ 7 _ (mul_nonneg a_net applied)
      (mul_nonneg b_net applied)
    rw [← add_mul] at apart
    exact apart.trans (toDecimalPlaces_down_mono (mul_nonneg (add_nonneg a_net b_net) applied)
      (mul_le_mul_of_nonneg_right together applied))

/-- A thousand and two thousand naira at 1500 for a dollar, with a fee of one percent. -/
theorem source_quotes_favour_platform_one_percent
    : (calculateAmounts (1 / 1500) (1 / 100) 0 1000 .source).destinationAmount
        + (calculateAmounts (1 / 1500) (1 / 100) 0 2000 .source).destinationAmount
      ≤ (calculateAmounts (1 / 1500) (1 / 100) 0 (1000 + 2000) .source).destinationAmount :=
  (source_quotes_favour_platform (by norm_num) (by norm_num) (by norm_num) (by norm_num)
    (by norm_num) ⟨10000000, by norm_num⟩ ⟨20000000, by norm_num⟩).2.2.2.2.2

/-- The quote for a destination amount that is one of 7 decimal places. -/
theorem calculateAmounts_destination (onGrid : OnGrid 7 a)
    : calculateAmounts rate f s a .destination
      = { sourceAmount := toDecimalPlaces (a / appliedRate rate s / (1 - f)) 4 .ROUND_UP
          destinationAmount := a
          grossUsdcAmount := toDecimalPlaces
            (toDecimalPlaces (a / appliedRate rate s / (1 - f)) 4 .ROUND_UP * rate) 7 .ROUND_DOWN
          fee := toDecimalPlaces
            (toDecimalPlaces (a / appliedRate rate s / (1 - f)) 4 .ROUND_UP * f) 4 .ROUND_UP } := by
  simp only [calculateAmounts, roundedAmounts, id_eq, toDecimalPlaces_of_onGrid onGrid]
  rfl

/-- Every source amount that leaves as much as is needed after the fee also leaves as much as is
needed when this is rounded up to 4 decimal places.
-/
def LeavesRoundedUp (f needed : ℚ) : Prop :=
  ∀ amount, OnGrid 4 amount → needed ≤ amount * (1 - f)
    → toDecimalPlaces needed 4 .ROUND_UP ≤ amount * (1 - f)

/-- Nothing is rounded where so much is needed as 4 decimal places can tell. -/
theorem leavesRoundedUp_of_onGrid {needed : ℚ} (onGrid : OnGrid 4 needed)
    : LeavesRoundedUp f needed := by
  intro amount _ enough
  rwa [toDecimalPlaces_of_onGrid onGrid]

/-- After the fee, which is rounded up, as much remains as is needed exactly if the amount leaves it
rounded up.
-/
theorem le_netSource_iff {needed : ℚ} (onGrid : OnGrid 4 a) (nonneg : 0 ≤ a) (fee : 0 ≤ f)
    (needed_nonneg : 0 ≤ needed)
    : needed ≤ netSource f a ↔ toDecimalPlaces needed 4 .ROUND_UP ≤ a * (1 - f) := by
  have net_grid : OnGrid 4 (netSource f a) := onGrid.sub onGrid_toDecimalPlaces
  rw [← toDecimalPlaces_up_le_iff needed_nonneg net_grid, netSource, le_sub_comm,
    toDecimalPlaces_up_le_iff (mul_nonneg nonneg fee) (onGrid.sub onGrid_toDecimalPlaces)]
  constructor
  · intro charged
    linarith
  · intro left
    linarith

/-- The least amount that leaves as much as is needed leaves it after the rounded fee exactly if all
of them do.
-/
theorem needed_le_netSource_iff {needed : ℚ} (fee : 0 ≤ f) (fraction : f < 1) (nonneg : 0 ≤ needed)
    : needed ≤ netSource f (toDecimalPlaces (needed / (1 - f)) 4 .ROUND_UP)
      ↔ LeavesRoundedUp f needed := by
  have rest : 0 < 1 - f := by linarith
  have quotient : 0 ≤ needed / (1 - f) := div_nonneg nonneg (le_of_lt rest)
  have least : needed / (1 - f) ≤ toDecimalPlaces (needed / (1 - f)) 4 .ROUND_UP :=
    le_toDecimalPlaces_up quotient
  rw [le_netSource_iff onGrid_toDecimalPlaces (quotient.trans least) fee nonneg]
  constructor
  · intro left amount amount_grid enough
    have more := (toDecimalPlaces_up_le_iff quotient amount_grid).mpr ((div_le_iff₀ rest).mpr enough)
    exact left.trans (mul_le_mul_of_nonneg_right more (le_of_lt rest))
  · intro leaves
    exact leaves _ onGrid_toDecimalPlaces ((div_le_iff₀ rest).mp least)

/-- A quote for a destination amount is funded by its source amount, and a quote for that source
amount pays it out, exactly if no source amount leaves as much as is needed but not this rounded
up. By cases on whether the source amount leaves the requested amount.
-/
theorem destination_quote_funded_iff {amount : ℚ} (positive : 0 < rate) (fee : 0 ≤ f ∧ f < 1)
    (spread : 0 ≤ s ∧ s < 1) (requested : 0 < amount) (onGrid : OnGrid 7 amount)
    : (amount ≤ ((calculateAmounts rate f s amount .destination).sourceAmount
          - (calculateAmounts rate f s amount .destination).fee) * appliedRate rate s
        ↔ LeavesRoundedUp f (amount / appliedRate rate s))
      ∧ (amount ≤ (calculateAmounts rate f s
          (calculateAmounts rate f s amount .destination).sourceAmount .source).destinationAmount
        ↔ LeavesRoundedUp f (amount / appliedRate rate s)) := by
  have applied := appliedRate_pos positive spread.2
  have needed : 0 ≤ amount / appliedRate rate s := div_nonneg (le_of_lt requested) (le_of_lt applied)
  have rest : 0 < 1 - f := by linarith [fee.2]
  set source := toDecimalPlaces (amount / appliedRate rate s / (1 - f)) 4 .ROUND_UP
  have source_grid : OnGrid 4 source := onGrid_toDecimalPlaces
  have source_nonneg : 0 ≤ source :=
    (div_nonneg needed (le_of_lt rest)).trans
      (le_toDecimalPlaces_up (div_nonneg needed (le_of_lt rest)))
  have quoted : (calculateAmounts rate f s amount .destination).sourceAmount = source := by
    rw [calculateAmounts_destination onGrid]
  have charged : (calculateAmounts rate f s amount .destination).fee
      = toDecimalPlaces (source * f) 4 .ROUND_UP := by
    rw [calculateAmounts_destination onGrid]
  have funded : amount ≤ netSource f source * appliedRate rate s
      ↔ LeavesRoundedUp f (amount / appliedRate rate s) := by
    rw [← div_le_iff₀ applied, needed_le_netSource_iff fee.1 fee.2 needed]
  refine ⟨?_, ?_⟩
  · rw [quoted, charged]
    exact funded
  · have net := netSource_nonneg source_grid source_nonneg fee.1 (le_of_lt fee.2)
    rw [quoted, calculateAmounts_source source_grid,
      le_toDecimalPlaces_down_iff (mul_nonneg net (le_of_lt applied)) onGrid]
    exact funded

end

/-- One dollar at 1500 naira, with a fee of one percent: as much is needed as 4 decimal places tell. -/
theorem destination_quote_funded_whole_naira
    : 1 ≤ ((calculateAmounts (1 / 1500) (1 / 100) 0 1 .destination).sourceAmount
          - (calculateAmounts (1 / 1500) (1 / 100) 0 1 .destination).fee)
        * appliedRate (1 / 1500) 0 :=
  (destination_quote_funded_iff (by norm_num) (by norm_num) (by norm_num) (by norm_num)
    ⟨10000000, by norm_num⟩).1.mpr
    (leavesRoundedUp_of_onGrid ⟨15000000, by norm_num [appliedRate_eq]⟩)

/-- One dollar at the fixed rate, with the default fee. -/
theorem one_dollar_underfunded
    : ¬1 ≤ ((calculateAmounts (MockQuoteProvider.rate "NGN" "USDC") (1 / 100) 0 1
          .destination).sourceAmount
        - (calculateAmounts (MockQuoteProvider.rate "NGN" "USDC") (1 / 100) 0 1 .destination).fee)
      * appliedRate (MockQuoteProvider.rate "NGN" "USDC") 0 := by
  decide +kernel

end LuminaRail
