import LuminaRail.Payments.Reconciled
import LuminaRail.Webhooks.Deliveries

/-! Whether a customer who pays what Paystack was told to charge is accepted. The charge is in whole
kobo, the amount of the order in hundredths of them, and the daemon compares the two as doubles.
-/

namespace LuminaRail

open Arithmetic Concurrency Database Service Exclusive ReconciliationDaemon

/-- What Paystack is told to charge for an order. -/
def chargedKobo (order : Order) (reference : String) : Int :=
  ({ amount := order.sourceAmount, currency := "NGN", reference := reference }
    : CreatePaymentRequest).paystackInput.amountInKobo

/-- The provider accepts a charge of the expected amount. -/
theorem paystackStatus_of_charged {order : Order} {reference : String} {result : PaystackVerifyResult}
    (success : result.status = "success")
    (amount : result.amountInKobo = chargedKobo order reference) (currency : result.currency = "NGN")
    : paystackStatus { expectedAmount := some (some (money order.sourceAmount)) } result
      = .SUCCEEDED := by
  simp [paystackStatus, success, amount, currency, chargedKobo, CreatePaymentRequest.paystackInput]

/-- Written in naira the charge is the amount of the order, as the numbers that are compared. -/
def Order.ChargedExactly (order : Order) (reference : String) : Prop :=
  (koboToFixed (chargedKobo order reference)).toNumber = (money order.sourceAmount).toNumber

/-- Below a hundred billion naira an amount is rounded to a kobo that is less than a kobo away. -/
theorem abs_amountInKobo_sub_lt {units : Int} (bounded : units.natAbs < 10 ^ 15)
    : |((money units).amountInKobo : ℚ) - units / 100| < 1 := by
  have size : |(units : ℚ)| < 10 ^ 15 := by
    rw [← Int.cast_abs, Int.abs_eq_natAbs]
    exact_mod_cast bounded
  have value : (money units).value = units / 10 ^ 4 := rfl
  have amount := abs_toDouble_sub_le (x := (units : ℚ) / 10 ^ 4)
  have scaled := abs_toDouble_sub_le (x := toDouble ((units : ℚ) / 10 ^ 4) * 100)
  have rounded := abs_sub_round (toDouble (toDouble ((units : ℚ) / 10 ^ 4) * 100))
  rw [Decimal.amountInKobo, Decimal.toNumber, value]
  rw [abs_div, abs_of_pos (show (0 : ℚ) < 10 ^ 4 by norm_num)] at amount
  obtain ⟨size_lower, size_upper⟩ := abs_lt.mp size
  obtain ⟨amount_lower, amount_upper⟩ := abs_le.mp amount
  have close : |(units : ℚ)| / 10 ^ 4 / 2 ^ 53 ≤ 1 / 10 ^ 4 := by
    norm_num at size ⊢
    linarith
  have wide : |toDouble ((units : ℚ) / 10 ^ 4) * 100| / 2 ^ 53 ≤ 1 / 10 := by
    rw [div_le_iff₀ (by norm_num), abs_le]
    norm_num at size_lower size_upper amount_lower amount_upper close ⊢
    constructor <;> linarith
  obtain ⟨scaled_lower, scaled_upper⟩ := abs_le.mp scaled
  obtain ⟨rounded_lower, rounded_upper⟩ := abs_le.mp rounded
  rw [abs_lt]
  norm_num at amount_lower amount_upper close scaled_lower scaled_upper wide
  norm_num at rounded_lower rounded_upper ⊢
  constructor <;> linarith

/-- Up to a hundred billion naira whole kobo are written as what they are. -/
theorem koboToFixed_eq {amountInKobo : Int} (bounded : amountInKobo.natAbs ≤ 10 ^ 13)
    : koboToFixed amountInKobo = money (100 * amountInKobo) := by
  have size : |(amountInKobo : ℚ)| ≤ 10 ^ 13 := by
    rw [← Int.cast_abs, Int.abs_eq_natAbs]
    exact_mod_cast bounded
  have written := abs_toDouble_sub_le (x := (amountInKobo : ℚ) / 100)
  rw [abs_div, abs_of_pos (show (0 : ℚ) < 100 by norm_num)] at written
  obtain ⟨lower, upper⟩ := abs_le.mp written
  have near : |toDouble ((amountInKobo : ℚ) / 100) * 10 ^ 4 - (100 * amountInKobo : Int)| < 1 / 2 := by
    rw [abs_lt]
    push_cast
    norm_num at size lower upper ⊢
    constructor <;> linarith
  rw [koboToFixed, Rounding.round_half_up_eq near, money]

/-- Below a hundred billion naira the charge is the amount of the order exactly if this is a whole
number of kobo.
-/
theorem chargedExactly_iff {order : Order} (bounded : order.sourceAmount.natAbs < 10 ^ 15)
    (reference : String)
    : order.ChargedExactly reference ↔ 100 ∣ order.sourceAmount := by
  have near := abs_lt.mp (abs_amountInKobo_sub_lt bounded)
  have size : |(order.sourceAmount : ℚ)| < 10 ^ 15 := by
    rw [← Int.cast_abs, Int.abs_eq_natAbs]
    exact_mod_cast bounded
  obtain ⟨size_lower, size_upper⟩ := abs_lt.mp size
  have charged : chargedKobo order reference = (money order.sourceAmount).amountInKobo := rfl
  rw [Order.ChargedExactly, charged]
  generalize (money order.sourceAmount).amountInKobo = kobo at near
  have low : -(10 ^ 13) - 1 < (kobo : ℚ) := by
    norm_num at size_lower ⊢
    linarith [near.1]
  have high : (kobo : ℚ) < 10 ^ 13 + 1 := by
    norm_num at size_upper ⊢
    linarith [near.2]
  have lower : -(10 ^ 13) - 1 < kobo := by exact_mod_cast low
  have upper : kobo < 10 ^ 13 + 1 := by exact_mod_cast high
  have fixed : koboToFixed kobo = money (100 * kobo) := koboToFixed_eq (by omega)
  have same (units : Int) : (money units).toNumber = toDouble ((units : ℚ) / 10 ^ 4) := rfl
  rw [fixed, same, same]
  constructor
  · intro equal
    have small : |((100 * kobo : Int) : ℚ) / 10 ^ 4| + |(order.sourceAmount : ℚ) / 10 ^ 4|
        ≤ 3 * 10 ^ 11 := by
      have charge : |((100 * kobo : Int) : ℚ) / 10 ^ 4| ≤ 2 * 10 ^ 11 := by
        rw [abs_le]
        push_cast
        norm_num at low high ⊢
        constructor <;> linarith
      have amount : |(order.sourceAmount : ℚ) / 10 ^ 4| ≤ 10 ^ 11 := by
        rw [abs_le]
        norm_num at size_lower size_upper ⊢
        constructor <;> linarith
      linarith
    have close := abs_sub_le_of_toDouble_eq equal
    rw [le_div_iff₀ (by norm_num)] at close
    have apart : |((100 * kobo : Int) : ℚ) / 10 ^ 4 - order.sourceAmount / 10 ^ 4| < 1 / 10 ^ 4 := by
      norm_num at close small ⊢
      linarith
    obtain ⟨below, above⟩ := abs_lt.mp apart
    have above : ((100 * kobo : Int) : ℚ) < order.sourceAmount + 1 := by
      norm_num at above ⊢
      linarith
    have below : (order.sourceAmount : ℚ) < (100 * kobo : Int) + 1 := by
      norm_num at below ⊢
      linarith
    have above : 100 * kobo < order.sourceAmount + 1 := by exact_mod_cast above
    have below : order.sourceAmount < 100 * kobo + 1 := by exact_mod_cast below
    exact ⟨kobo, by omega⟩
  · intro divisible
    obtain ⟨whole, exact⟩ := divisible
    rw [exact] at near ⊢
    have above : (kobo : ℚ) < whole + 1 := by
      push_cast at near
      linarith [near.2]
    have below : (whole : ℚ) < kobo + 1 := by
      push_cast at near
      linarith [near.1]
    have above : kobo < whole + 1 := by exact_mod_cast above
    have below : whole < kobo + 1 := by exact_mod_cast below
    rw [show kobo = whole by omega]

theorem matchesOrder_charged_iff {order : Order} {reference : String}
    {response : NormalizedPaymentResponse}
    (amount : response.amount = koboToFixed (chargedKobo order reference))
    (currency : response.currency = "NGN")
    : matchesOrder order response
      ↔ toUpperCase order.sourceCurrency = "NGN" ∧ order.ChargedExactly reference := by
  have naira : toUpperCase "NGN" = "NGN" := by decide +kernel
  rw [matchesOrder, amount, currency, naira, Bool.and_eq_true, decide_eq_true_eq,
    decide_eq_true_eq, and_comm, eq_comm, Order.ChargedExactly]

/-- The payments that name Paystack are its own. -/
theorem resolve_paystackProvider (config : Config)
    : PaymentProviderRegistry.resolve config Provider.PAYSTACK_NGN_BANK_TRANSFER.providerId
      = some .PAYSTACK_NGN_BANK_TRANSFER := by
  have same : toUpperCase Provider.PAYSTACK_NGN_BANK_TRANSFER.providerId
      = Provider.PAYSTACK_NGN_BANK_TRANSFER.providerId := by
    decide +kernel
  have named : Provider.PAYSTACK_NGN_BANK_TRANSFER.providerId ≠ "" := by
    decide
  unfold PaymentProviderRegistry.resolve
  rw [if_neg named, same]
  rfl

/-- A customer pays what Paystack was told to charge for an order that waits for its payment,
and this is what Paystack reports. The daemon, which finds the payment, considers the order and
gets an answer, confirms the payment exactly if the order is in naira and the charge its amount;
below a hundred billion naira, exactly if the amount is a whole number of kobo. By the cases in
which the reconciliation can end.
-/
theorem exact_payer_confirmed_iff {config : Config} {start last : World} {rows : AList Row}
    {orderId paymentId : Id} {order : Order} {payment : Payment} {refundId : Option Id}
    {reference : String} {t : Tid} {action : ReconciliationAction}
    (fresh : start.db = Server.start rows) (unobserved : start.trace = [])
    (found : rows.lookup (.order orderId) = some order) (waits : reconcilable order.status)
    (stored : rows.lookup (.payment paymentId) = some payment) (of_order : payment.orderId = orderId)
    (paystack : payment.provider = Provider.PAYSTACK_NGN_BANK_TRANSFER.providerId)
    (reconciles : Program.Alone t (reconcileSinglePaymentOrder config orderId).run start (.ok action)
      last)
    (picked : .paymentPicked t orderId (some paymentId) refundId ∈ last.trace)
    (considered : considers order payment (refundId.bind fun id => rows.lookup (.refund id))
      (rows.lookup (.liquidityReservation orderId)))
    (answered : action ≠ .DEFERRED)
    (reports : ∀ status amountInKobo currency,
      .transactionVerified (askedAs order payment) status amountInKobo currency ∈ last.trace
        → status = "success" ∧ amountInKobo = chargedKobo order reference ∧ currency = "NGN")
    : (PaymentSettled orderId paymentId .PAYMENT_CONFIRMED .SUCCEEDED rows last.db.committed
        ↔ toUpperCase order.sourceCurrency = "NGN" ∧ order.ChargedExactly reference)
      ∧ (order.sourceAmount.natAbs < 10 ^ 15
        → (order.ChargedExactly reference ↔ 100 ∣ order.sourceAmount)) := by
  refine ⟨?_, fun bounded => chargedExactly_iff bounded reference⟩
  have rows_eq : start.db.committed = rows := by rw [fresh]; rfl
  subst rows_eq
  have listed := mem_paymentsOf.mpr ⟨stored, of_order⟩
  obtain ⟨found_first, picks, refund, events, observed, unpicked, after, agree, ended⟩ :=
    reconciled_alone fresh unobserved found waits (List.ne_nil_of_mem listed) reconciles
  obtain ⟨rfl, rfl⟩ : paymentId = found_first.1 ∧ refundId = refund := by
    rw [observed _ rfl, or_iff_right (unpicked _ _ _ _)] at picked
    simpa using picked
  obtain ⟨shown, _⟩ := mem_paymentsOf.mp picks
  obtain ⟨paymentId, row⟩ := found_first
  obtain rfl := Option.some.inj (stored.symm.trans shown)
  cases ended with
  | deferred => exact absurd rfl answered
  | skipped unconsidered => exact absurd (considered.symm.trans unconsidered) (by simp)
  | @judged _ response _ verifications _ answers _ settled =>
      have settled := settled.agree agree
      have paystack : verifyingProvider config (some (paymentId, payment))
          = Provider.PAYSTACK_NGN_BANK_TRANSFER.providerId := by
        rw [verifyingProvider, Option.map_some, paystack]
        rfl
      have resolved := answers.resolved
      rw [paystack, resolve_paystackProvider] at resolved
      obtain rfl := Option.some.inj resolved
      obtain ⟨result, rfl, status, amount, currency⟩ := answers.verified
      have asked : .transactionVerified (askedAs order payment) result.status result.amountInKobo
          result.currency ∈ events := by
        simp [answers.answered]
      obtain ⟨success, charged, naira⟩ := reports _ _ _ ((observed _ rfl).mpr (Or.inl asked))
      rw [paystackStatus_of_charged success charged naira] at status
      rw [charged] at amount
      rw [← matchesOrder_charged_iff amount (currency.trans naira)]
      by_cases exact' : matchesOrder order response = true
      · rw [judged, if_pos exact', status] at settled
        exact iff_of_true settled exact'
      · rw [judged, if_neg exact'] at settled
        refine iff_of_false (fun confirmed => ?_) exact'
        have reached := confirmed.payment
        rw [settled.payment] at reached
        cases reached

/-- A hundred naira are confirmed. -/
theorem hundred_naira_confirmed
    : ∃ action last,
        Program.Alone 0 (reconcileSinglePaymentOrder paystackConfig "order").run
          (World.start (awaitingPayment none)) (.ok action) last
        ∧ PaymentSettled "order" "payment" .PAYMENT_CONFIRMED .SUCCEEDED (awaitingPayment none)
            last.db.committed := by
  have daemon : ((reconcileSinglePaymentOrder paystackConfig "order").run.evalAlone 0
      (World.start (awaitingPayment none)) (List.replicate 20 verifiedPayment)).map
        (fun last => (last.1.toOption, last.2.trace))
      = some (some .CONFIRMED_AND_SETTLED, [
          .paymentAnswered 0 "PAY_1" .SUCCEEDED ⟨1000000, 4⟩ "NGN",
          .transactionVerified "PAY_1" "success" 10000 "NGN",
          .paymentReported "PAY_1", .paymentPicked 0 "order" (some "payment") none]) := by
    decide +kernel
  obtain ⟨⟨action, last⟩, ran, ended⟩ := Option.map_eq_some_iff.mp daemon
  obtain ⟨acted, traced⟩ := Prod.mk.inj ended
  cases action with
  | error error => cases acted
  | ok action =>
      obtain rfl : action = .CONFIRMED_AND_SETTLED := Option.some.inj acted
      have traced : last.trace = _ := traced
      have reconciles := Program.alone_of_evalAlone ran
      have charged : chargedKobo (awaitingOrder none) "PAY_1" = 10000 := by decide +kernel
      have reports (status : String) (amountInKobo : Int) (currency : String)
          (member : .transactionVerified (askedAs (awaitingOrder none) paidThroughPaystack) status
            amountInKobo currency ∈ last.trace)
          : status = "success" ∧ amountInKobo = chargedKobo (awaitingOrder none) "PAY_1"
            ∧ currency = "NGN" := by
        rw [traced] at member
        rw [charged]
        have same : askedAs (awaitingOrder none) paidThroughPaystack = "PAY_1"
            ∧ status = "success" ∧ amountInKobo = 10000 ∧ currency = "NGN" := by
          simpa using member
        exact same.2
      obtain ⟨confirmed, exactly⟩ := @exact_payer_confirmed_iff paystackConfig
        (World.start (awaitingPayment none)) last (awaitingPayment none) "order" "payment"
        (awaitingOrder none) paidThroughPaystack none "PAY_1" 0 _ rfl rfl (by decide) (by decide)
        (by decide) rfl rfl reconciles (by simp [traced]) (by decide +kernel) (by simp) reports
      have whole := (exactly (by decide)).mpr (by decide)
      exact ⟨_, last, reconciles, confirmed.mpr ⟨by decide +kernel, whole⟩⟩

/-- An order of 1000 naira and half a kobo that waits for its payment. -/
def fractionalOrder : Order := { awaitingOrder none with sourceAmount := 10000050 }

def awaitingFraction : AList Row :=
  (((∅ : AList Row).insert (.order "order") fractionalOrder).insert
    (.payment "payment") { paidThroughPaystack with amount := 10000050 }).insert
    (.liquidityReservation "order") (⟨"pool", 500000000, .RESERVED, 900000⟩ : LiquidityReservation)
    |>.insert (.liquidityPool "pool") (⟨1000000000, 500000000, 500000000⟩ : LiquidityPool)

/-- Paystack reports that 100001 kobo have been paid. -/
def chargeReported : Input := { reply := .verification "success" "PAY_1" 100001 "NGN" }

/-- Paystack charges 100001 kobo, the customer pays them, and the order fails. -/
theorem half_kobo_rejected
    : chargedKobo fractionalOrder "PAY_1" = 100001
      ∧ ∃ action last,
          Program.Alone 0 (reconcileSinglePaymentOrder paystackConfig "order").run
            (World.start awaitingFraction) (.ok action) last
          ∧ action = .MARKED_FAILED ∧ statusOfOrder last = some .FAILED
          ∧ statusOfPayment last = some .FAILED := by
  refine ⟨by decide +kernel, ?_⟩
  have daemon : ((reconcileSinglePaymentOrder paystackConfig "order").run.evalAlone 0
      (World.start awaitingFraction) (List.replicate 26 chargeReported)).map
        (fun last => (last.1.toOption, statusOfOrder last.2, statusOfPayment last.2))
      = some (some .MARKED_FAILED, some .FAILED, some .FAILED) := by
    decide +kernel
  obtain ⟨⟨action, last⟩, ran, ended⟩ := Option.map_eq_some_iff.mp daemon
  obtain ⟨acted, statuses⟩ := Prod.mk.inj ended
  obtain ⟨order, payment⟩ := Prod.mk.inj statuses
  cases action with
  | error error => cases acted
  | ok action =>
      exact ⟨action, last, Program.alone_of_evalAlone ran, Option.some.inj acted, order, payment⟩

end LuminaRail
