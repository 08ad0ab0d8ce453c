import LuminaRail.Model.LearntFacts
import LuminaRail.Services.Footprints

/-! The terms of a record: what no service changes once the record has been made. The records of a
purchase refer to one another, and each takes its terms from the one that it refers to: an order
from its quote, which has been offered, payments and settlements from their order, and refunds from
their payment.
-/

namespace LuminaRail

open Concurrency Database

/-- A quote but for its status. -/
def Quote.terms (quote : Quote) : Quote := { quote with status := .ACTIVE }

/-- An order but for its status and its wallet. -/
def Order.terms (order : Order) : Order :=
  { order with status := .CREATED, walletAddress := none }

/-- A payment but for its status and the provider's identifier. -/
def Payment.terms (payment : Payment) : Payment :=
  { payment with status := .CREATED, providerPaymentId := none }

/-- The record of a provider but for its status. -/
def ProviderTransaction.terms (record : ProviderTransaction) : ProviderTransaction :=
  { record with status := .CREATED }

/-- A settlement but for its progress. -/
def Settlement.terms (settlement : Settlement) : Settlement :=
  { settlement with
    status := .PENDING
    stellarTransactionHash := none
    stellarLedger := none
    attemptCount := 0
    lastError := none
    submittedAt := none
    confirmedAt := none
    updatedAt := 0 }

/-- The row has the terms of an older one. An index row is never changed at all. -/
def OfSameTerms : (key : Key) → (old new : Row key) → Prop
  | .quote _, old, new => Quote.terms new = Quote.terms old
  | .order _, old, new => Order.terms new = Order.terms old
  | .payment _, old, new => Payment.terms new = Payment.terms old
  | .providerTransaction _, old, new =>
      ProviderTransaction.terms new = ProviderTransaction.terms old
  | .settlement _, old, new => Settlement.terms new = Settlement.terms old
  | .refund _, old, new => Refund.SameRequest old new
  | .orderIdempotencyKey _, old, new | .paymentReference _, old, new
  | .paymentIdempotencyKey _, old, new | .providerTransactionId _ _, old, new
  | .settlementNumber _, old, new | .refundIdempotencyKey _, old, new => new = old
  | _, _, _ => True

theorem OfSameTerms.refl (key : Key) (row : Row key) : OfSameTerms key row row := by
  cases key with
  | refund id => exact ⟨rfl, rfl, rfl, rfl, rfl, rfl⟩
  | _ => first | rfl | trivial

theorem OfSameTerms.trans {key : Key} {first second third : Row key}
    (early : OfSameTerms key first second) (late : OfSameTerms key second third)
    : OfSameTerms key first third := by
  cases key with
  | refund id => exact Refund.SameRequest.trans early late
  | webhookEvent | liquidityPool | liquidityReservation | treasuryTransaction => trivial
  | _ => exact Eq.trans late early

/-- An order of what the quote offers. -/
def Order.Of (quote : Quote) (order : Order) : Prop :=
  order.sourceCurrency = quote.sourceCurrency ∧ order.destinationAsset = quote.destinationAsset
    ∧ order.sourceAmount = quote.sourceAmount ∧ order.destinationAmount = quote.destinationAmount

/-- A payment by the customer of an order for what the order costs. -/
def Payment.For (order : Order) (payment : Payment) : Prop :=
  payment.userId = order.userId ∧ payment.amount = order.sourceAmount

/-- A settlement of an order with its customer for what has been ordered, as the column stores
it.
-/
def Settlement.For (order : Order) (settlement : Settlement) : Prop :=
  settlement.userId = order.userId ∧ settlement.asset = order.destinationAsset
    ∧ settlement.amount = (stroops order.destinationAmount).stored 4

/-- What a new row refers to is known, and the row has taken its terms from there. -/
def Linked (offered : Quote → Prop) (known : ∀ key, Row key → Prop) : (key : Key) → Row key → Prop
  | .quote _, (quote : Quote) => offered quote.terms
  | .order _, (order : Order) =>
      ∃ quote : Quote, known (.quote order.quoteId) quote ∧ order.Of quote
  | .payment _, (payment : Payment) =>
      ∃ order : Order, known (.order payment.orderId) order ∧ payment.For order
  | .settlement orderId, (settlement : Settlement) =>
      ∃ order : Order, known (.order orderId) order ∧ settlement.For order
  | .refund _, (refund : Refund) =>
      ∃ order : Order, known (.order refund.orderId) order ∧ refund.userId = order.userId
        ∧ ∃ (paymentId : Id) (payment : Payment), refund.paymentId = some paymentId
          ∧ known (.payment paymentId) payment ∧ payment.orderId = refund.orderId
  | _, _ => True

/-- What has been linked stays so under the same terms, also where more is known. -/
theorem Linked.ofSameTerms {offered : Quote → Prop} {known known' : ∀ key, Row key → Prop}
    {key : Key} {row new : Row key} (linked : Linked offered known key row)
    (same : OfSameTerms key row new)
    (learnt : ∀ key row, known key row → ∃ later, known' key later ∧ OfSameTerms key row later)
    : Linked offered known' key new := by
  cases key with
  | quote id =>
      have terms : Quote.terms new = Quote.terms row := same
      exact (congrArg offered terms).mpr linked
  | order id =>
      obtain ⟨quote, found, currency, asset, source, destination⟩ := linked
      obtain ⟨later, found, kept⟩ := learnt _ _ found
      have terms : Order.terms new = Order.terms row := same
      have terms' : Quote.terms later = Quote.terms quote := kept
      simp only [Order.terms, Order.mk.injEq] at terms
      simp only [Quote.terms, Quote.mk.injEq] at terms'
      refine ⟨later, ?_, ?_⟩
      · rw [terms.2.1]
        exact found
      · exact ⟨by grind, by grind, by grind, by grind⟩
  | payment id =>
      obtain ⟨order, found, user, amount⟩ := linked
      obtain ⟨later, found, kept⟩ := learnt _ _ found
      have terms : Payment.terms new = Payment.terms row := same
      have terms' : Order.terms later = Order.terms order := kept
      simp only [Payment.terms, Payment.mk.injEq] at terms
      simp only [Order.terms, Order.mk.injEq] at terms'
      refine ⟨later, ?_, by grind, by grind⟩
      rw [terms.1]
      exact found
  | settlement orderId =>
      obtain ⟨order, found, user, asset, amount⟩ := linked
      obtain ⟨later, found, kept⟩ := learnt _ _ found
      have terms : Settlement.terms new = Settlement.terms row := same
      have terms' : Order.terms later = Order.terms order := kept
      simp only [Settlement.terms, Settlement.mk.injEq] at terms
      simp only [Order.terms, Order.mk.injEq] at terms'
      exact ⟨later, found, by grind, by grind, by grind⟩
  | refund id =>
      obtain ⟨order, found, user, paymentId, payment, chosen, paid, of_order⟩ := linked
      obtain ⟨later, found, kept⟩ := learnt _ _ found
      obtain ⟨later', paid, kept'⟩ := learnt _ _ paid
      have request : Refund.SameRequest row new := same
      have terms : Order.terms later = Order.terms order := kept
      have terms' : Payment.terms later' = Payment.terms payment := kept'
      simp only [Order.terms, Order.mk.injEq] at terms
      simp only [Payment.terms, Payment.mk.injEq] at terms'
      refine ⟨later, ?_, ?_, paymentId, later', ?_, paid, ?_⟩
      · rw [request.orderId]
        exact found
      · rw [request.userId, user, terms.1]
      · rw [request.paymentId, chosen]
      · rw [terms'.1, of_order, request.orderId]
  | _ => trivial

end LuminaRail
