import LuminaRail.Model.World

/-! The state machines of orders, payments, refunds and settlements: which status may follow which. -/

namespace LuminaRail

open Service

namespace OrderStateMachine

def allowedTransitions : OrderStatus → List OrderStatus
  | .CREATED => [.CREATED, .AWAITING_PAYMENT, .CANCELLED, .EXPIRED]
  | .AWAITING_PAYMENT =>
      [.AWAITING_PAYMENT, .PAYMENT_DETECTED, .PAYMENT_CONFIRMED, .SETTLEMENT_PENDING, .FAILED,
        .CANCELLED, .EXPIRED, .REFUND_PENDING, .REFUNDED]
  | .PAYMENT_DETECTED =>
      [.PAYMENT_DETECTED, .PAYMENT_CONFIRMED, .SETTLEMENT_PENDING, .FAILED, .CANCELLED,
        .REFUND_PENDING, .REFUNDED]
  | .PAYMENT_CONFIRMED =>
      [.PAYMENT_CONFIRMED, .SETTLEMENT_PENDING, .FAILED, .CANCELLED, .REFUND_PENDING, .REFUNDED]
  | .SETTLEMENT_PENDING =>
      [.SETTLEMENT_PENDING, .SETTLEMENT_COMPLETED, .COMPLETED, .FAILED, .CANCELLED,
        .REFUND_PENDING, .REFUNDED]
  | .SETTLEMENT_COMPLETED => [.SETTLEMENT_COMPLETED, .COMPLETED]
  | .COMPLETED => [.COMPLETED]
  | .FAILED => [.FAILED, .REFUND_PENDING, .REFUNDED]
  | .CANCELLED => [.CANCELLED, .REFUND_PENDING, .REFUNDED]
  | .REFUND_PENDING => [.REFUND_PENDING, .REFUNDED, .REFUND_FAILED]
  | .REFUNDED => [.REFUNDED]
  | .REFUND_FAILED => [.REFUND_FAILED, .REFUND_PENDING, .REFUNDED]
  | .EXPIRED => [.EXPIRED, .REFUND_PENDING, .REFUNDED]

def canTransition (current target : OrderStatus) : Bool :=
  if current = target then
    true
  else if current = .REFUNDED then
    target = .REFUNDED
  else if (current = .COMPLETED ∨ current = .SETTLEMENT_COMPLETED)
      ∧ (target = .SETTLEMENT_PENDING ∨ target = .REFUND_PENDING) then
    false
  else
    (allowedTransitions current).contains target

def validateTransition (current target : OrderStatus) : Service Unit :=
  throwIf (canTransition current target = false)
    (.badRequest (s!"Invalid Order status transition from '{current}' to '{target}'. " ++
      "Order cannot enter settlement or active state after refund."))

end OrderStateMachine

namespace PaymentStateMachine

def allowedTransitions : PaymentStatus → List PaymentStatus
  | .CREATED => [.PENDING, .PROCESSING, .SUCCEEDED, .FAILED, .CANCELLED, .EXPIRED]
  | .PENDING => [.PROCESSING, .SUCCEEDED, .FAILED, .CANCELLED, .EXPIRED]
  | .PROCESSING => [.SUCCEEDED, .FAILED, .CANCELLED, .EXPIRED]
  | .SUCCEEDED => [.REFUNDED]
  | .FAILED => []
  | .CANCELLED => []
  | .EXPIRED => []
  | .REFUNDED => []

def canTransition (source target : PaymentStatus) : Bool :=
  source = target || (allowedTransitions source).contains target

def validateTransition (source target : PaymentStatus) : Service Unit :=
  throwIf (canTransition source target = false)
    (.invalidPaymentState s!"Invalid payment state transition from '{source}' to '{target}'.")

end PaymentStateMachine

namespace RefundStateMachine

def allowedTransitions : RefundStatus → List RefundStatus
  | .PENDING => [.PENDING, .PROCESSING, .CANCELLED]
  | .PROCESSING => [.PROCESSING, .SUCCEEDED, .FAILED]
  | .SUCCEEDED => [.SUCCEEDED]
  | .FAILED => [.FAILED]
  | .CANCELLED => [.CANCELLED]

def canTransition (current target : RefundStatus) : Bool :=
  current = target || (allowedTransitions current).contains target

def validateTransition (current target : RefundStatus) : Service Unit :=
  throwIf (canTransition current target = false)
    (.invalidRefundState s!"Invalid refund status transition from '{current}' to '{target}'.")

def isTerminal (status : RefundStatus) : Bool :=
  status = .SUCCEEDED || status = .FAILED || status = .CANCELLED

end RefundStateMachine

namespace SettlementStateMachine

def allowedTransitions : SettlementStatus → List SettlementStatus
  | .PENDING => [.SUBMITTING, .FAILED]
  | .SUBMITTING => [.SUBMITTED, .PENDING, .FAILED, .REQUIRES_RECONCILIATION]
  | .SUBMITTED => [.CONFIRMING, .COMPLETED, .FAILED, .REQUIRES_RECONCILIATION]
  | .CONFIRMING => [.COMPLETED, .FAILED, .REQUIRES_RECONCILIATION]
  | .COMPLETED => []
  | .FAILED => []
  | .REQUIRES_RECONCILIATION => [.CONFIRMING, .COMPLETED, .FAILED, .PENDING]

def canTransition (source target : SettlementStatus) : Bool :=
  source = target || (allowedTransitions source).contains target

def validateTransition (source target : SettlementStatus) : Service Unit :=
  throwIf (canTransition source target = false)
    (.invalidSettlementState
      s!"Invalid settlement state transition from '{source}' to '{target}'.")

end SettlementStateMachine

end LuminaRail
