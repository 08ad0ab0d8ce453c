import LuminaRail.Database.Isolation

/-! The tables of the Prisma schema that the payment, refund and settlement code works on.
Decimal columns are integers in units of their last decimal place: 10^-7 for pools, reservations,
treasury transactions and `destinationAmount`, 10^-4 for all others. A statement that overflows
its column is one that throws. A row does not repeat its primary key. A settlement and a
reservation are named by their order, and the record of a provider by its payment: `id` and
`orderId` or `paymentId` are unique columns of those tables and neither is ever updated. A
webhook event is named by its unique pair of provider and event. The other unique columns have
index rows.
-/

namespace LuminaRail

/-- UUIDs and other identifiers. -/
abbrev Id := String

-----------------------------------------------------------------------------------------
-- Enumerations
-----------------------------------------------------------------------------------------

inductive OrderStatus
  | CREATED
  | AWAITING_PAYMENT
  | PAYMENT_DETECTED
  | PAYMENT_CONFIRMED
  | SETTLEMENT_PENDING
  | SETTLEMENT_COMPLETED
  | COMPLETED
  | FAILED
  | CANCELLED
  | REFUND_PENDING
  | REFUNDED
  | REFUND_FAILED
  | EXPIRED
deriving DecidableEq

inductive RefundStatus
  | PENDING
  | PROCESSING
  | SUCCEEDED
  | FAILED
  | CANCELLED
deriving DecidableEq

inductive LiquidityReservationStatus
  | RESERVED
  | CONFIRMED
  | CONSUMED
  | EXPIRED_RELEASED
  | CANCELLED_RELEASED
deriving DecidableEq

inductive TreasuryTransactionType
  | REPLENISHMENT
  | SETTLEMENT_PAYOUT
  | MANUAL_ADJUSTMENT
  | FEE_COLLECTION
deriving DecidableEq

inductive PaymentStatus
  | CREATED
  | PENDING
  | PROCESSING
  | SUCCEEDED
  | FAILED
  | CANCELLED
  | EXPIRED
  | REFUNDED
deriving DecidableEq

inductive QuoteStatus
  | ACTIVE
  | EXPIRED
  | USED
  | CANCELLED
deriving DecidableEq

inductive SettlementStatus
  | PENDING
  | SUBMITTING
  | SUBMITTED
  | CONFIRMING
  | COMPLETED
  | FAILED
  | REQUIRES_RECONCILIATION
deriving DecidableEq

/-- The name that Prisma and the error messages print for a status. -/
def OrderStatus.toString : OrderStatus → String
  | .CREATED => "CREATED"
  | .AWAITING_PAYMENT => "AWAITING_PAYMENT"
  | .PAYMENT_DETECTED => "PAYMENT_DETECTED"
  | .PAYMENT_CONFIRMED => "PAYMENT_CONFIRMED"
  | .SETTLEMENT_PENDING => "SETTLEMENT_PENDING"
  | .SETTLEMENT_COMPLETED => "SETTLEMENT_COMPLETED"
  | .COMPLETED => "COMPLETED"
  | .FAILED => "FAILED"
  | .CANCELLED => "CANCELLED"
  | .REFUND_PENDING => "REFUND_PENDING"
  | .REFUNDED => "REFUNDED"
  | .REFUND_FAILED => "REFUND_FAILED"
  | .EXPIRED => "EXPIRED"

def RefundStatus.toString : RefundStatus → String
  | .PENDING => "PENDING"
  | .PROCESSING => "PROCESSING"
  | .SUCCEEDED => "SUCCEEDED"
  | .FAILED => "FAILED"
  | .CANCELLED => "CANCELLED"

def PaymentStatus.toString : PaymentStatus → String
  | .CREATED => "CREATED"
  | .PENDING => "PENDING"
  | .PROCESSING => "PROCESSING"
  | .SUCCEEDED => "SUCCEEDED"
  | .FAILED => "FAILED"
  | .CANCELLED => "CANCELLED"
  | .EXPIRED => "EXPIRED"
  | .REFUNDED => "REFUNDED"

def SettlementStatus.toString : SettlementStatus → String
  | .PENDING => "PENDING"
  | .SUBMITTING => "SUBMITTING"
  | .SUBMITTED => "SUBMITTED"
  | .CONFIRMING => "CONFIRMING"
  | .COMPLETED => "COMPLETED"
  | .FAILED => "FAILED"
  | .REQUIRES_RECONCILIATION => "REQUIRES_RECONCILIATION"

instance : ToString OrderStatus := ⟨OrderStatus.toString⟩
instance : ToString RefundStatus := ⟨RefundStatus.toString⟩
instance : ToString PaymentStatus := ⟨PaymentStatus.toString⟩
instance : ToString SettlementStatus := ⟨SettlementStatus.toString⟩

-----------------------------------------------------------------------------------------
-- Rows
-----------------------------------------------------------------------------------------

structure Order where
  userId : Id
  quoteId : Id
  idempotencyKey : Option String := none
  status : OrderStatus := .CREATED
  sourceCurrency : String
  destinationAsset : String
  sourceAmount : Int
  destinationAmount : Int
  walletAddress : Option String := none
  createdAt : Nat := 0
deriving DecidableEq

/-- The part of a quote that an order is created from. -/
structure Quote where
  status : QuoteStatus := .ACTIVE
  sourceCurrency : String
  destinationAsset : String
  sourceAmount : Int
  destinationAmount : Int
  expiresAt : Nat
deriving DecidableEq

structure Payment where
  orderId : Id
  userId : Id
  provider : String := "MOCK"
  providerPaymentId : Option String := none
  amount : Int
  currency : String
  status : PaymentStatus := .CREATED
  reference : String
  idempotencyKey : Option String := none
  createdAt : Nat := 0
deriving DecidableEq

structure ProviderTransaction where
  provider : String := "MOCK"
  providerTransactionId : String
  status : PaymentStatus := .CREATED
deriving DecidableEq

structure WebhookEvent where
  eventType : String
  signatureVerified : Bool := false
  processed : Bool := false
  processedAt : Option Nat := none
deriving DecidableEq

structure Settlement where
  settlementId : String
  userId : Id
  status : SettlementStatus := .PENDING
  asset : String
  amount : Int
  source : Option String := none
  destination : Option String := none
  contractAddress : Option String := none
  stellarTransactionHash : Option String := none
  stellarLedger : Option Nat := none
  attemptCount : Nat := 0
  lastError : Option String := none
  submittedAt : Option Nat := none
  confirmedAt : Option Nat := none
  createdAt : Nat := 0
  updatedAt : Nat := 0
deriving DecidableEq

/-- The flags that the refund code stores in and reads back from the `metadata` column. -/
structure RefundMetadata where
  ambiguousResponse : Bool := false
  ambiguousNetworkFailure : Bool := false
deriving DecidableEq

structure Refund where
  orderId : Id
  paymentId : Option Id := none
  userId : Id
  amount : Int
  currency : String := "NGN"
  reason : String
  status : RefundStatus := .PENDING
  idempotencyKey : String
  paystackRefundId : Option String := none
  providerReference : Option String := none
  failureReason : Option String := none
  metadata : Option RefundMetadata := none
  initiatedBy : Option Id := none
  initiatedAt : Option Nat := none
  completedAt : Option Nat := none
  failedAt : Option Nat := none
deriving DecidableEq

structure LiquidityPool where
  totalBalance : Int
  reservedBalance : Int
  availableBalance : Int
deriving DecidableEq

structure LiquidityReservation where
  poolId : Id
  amount : Int
  status : LiquidityReservationStatus := .RESERVED
  expiresAt : Nat
deriving DecidableEq

structure TreasuryTransaction where
  poolId : Id
  type : TreasuryTransactionType
  amount : Int
  stellarTxHash : Option String := none
  externalRef : Option String := none
  createdAt : Nat := 0
deriving DecidableEq

/-- The rows of the database, by table. -/
inductive Key
  | quote (id : Id)
  | order (id : Id)
  | orderIdempotencyKey (key : String)
  | payment (id : Id)
  | paymentReference (reference : String)
  | paymentIdempotencyKey (key : String)
  | providerTransaction (paymentId : Id)
  | providerTransactionId (provider providerTransactionId : String)
  | webhookEvent (provider eventId : String)
  | settlement (orderId : Id)
  | settlementNumber (settlementId : String)
  | refund (id : Id)
  | refundIdempotencyKey (key : String)
  | liquidityPool (id : Id)
  | liquidityReservation (orderId : Id)
  | treasuryTransaction (id : Id)
deriving DecidableEq

/-- What is stored under a key; an index row stores the primary key of its row. -/
@[reducible]
def Row : Key → Type
  | .quote _ => Quote
  | .order _ => Order
  | .orderIdempotencyKey _ => Id
  | .payment _ => Payment
  | .paymentReference _ => Id
  | .paymentIdempotencyKey _ => Id
  | .providerTransaction _ => ProviderTransaction
  | .providerTransactionId _ _ => Id
  | .webhookEvent _ _ => WebhookEvent
  | .settlement _ => Settlement
  | .settlementNumber _ => Id
  | .refund _ => Refund
  | .refundIdempotencyKey _ => Id
  | .liquidityPool _ => LiquidityPool
  | .liquidityReservation _ => LiquidityReservation
  | .treasuryTransaction _ => TreasuryTransaction

end LuminaRail
