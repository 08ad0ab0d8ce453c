import LuminaRail.Model.Config
import LuminaRail.Model.Queries
import LuminaRail.Services.Liquidity

/-! `OrderService`: creating an order with its reservation, and attaching a wallet to it. -/

namespace LuminaRail

open Database Service

structure CreateOrderDTO where
  quoteId : Id
  walletAddress : Option String := none
  idempotencyKey : Option String := none

namespace QuoteService

/-- A quote that has run out is stored as expired when it is read. -/
def getQuoteById (quoteId : Id) : Service Quote := do
  match ← findUnique none (.quote quoteId) with
  | none => throw (.notFound "Quote not found.")
  | some quote =>
      let time ← now
      if quote.status = .ACTIVE ∧ quote.expiresAt < time then
        update none (.quote quoteId) fun row => { row with status := .EXPIRED }
      else
        pure quote

def validateAndUseQuote (quoteId : Id) : Service Quote := do
  let quote ← getQuoteById quoteId
  let time ← now
  throwIf (quote.status = .EXPIRED ∨ quote.expiresAt < time) (.badRequest "Quote has expired.")
  throwIf (quote.status = .USED) (.badRequest "Quote has already been used.")
  throwIf (quote.status = .CANCELLED) (.badRequest "Quote has been cancelled.")
  update none (.quote quoteId) fun row => { row with status := .USED }

end QuoteService

namespace LiquidityService

/-- Which pool has the asset and the network is up to the environment; where there is none, one
with 10,000 USDC is created.
-/
def getPool : Service (Id × LiquidityPool) := do
  let poolId ← randomText
  match ← findUnique none (.liquidityPool poolId) with
  | some existing => pure (poolId, existing)
  | none =>
      let created ← create none (.liquidityPool poolId) ⟨100000000000, 0, 100000000000⟩
      pure (poolId, created)

end LiquidityService

namespace OrderService

/-- The order of a user under an idempotency key. -/
def orderByKey (userId : Id) (key : String) (rows : AList Row) : Option (Id × Order) :=
  (rows.lookup (.orderIdempotencyKey key)).bind fun id =>
    (rows.lookup (.order id)).bind fun (order : Order) =>
      if order.userId = userId then some (id, order) else none

/-- The rows that index the unique column of an order. -/
def orderIndex (id : Id) (order : Order) : List (Sigma Row) :=
  match order.idempotencyKey with
  | some key => [⟨.orderIdempotencyKey key, id⟩]
  | none => []

/-- Step 4 of `createOrder`. -/
def createOrderInTx (tx : TxId) (userId : Id) (dto : CreateOrderDTO) (quote : Quote)
    (poolId : Id) : Service (Id × Order × Bool) := do
  let _ ← update (some tx) (.quote dto.quoteId) fun row => { row with status := .USED }
  let orderId ← randomText
  let time ← now
  let order : Order :=
    { userId := userId
      quoteId := dto.quoteId
      idempotencyKey := truthy dto.idempotencyKey
      status := .CREATED
      sourceCurrency := quote.sourceCurrency
      destinationAsset := quote.destinationAsset
      sourceAmount := quote.sourceAmount
      destinationAmount := quote.destinationAmount
      walletAddress := truthy dto.walletAddress
      createdAt := time }
  let newOrder ← create (some tx) (.order orderId) order (orderIndex orderId order)
  let _ ← LiquidityService.reserveForOrderInTx tx
    { poolId := poolId, orderId := orderId, amount := quote.destinationAmount }
  pure (orderId, newOrder, false)

/-- Steps 2 to 4 of `createOrder`. -/
def placeOrder (userId : Id) (dto : CreateOrderDTO) : Service (Id × Order × Bool) := do
  let quote ← QuoteService.getQuoteById dto.quoteId
  throwIf (quote.status = .USED) (.badRequest "Quote has already been used.")
  throwIf (quote.status = .CANCELLED) (.badRequest "Quote has been cancelled.")
  let time ← now
  throwIf (quote.status ≠ .ACTIVE ∨ quote.expiresAt < time) (.badRequest "Quote has expired.")
  let (poolId, _) ← LiquidityService.getPool
  let available ← findUniqueOrThrow none (.liquidityPool poolId)
  throwIf (available.availableBalance < quote.destinationAmount)
    (.badRequest "Insufficient liquidity in pool to satisfy request")
  transaction fun tx => createOrderInTx tx userId dto quote poolId

def createOrder (userId : Id) (dto : CreateOrderDTO) : Service (Id × Order × Bool) := do
  match truthy dto.idempotencyKey with
  | none => placeOrder userId dto
  | some key =>
      match ← select none (orderByKey userId key) with
      | some existing => pure (existing.1, existing.2, true)
      | none => placeOrder userId dto

/-- The status that an order gets with its wallet. -/
def walletStatus (order : Order) (payments : List (Id × Payment)) : OrderStatus :=
  if order.status = .COMPLETED ∨ order.status = .SETTLEMENT_COMPLETED then
    order.status
  else if (payments.any fun payment => payment.2.status = .SUCCEEDED)
      ∨ order.status = .PAYMENT_CONFIRMED then
    .SETTLEMENT_PENDING
  else
    order.status

/-- The status that is read and the one that is chosen are observed. -/
def updateOrderWallet (orderId userId : Id) (walletAddress : String) (isAdmin : Bool := false)
    : Service Order := do
  match ← findUnique none (.order orderId) with
  | none => throw (.notFound "Order not found.")
  | some order =>
      let payments ← select none (paymentsOf orderId)
      throwIf (isAdmin = false ∧ order.userId ≠ userId)
        (.forbidden "Unauthorized access to this order.")
      emit fun t => .orderChecked t orderId order.status (walletStatus order payments)
      update none (.order orderId) fun row =>
        { row with
          walletAddress := some walletAddress
          status := walletStatus order payments }

end OrderService

end LuminaRail
