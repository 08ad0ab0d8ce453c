import LuminaRail.Model.Queries
import LuminaRail.Stellar.Configuration
import LuminaRail.Stellar.Encoding
import LuminaRail.Stellar.Sdk

/-! `SettlementPolicyEngine`: what is checked before a settlement transaction is signed. -/

namespace LuminaRail

open Database Service

namespace SettlementPolicyEngine

def violation (message : String) : AppError := .sorobanSubmission s!"Policy Violation: {message}"

/-- A value that the SDK could not decode makes it throw. -/
def decoded {α : Type} (value : Option α) : Service α :=
  match value with
  | some value => pure value
  | none => throw ⟨"Unsupported XDR value", 500, ""⟩

/-- The arguments of the one contract call of a transaction. -/
structure Invocation where
  targetContractAddress : String
  functionName : String
  args : List ScVal

/-- Steps 2 to 5: a transaction of this network with exactly one contract invocation. -/
def invocation (sdk : StellarSdk) (config : Config) (unsignedTransactionXdr : String)
    : Service Invocation := do
  match sdk.fromXDR unsignedTransactionXdr config.stellar.network.passphrase with
  | none => throw (violation "Malformed transaction XDR envelope.")
  | some transaction =>
      throwIf (transaction.networkPassphrase ≠ config.stellar.network.passphrase)
        (violation "Stellar network passphrase mismatch.")
      match transaction.operations with
      | [.invokeHostFunction (.invokeContract contractAddress functionName args)] =>
          pure ⟨contractAddress, functionName, args⟩
      | [.invokeHostFunction .other] =>
          throw (violation "Soroban operation is not a contract invocation.")
      | [.other] =>
          throw (violation "Transaction operation must be a Soroban invokeHostFunction.")
      | _ =>
          throw (violation "Settlement transaction must contain exactly one operation.")

/-- What the contract is called with. -/
structure CreateSettlementArgs where
  settlementId : ScVal
  source : String
  destination : String
  asset : String
  amount : ScVal

/-- Steps 6 to 8: the vault contract's `create_settlement` with its five arguments. -/
def createSettlementArgs (config : Config) (context : AuthorizationPolicyContext)
    (call : Invocation) : Service CreateSettlementArgs := do
  let expectedContractId := (truthy (some context.expectedVaultContract)).or
    (truthy (some config.stellar.settlementVaultContractId))
  throwIf (expectedContractId ≠ some call.targetContractAddress)
    (violation (s!"Contract address {call.targetContractAddress} does not match approved vault "
      ++ "contract."))
  throwIf (call.functionName ≠ "create_settlement")
    (violation s!"Contract function {call.functionName} is not authorized.")
  match call.args with
  | [settlementId, source, destination, asset, amount] =>
      let source ← decoded source.address
      let destination ← decoded destination.address
      let asset ← decoded asset.address
      pure ⟨settlementId, source, destination, asset, amount⟩
  | _ => throw (violation "create_settlement requires 5 arguments.")

/-- Step 9: the arguments that are compared with the context or the configuration. -/
def checkIdentities (config : Config) (context : AuthorizationPolicyContext)
    (args : CreateSettlementArgs) : Service Unit := do
  let settlementId ← decoded args.settlementId.number
  throwIf (settlementId ≠ parseSettlementIdToU64 context.settlementId)
    (violation "Settlement ID in transaction XDR does not match order context.")
  let expectedSource := (truthy (some context.expectedSource)).or
    (truthy config.stellar.signerPublicKey)
  throwIf (expectedSource.any fun expected => expected ≠ args.source)
    (violation "Transaction source address does not match hot treasury wallet.")
  let expectedAsset ← match truthy (some context.expectedAssetContract) with
    | some contractId => pure contractId
    | none => usdcContractId config
  throwIf (args.asset ≠ expectedAsset)
    (violation "Transaction asset contract does not match approved USDC contract.")

/-- Steps 10 and 11: the order, its refunds, its wallet and its amount. -/
def checkOrder (sdk : StellarSdk) (orderId : Id) (args : CreateSettlementArgs)
    (order : Order) : Service Unit := do
  throwIf (order.status ≠ .SETTLEMENT_PENDING)
    (violation s!"Order state must be SETTLEMENT_PENDING (actual: {order.status}).")
  let refund ← select none (activeRefund orderId)
  throwIf refund.isSome (violation "Order has an active or completed refund record.")
  throwIf (((truthy order.walletAddress).all fun wallet =>
      sdk.isValidEd25519PublicKey wallet = false) = true)
    (violation "Order does not contain a valid destination wallet address.")
  throwIf (some args.destination ≠ order.walletAddress)
    (violation "Transaction destination address does not match order recipient address.")
  match parseAmountToStroops (stroops order.destinationAmount).toString with
  | none =>
      throw ⟨s!"Cannot convert {stroops order.destinationAmount} to a BigInt", 500, ""⟩
  | some expectedStroops =>
      let amount ← decoded args.amount.number
      throwIf (amount ≠ expectedStroops)
        (violation ("Transaction amount stroops does not match authoritative order destination "
          ++ "amount."))

/-- Step 12: the order's payments and its reservation. -/
def checkFunds (payments : List (Id × Payment)) (reservation : Option LiquidityReservation)
    : Service Unit := do
  throwIf ((payments.any fun payment => payment.2.status = .SUCCEEDED) = false)
    (violation "Order does not have a confirmed succeeded payment.")
  throwIf (reservation.all fun reservation => reservation.status ≠ .CONFIRMED)
    (violation "Order does not possess a confirmed liquidity reservation.")

/-- Steps 13 and 14: the order's settlement. -/
def checkSettlement (orderId : Id) : Service Unit := do
  match ← findUnique none (.settlement orderId) with
  | none => throw (violation "Settlement record does not exist in database.")
  | some existingSettlement =>
      throwIf (existingSettlement.status = .COMPLETED)
        (violation "Settlement has already completed on-chain.")
      let time ← now
      throwIf (existingSettlement.createdAt + 24 * 60 * 60 * 1000 < time)
        (violation "Settlement transaction request is stale (> 24 hours).")

/-- The payouts that are recorded from a time on. -/
def recordedOutflow (since : Int) (rows : AList Row) : Int :=
  (rows.entries.map fun entry =>
    match entry with
    | ⟨.treasuryTransaction _, (row : TreasuryTransaction)⟩ =>
        if row.type = .SETTLEMENT_PAYOUT ∧ since ≤ row.createdAt then row.amount else 0
    | _ => 0).sum

/-- Steps 15 and 16: the limits of a single settlement, of an hour and of a day. -/
def checkLimits (config : Config) (destinationAmount : Int) : Service Unit := do
  let limits := config.treasury
  let payoutUsdc := (stroops destinationAmount).value
  throwIf (payoutUsdc < limits.minSettlementUsdc.value)
    (violation ("Settlement amount is below configured minimum "
      ++ s!"({limits.minSettlementUsdc} USDC)."))
  throwIf (limits.maxSingleSettlementUsdc.value < payoutUsdc)
    (violation ("Settlement amount exceeds maximum single transaction limit "
      ++ s!"({limits.maxSingleSettlementUsdc} USDC)."))
  let time ← now
  let hourlyOutflow ← select none (recordedOutflow (time - 60 * 60 * 1000))
  let dailyOutflow ← select none (recordedOutflow (time - 24 * 60 * 60 * 1000))
  throwIf (limits.maxHourlyOutflowUsdc.value < (stroops hourlyOutflow).value + payoutUsdc)
    (violation ("Transaction would exceed 1-hour cumulative outflow limit "
      ++ s!"({limits.maxHourlyOutflowUsdc} USDC)."))
  throwIf (limits.maxDailyOutflowUsdc.value < (stroops dailyOutflow).value + payoutUsdc)
    (violation ("Transaction would exceed 24-hour cumulative outflow limit "
      ++ s!"({limits.maxDailyOutflowUsdc} USDC)."))

/-- Steps 10 to 16. -/
def checkDatabase (sdk : StellarSdk) (config : Config) (orderId : Id)
    (args : CreateSettlementArgs) : Service Unit := do
  match ← findUnique none (.order orderId) with
  | none => throw (violation s!"Order {orderId} does not exist.")
  | some order =>
      let payments ← select none (paymentsOf orderId)
      let reservation ← findUnique none (.liquidityReservation orderId)
      checkOrder sdk orderId args order
      checkFunds payments reservation
      checkSettlement orderId
      checkLimits config order.destinationAmount

def validateAndApprove (sdk : StellarSdk) (config : Config) (request : SignTransactionRequest)
    : Service Unit := do
  throwIf config.treasury.emergencyGlobalPause
    (violation "Emergency global settlement pause is active.")
  let call ← invocation sdk config request.unsignedTransactionXdr
  let args ← createSettlementArgs config request.context call
  checkIdentities config request.context args
  checkDatabase sdk config request.context.orderId args

end SettlementPolicyEngine

end LuminaRail
