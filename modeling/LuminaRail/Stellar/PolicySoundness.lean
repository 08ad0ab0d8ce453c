import LuminaRail.Stellar.Amounts

/-! What an approval of the policy engine guarantees about the transaction and the database, and on
which parts of the request's context that rests.
-/

namespace LuminaRail

open Concurrency Database Service

-----------------------------------------------------------------------------------------
-- What an approval is for
-----------------------------------------------------------------------------------------

/-- The operations are one call of `create_settlement` on a contract, with these arguments. -/
def CallsVault (contractAddress : String) (operations : List StellarOperation)
    (args : SettlementPolicyEngine.CreateSettlementArgs) : Prop :=
  ∃ source destination asset : ScVal,
    operations = [.invokeHostFunction (.invokeContract contractAddress "create_settlement"
      [args.settlementId, source, destination, asset, args.amount])]
    ∧ source.address = some args.source ∧ destination.address = some args.destination
    ∧ asset.address = some args.asset

/-- The order may be paid out. -/
structure Order.Payable (order : Order) (orderId : Id) (rows : AList Row) : Prop where
  pending : order.status = .SETTLEMENT_PENDING
  paid : ∃ id payment, rows.lookup (.payment id) = some payment ∧ payment.orderId = orderId
    ∧ payment.status = .SUCCEEDED
  reserved : ∃ reservation, rows.lookup (.liquidityReservation orderId) = some reservation
    ∧ reservation.status = .CONFIRMED
  unrefunded : ∀ id refund, rows.lookup (.refund id) = some refund → refund.orderId = orderId
    → refund.status.isActive = false

/-- The arguments of the call are those of the order and its settlement, in the configured asset and
from the configured signer.
-/
structure PaysOut (config : Config) (rows : AList Row) (orderId : Id)
    (args : SettlementPolicyEngine.CreateSettlementArgs) (order : Order) (settlement : Settlement)
    : Prop where
  stored : rows.lookup (.order orderId) = some order
  recorded : rows.lookup (.settlement orderId) = some settlement
  payable : order.Payable orderId rows
  source : truthy config.stellar.signerPublicKey = some args.source
  asset : truthy config.stellar.usdcContractId = some args.asset
  destination : order.walletAddress = some args.destination
  amount : args.amount.number = some order.destinationAmount
  settlementId : args.settlementId.number
    = some (parseSettlementIdToU64 settlement.settlementId : Int)
  uncompleted : settlement.status ≠ .COMPLETED
  unfailed : settlement.status ≠ .FAILED

/-- The transaction of a request pays out the order of its context. -/
def SignTransactionRequest.Sound (sdk : StellarSdk) (config : Config)
    (request : SignTransactionRequest) (rows : AList Row) : Prop :=
  ∃ transaction args order settlement,
    sdk.fromXDR request.unsignedTransactionXdr config.stellar.network.passphrase = some transaction
    ∧ CallsVault config.stellar.settlementVaultContractId transaction.operations args
    ∧ PaysOut config rows request.context.orderId args order settlement

/-- The context agrees with the configuration and with the settlement of the order, which has not
failed.
-/
structure AuthorizationPolicyContext.Anchored (context : AuthorizationPolicyContext)
    (config : Config) (settlement : Settlement) : Prop where
  vault : (truthy (some context.expectedVaultContract)).getD
    config.stellar.settlementVaultContractId = config.stellar.settlementVaultContractId
  source : ∃ signer, truthy config.stellar.signerPublicKey = some signer
    ∧ (truthy (some context.expectedSource)).getD signer = signer
  asset : ∃ contractId, truthy config.stellar.usdcContractId = some contractId
    ∧ (truthy (some context.expectedAssetContract)).getD contractId = contractId
  settlementId : parseSettlementIdToU64 context.settlementId
    = parseSettlementIdToU64 settlement.settlementId
  unfailed : settlement.status ≠ .FAILED

-----------------------------------------------------------------------------------------
-- What the engine checks
-----------------------------------------------------------------------------------------

/-- What the engine has compared with the context, the configuration and the database. -/
structure PolicyChecks (config : Config) (context : AuthorizationPolicyContext) (rows : AList Row)
    (contractAddress : String) (args : SettlementPolicyEngine.CreateSettlementArgs) (order : Order)
    (settlement : Settlement) : Prop where
  vault : (truthy (some context.expectedVaultContract)).or
    (truthy (some config.stellar.settlementVaultContractId)) = some contractAddress
  settlementId : args.settlementId.number = some (parseSettlementIdToU64 context.settlementId : Int)
  source : ∀ expected, (truthy (some context.expectedSource)).or
    (truthy config.stellar.signerPublicKey) = some expected → args.source = expected
  asset : (truthy (some context.expectedAssetContract)).or (truthy config.stellar.usdcContractId)
    = some args.asset
  stored : rows.lookup (.order context.orderId) = some order
  recorded : rows.lookup (.settlement context.orderId) = some settlement
  payable : order.Payable context.orderId rows
  destination : order.walletAddress = some args.destination
  amount : ∃ amount, args.amount.number = some amount
    ∧ parseAmountToStroops (stroops order.destinationAmount).toString = some amount
  uncompleted : settlement.status ≠ .COMPLETED

/-- The engine has approved the request. -/
def PolicyApproved (sdk : StellarSdk) (config : Config) (request : SignTransactionRequest)
    (rows : AList Row) : Prop :=
  ∃ transaction contractAddress args order settlement,
    sdk.fromXDR request.unsignedTransactionXdr config.stellar.network.passphrase = some transaction
    ∧ CallsVault contractAddress transaction.operations args
    ∧ PolicyChecks config request.context rows contractAddress args order settlement

section

open SettlementPolicyEngine Exclusive

variable {t : Tid} {s : Snapshot} {sdk : StellarSdk} {config : Config}

theorem yields_decoded {α : Type} {value : Option α}
    : (exclusiveAlone t).Yields s (decoded value) fun result last =>
        value = some result ∧ last = s := by
  unfold decoded
  split
  · exact Yields.pure ⟨rfl, rfl⟩
  · exact Yields.throw

theorem yields_usdcContractId
    : (exclusiveAlone t).Yields s (usdcContractId config) fun contractId last =>
        truthy config.stellar.usdcContractId = some contractId ∧ last = s := by
  unfold usdcContractId
  split
  · exact Yields.pure ⟨‹_›, rfl⟩
  · exact Yields.throw

theorem yields_invocation {xdr : String}
    : (exclusiveAlone t).Yields s (invocation sdk config xdr) fun call last =>
        (∃ transaction, sdk.fromXDR xdr config.stellar.network.passphrase = some transaction
          ∧ transaction.operations = [.invokeHostFunction (.invokeContract call.targetContractAddress
            call.functionName call.args)]) ∧ last = s := by
  unfold invocation
  split
  · exact Yields.throw
  · rename_i transaction parsed
    refine Yields.bind yields_throwIf fun _ next passed => ?_
    obtain ⟨_, rfl⟩ := passed
    split
    · rename_i operations
      exact Yields.pure ⟨⟨transaction, parsed, operations⟩, rfl⟩
    · exact Yields.throw
    · exact Yields.throw
    · exact Yields.throw

theorem yields_createSettlementArgs {context : AuthorizationPolicyContext} {call : Invocation}
    : (exclusiveAlone t).Yields s (createSettlementArgs config context call) fun args last =>
        (truthy (some context.expectedVaultContract)).or
            (truthy (some config.stellar.settlementVaultContractId))
          = some call.targetContractAddress
        ∧ CallsVault call.targetContractAddress [.invokeHostFunction (.invokeContract
          call.targetContractAddress call.functionName call.args)] args ∧ last = s := by
  refine Yields.bind yields_throwIf fun _ next passed => ?_
  obtain ⟨approved, rfl⟩ := passed
  refine Yields.bind yields_throwIf fun _ next passed => ?_
  obtain ⟨named, rfl⟩ := passed
  split
  · rename_i settlementId source destination asset amount given
    refine Yields.bind yields_decoded fun source' next read => ?_
    obtain ⟨source_eq, rfl⟩ := read
    refine Yields.bind yields_decoded fun destination' next read => ?_
    obtain ⟨destination_eq, rfl⟩ := read
    refine Yields.bind yields_decoded fun asset' next read => ?_
    obtain ⟨asset_eq, rfl⟩ := read
    refine Yields.pure ⟨Classical.not_not.mp approved, ⟨source, destination, asset, ?_,
      source_eq, destination_eq, asset_eq⟩, rfl⟩
    rw [Classical.not_not.mp named, given]
  · exact Yields.throw

theorem yields_checkIdentities {context : AuthorizationPolicyContext} {args : CreateSettlementArgs}
    : (exclusiveAlone t).Yields s (checkIdentities config context args) fun _ last =>
        (args.settlementId.number = some (parseSettlementIdToU64 context.settlementId : Int)
          ∧ (∀ expected, (truthy (some context.expectedSource)).or
            (truthy config.stellar.signerPublicKey) = some expected → args.source = expected)
          ∧ (truthy (some context.expectedAssetContract)).or (truthy config.stellar.usdcContractId)
            = some args.asset) ∧ last = s := by
  refine Yields.bind yields_decoded fun settlementId next read => ?_
  obtain ⟨settlementId_eq, rfl⟩ := read
  refine Yields.bind yields_throwIf fun _ next passed => ?_
  obtain ⟨same_id, rfl⟩ := passed
  refine Yields.bind yields_throwIf fun _ next passed => ?_
  obtain ⟨same_source, rfl⟩ := passed
  have source (expected : String) (chosen : (truthy (some context.expectedSource)).or
      (truthy config.stellar.signerPublicKey) = some expected) : args.source = expected := by
    simp only [chosen, Option.any_some, decide_eq_true_eq, Classical.not_not] at same_source
    exact same_source.symm
  have asset_of {contractId : String} (chosen : (truthy (some context.expectedAssetContract)).or
      (truthy config.stellar.usdcContractId) = some contractId)
      : (exclusiveAlone t).Yields next (throwIf (args.asset ≠ contractId)
        (violation "Transaction asset contract does not match approved USDC contract."))
        fun _ last => (args.settlementId.number
          = some (parseSettlementIdToU64 context.settlementId : Int)
          ∧ (∀ expected, (truthy (some context.expectedSource)).or
            (truthy config.stellar.signerPublicKey) = some expected → args.source = expected)
          ∧ (truthy (some context.expectedAssetContract)).or (truthy config.stellar.usdcContractId)
            = some args.asset) ∧ last = next := by
    refine yields_throwIf.mono fun _ last passed => ⟨⟨?_, source, ?_⟩, passed.2⟩
    · rw [settlementId_eq, Classical.not_not.mp same_id]
    · rw [chosen, Classical.not_not.mp passed.1]
  dsimp only
  split
  · rename_i contractId given
    refine Yields.bind (Yields.pure (Q := fun value last => value = contractId ∧ last = next)
      ⟨rfl, rfl⟩) fun value later same => ?_
    obtain ⟨rfl, rfl⟩ := same
    exact asset_of (by rw [given, Option.some_or])
  · rename_i missing
    refine Yields.bind yields_usdcContractId fun contractId later read => ?_
    obtain ⟨configured, rfl⟩ := read
    exact asset_of (by rw [missing, Option.none_or, configured])

theorem yields_checkOrder {orderId : Id} {args : CreateSettlementArgs} {order : Order}
    : (exclusiveAlone t).Yields s (checkOrder sdk orderId args order) fun _ last =>
        (order.status = .SETTLEMENT_PENDING
          ∧ (∀ id refund, s.committed.lookup (.refund id) = some refund → refund.orderId = orderId
            → refund.status.isActive = false)
          ∧ order.walletAddress = some args.destination
          ∧ ∃ amount, args.amount.number = some amount
            ∧ parseAmountToStroops (stroops order.destinationAmount).toString = some amount)
        ∧ last = s := by
  refine Yields.bind yields_throwIf fun _ next passed => ?_
  obtain ⟨pending, rfl⟩ := passed
  refine Yields.bind yields_select fun refund next given => ?_
  obtain ⟨⟨rows, agree, rfl⟩, rfl⟩ := given
  refine Yields.bind yields_throwIf fun _ next passed => ?_
  obtain ⟨unrefunded, rfl⟩ := passed
  refine Yields.bind yields_throwIf fun _ next passed => ?_
  obtain ⟨_, rfl⟩ := passed
  refine Yields.bind yields_throwIf fun _ next passed => ?_
  obtain ⟨destination, rfl⟩ := passed
  split
  · exact Yields.throw
  · rename_i amount parsed
    refine Yields.bind yields_decoded fun value next read => ?_
    obtain ⟨value_eq, rfl⟩ := read
    refine yields_throwIf.mono fun _ last passed => ?_
    refine ⟨⟨Classical.not_not.mp pending, fun id refund found => ?_,
      (Classical.not_not.mp destination).symm, amount, ?_, parsed⟩, passed.2⟩
    · have none_active : activeRefund orderId rows = none := by simpa using unrefunded
      exact activeRefund_eq_none.mp none_active id refund ((agree _ trivial).trans found)
    · rw [value_eq, Classical.not_not.mp passed.1]

theorem yields_checkFunds {payments : List (Id × Payment)}
    {reservation : Option LiquidityReservation}
    : (exclusiveAlone t).Yields s (checkFunds payments reservation) fun _ last =>
        ((∃ payment ∈ payments, payment.2.status = .SUCCEEDED)
          ∧ ∃ reserved, reservation = some reserved ∧ reserved.status = .CONFIRMED)
        ∧ last = s := by
  refine Yields.bind yields_throwIf fun _ next passed => ?_
  obtain ⟨paid, rfl⟩ := passed
  refine yields_throwIf.mono fun _ last passed => ⟨⟨?_, ?_⟩, passed.2⟩
  · obtain ⟨payment, member, succeeded⟩ := List.any_eq_true.mp (Bool.of_not_eq_false paid)
    exact ⟨payment, member, of_decide_eq_true succeeded⟩
  · cases reservation with
    | none => simp at passed
    | some reserved => exact ⟨reserved, rfl, by simpa using passed.1⟩

theorem yields_checkSettlement {orderId : Id}
    : (exclusiveAlone t).Yields s (checkSettlement orderId) fun _ last =>
        (∃ settlement, s.committed.lookup (.settlement orderId) = some settlement
          ∧ settlement.status ≠ .COMPLETED) ∧ last = s := by
  refine Yields.bind (yields_findUnique trivial) fun found next given => ?_
  obtain ⟨found_eq, rfl⟩ := given
  cases found with
  | none => exact Yields.throw
  | some settlement =>
      refine Yields.bind yields_throwIf fun _ next passed => ?_
      obtain ⟨uncompleted, rfl⟩ := passed
      refine Yields.bind yields_now fun time next same => ?_
      subst same
      exact yields_throwIf.mono fun _ last passed =>
        ⟨⟨settlement, found_eq.symm, uncompleted⟩, passed.2⟩

theorem yields_checkLimits {amount : Int}
    : (exclusiveAlone t).Yields s (checkLimits config amount) fun _ last => last = s := by
  refine Yields.bind yields_throwIf fun _ next passed => ?_
  obtain ⟨_, rfl⟩ := passed
  refine Yields.bind yields_throwIf fun _ next passed => ?_
  obtain ⟨_, rfl⟩ := passed
  refine Yields.bind yields_now fun time next same => ?_
  subst same
  refine Yields.bind yields_select fun hourly next given => ?_
  obtain ⟨_, rfl⟩ := given
  refine Yields.bind yields_select fun daily next given => ?_
  obtain ⟨_, rfl⟩ := given
  refine Yields.bind yields_throwIf fun _ next passed => ?_
  obtain ⟨_, rfl⟩ := passed
  exact yields_throwIf.mono fun _ last passed => passed.2

theorem yields_checkDatabase {orderId : Id} {args : CreateSettlementArgs}
    : (exclusiveAlone t).Yields s (checkDatabase sdk config orderId args) fun _ last =>
        (∃ order settlement, s.committed.lookup (.order orderId) = some order
          ∧ s.committed.lookup (.settlement orderId) = some settlement
          ∧ order.Payable orderId s.committed
          ∧ order.walletAddress = some args.destination
          ∧ (∃ amount, args.amount.number = some amount
            ∧ parseAmountToStroops (stroops order.destinationAmount).toString = some amount)
          ∧ settlement.status ≠ .COMPLETED) ∧ last = s := by
  refine Yields.bind (yields_findUnique trivial) fun found next given => ?_
  obtain ⟨found_eq, rfl⟩ := given
  cases found with
  | none => exact Yields.throw
  | some order =>
      refine Yields.bind yields_select fun payments next given => ?_
      obtain ⟨⟨rows, agree, rfl⟩, rfl⟩ := given
      refine Yields.bind (yields_findUnique trivial) fun reservation next given => ?_
      obtain ⟨rfl, rfl⟩ := given
      refine Yields.bind yields_checkOrder fun _ next passed => ?_
      obtain ⟨⟨pending, unrefunded, destination, amount⟩, rfl⟩ := passed
      refine Yields.bind yields_checkFunds fun _ next passed => ?_
      obtain ⟨⟨⟨⟨id, payment⟩, member, succeeded⟩, reserved⟩, rfl⟩ := passed
      refine Yields.bind yields_checkSettlement fun _ next passed => ?_
      obtain ⟨⟨settlement, recorded, uncompleted⟩, rfl⟩ := passed
      refine yields_checkLimits.mono fun _ last same => ⟨?_, same⟩
      obtain ⟨found, of_order⟩ := mem_paymentsOf.mp member
      exact ⟨order, settlement, found_eq.symm, recorded,
        ⟨pending, ⟨id, payment, (agree _ trivial).symm.trans found, of_order, succeeded⟩, reserved,
          unrefunded⟩, destination, amount, uncompleted⟩

theorem yields_validateAndApprove {request : SignTransactionRequest}
    : (exclusiveAlone t).Yields s (validateAndApprove sdk config request) fun _ last =>
        PolicyApproved sdk config request s.committed ∧ last = s := by
  refine Yields.bind yields_throwIf fun _ next passed => ?_
  obtain ⟨_, rfl⟩ := passed
  refine Yields.bind yields_invocation fun call next given => ?_
  obtain ⟨⟨transaction, parsed, operations⟩, rfl⟩ := given
  refine Yields.bind yields_createSettlementArgs fun args next given => ?_
  obtain ⟨vault, calls, rfl⟩ := given
  refine Yields.bind yields_checkIdentities fun _ next passed => ?_
  obtain ⟨⟨settlementId, source, asset⟩, rfl⟩ := passed
  refine yields_checkDatabase.mono fun _ last passed => ?_
  obtain ⟨⟨order, settlement, stored, recorded, payable, destination, amount, uncompleted⟩, same⟩ :=
    passed
  exact ⟨⟨transaction, call.targetContractAddress, args, order, settlement, parsed,
    operations ▸ calls, vault, settlementId, source, asset, stored, recorded, payable, destination,
    amount, uncompleted⟩, same⟩

end

-----------------------------------------------------------------------------------------
-- Soundness
-----------------------------------------------------------------------------------------

section

variable {sdk : StellarSdk} {config : Config} {request : SignTransactionRequest}

/-- The operations say which contract is called with which arguments. -/
theorem CallsVault.unique {operations : List StellarOperation} {contractAddress other : String}
    {args args' : SettlementPolicyEngine.CreateSettlementArgs}
    (calls : CallsVault contractAddress operations args) (calls' : CallsVault other operations args')
    : contractAddress = other ∧ args = args' := by
  obtain ⟨_, _, _, rfl, source, destination, asset⟩ := calls
  obtain ⟨_, _, _, same, source', destination', asset'⟩ := calls'
  simp only [List.cons.injEq, StellarOperation.invokeHostFunction.injEq,
    HostFunction.invokeContract.injEq, and_true, true_and] at same
  obtain ⟨rfl, same_id, rfl, rfl, rfl, same_amount⟩ := same
  refine ⟨rfl, ?_⟩
  cases args
  cases args'
  simp only [SettlementPolicyEngine.CreateSettlementArgs.mk.injEq]
  exact ⟨same_id, Option.some.inj (source.symm.trans source'),
    Option.some.inj (destination.symm.trans destination'),
    Option.some.inj (asset.symm.trans asset'), same_amount⟩

/-- An approved transaction pays out the order of its context exactly if the context agrees with the
configuration and with the order's settlement.
-/
theorem PolicyApproved.sound_iff {rows : AList Row}
    (approved : PolicyApproved sdk config request rows)
    (storable : ∀ order, rows.lookup (.order request.context.orderId) = some order
      → order.destinationAmount.natAbs < 10 ^ 18)
    : request.Sound sdk config rows
      ↔ ∃ settlement, rows.lookup (.settlement request.context.orderId) = some settlement
        ∧ request.context.Anchored config settlement := by
  obtain ⟨transaction, contractAddress, args, order, settlement, parsed, calls, checked⟩ := approved
  constructor
  · intro sound
    obtain ⟨transaction', args', order', settlement', parsed', calls', pays⟩ := sound
    obtain rfl := Option.some.inj (parsed.symm.trans parsed')
    obtain ⟨rfl, rfl⟩ := calls.unique calls'
    refine ⟨settlement', pays.recorded, ?_, ⟨_, pays.source, ?_⟩, ⟨_, pays.asset, ?_⟩, ?_,
      pays.unfailed⟩
    · cases given : truthy (some request.context.expectedVaultContract) with
      | none => rfl
      | some expected => simpa [given] using checked.vault
    · cases given : truthy (some request.context.expectedSource) with
      | none => rfl
      | some expected => exact (checked.source expected (by rw [given, Option.some_or])).symm
    · cases given : truthy (some request.context.expectedAssetContract) with
      | none => rfl
      | some expected => simpa [given] using checked.asset
    · have same := Option.some.inj (checked.settlementId.symm.trans pays.settlementId)
      exact_mod_cast same
  · intro given
    obtain ⟨settlement', recorded, anchored⟩ := given
    obtain rfl := Option.some.inj (checked.recorded.symm.trans recorded)
    obtain ⟨signer, configured, source⟩ := anchored.source
    obtain ⟨contractId, required, asset⟩ := anchored.asset
    have vault : contractAddress = config.stellar.settlementVaultContractId := by
      have chosen := checked.vault
      cases given : truthy (some request.context.expectedVaultContract) with
      | none =>
          rw [given, Option.none_or] at chosen
          exact (Option.some.inj (Option.filter_eq_some_iff.mp chosen).1).symm
      | some expected =>
          rw [given, Option.some_or] at chosen
          have same := anchored.vault
          rw [given, Option.getD_some] at same
          exact (Option.some.inj chosen).symm.trans same
    obtain ⟨amount, number, read⟩ := checked.amount
    refine ⟨transaction, args, order, settlement, parsed, vault ▸ calls, checked.stored,
      checked.recorded, checked.payable, ?_, ?_, checked.destination, ?_, ?_, checked.uncompleted,
      anchored.unfailed⟩
    · rw [configured]
      refine congrArg some ((checked.source signer ?_).symm)
      cases given : truthy (some request.context.expectedSource) with
      | none => rw [Option.none_or, configured]
      | some expected =>
          rw [given, Option.getD_some] at source
          rw [Option.some_or, source]
    · rw [← checked.asset, required]
      cases given : truthy (some request.context.expectedAssetContract) with
      | none => rfl
      | some expected =>
          rw [given, Option.getD_some] at asset
          rw [Option.some_or, asset]
    · rw [number, parseAmountToStroops_stroops (storable order checked.stored) read]
    · rw [checked.settlementId, anchored.settlementId]

theorem approved_of_alone {t : Tid} {world after : World}
    (run : Program.Alone t (SettlementPolicyEngine.validateAndApprove sdk config request).run world
      (.ok ()) after)
    : PolicyApproved sdk config request world.db.committed := by
  obtain ⟨last, _, approved, _⟩ := Protocol.Spec.of_alone
    (yields_validateAndApprove (t := t) (s := .of t world)) (at_alone t world) run
  exact approved

/-- A transaction that is approved pays out the order of its context as configured, in every
state of the database, exactly if the context agrees with the configuration and with the order's
settlement. By what a lone run that approves has read and compared.
-/
theorem validateAndApprove_sound_iff {t : Tid} {world after : World}
    (storable : ∀ order,
      world.db.committed.lookup (.order request.context.orderId) = some order
      → order.destinationAmount.natAbs < 10 ^ 18)
    (approved : Program.Alone t
      (SettlementPolicyEngine.validateAndApprove sdk config request).run world (.ok ()) after)
    : request.Sound sdk config world.db.committed
      ↔ ∃ settlement,
        world.db.committed.lookup (.settlement request.context.orderId) = some settlement
        ∧ request.context.Anchored config settlement :=
  (approved_of_alone approved).sound_iff storable

end

-----------------------------------------------------------------------------------------
-- Requests about one order
-----------------------------------------------------------------------------------------

/-- The configuration with the signer of the treasury. -/
def treasuryConfig : Config :=
  { localConfig with
    stellar := { localConfig.stellar with signerPublicKey := some "GSIGNER" } }

/-- An envelope names the contract that its transaction pays 50 USDC out of. -/
def envelopeSdk : StellarSdk :=
  { localSdk with
    fromXDR := fun xdr passphrase => some ⟨passphrase,
      [.invokeHostFunction (.invokeContract xdr "create_settlement"
        [{ number := some (parseSettlementIdToU64 "STL_1723238112000_a1" : Int) },
          { address := some "GSIGNER" }, { address := some "GWALLET" },
          { address := some "CUSDC" }, { number := some 500000000 }])]⟩ }

/-- An order of 50 USDC that is paid and reserved, with a settlement in some status. -/
def settleable (status : SettlementStatus) : World :=
  World.start ((((payable 500000000).db.committed.insert (.payment "payment")
    ({ orderId := "order", userId := "user", amount := 20000, currency := "NGN",
       status := .SUCCEEDED, reference := "reference" } : Payment)).insert
    (.liquidityReservation "order")
    ({ poolId := "pool", amount := 500000000, status := .CONFIRMED, expiresAt := 900000 }
      : LiquidityReservation)).insert
    (.settlement "order")
    ({ payout 500000 with settlementId := "STL_1723238112000_a1", status := status } : Settlement))

/-- The request to sign the transaction on a contract that the context expects. -/
def vaultRequest (contractAddress : String) : SignTransactionRequest where
  unsignedTransactionXdr := contractAddress
  context :=
    { settlementId := "STL_1723238112000_a1", orderId := "order", expectedSource := "GSIGNER",
      expectedDestination := "GWALLET", expectedAmountStroops := 500000000,
      expectedAssetContract := "CUSDC", expectedVaultContract := contractAddress }

theorem vaultRequest_approved (contractAddress : String) (status : SettlementStatus)
    (evaluated : (Program.evalAlone 0 (SettlementPolicyEngine.validateAndApprove envelopeSdk
      treasuryConfig (vaultRequest contractAddress)).run (settleable status)
      (List.replicate 9 {})).map Prod.fst = some (.ok ()))
    : ∃ after, Program.Alone 0 (SettlementPolicyEngine.validateAndApprove envelopeSdk
        treasuryConfig (vaultRequest contractAddress)).run (settleable status) (.ok ()) after :=
  Program.exists_alone_of_evalAlone _ evaluated

theorem settleable_order {status : SettlementStatus} {order : Order}
    (stored : (settleable status).db.committed.lookup (.order "order") = some order)
    : order.destinationAmount.natAbs < 10 ^ 18 := by
  have found : (settleable status).db.committed.lookup (.order "order")
      = (payable 500000000).db.committed.lookup (.order "order") := by
    simp only [settleable, World.start]
    rfl
  obtain rfl := Option.some.inj (((AList.lookup_insert _).symm.trans found.symm).trans stored)
  decide

theorem validateAndApprove_sound_iff_vault
    : (vaultRequest "CVAULT").Sound envelopeSdk treasuryConfig
      (settleable .PENDING).db.committed := by
  obtain ⟨_, approved⟩ := vaultRequest_approved "CVAULT" .PENDING (by decide +kernel)
  refine (validateAndApprove_sound_iff (fun _ => settleable_order) approved).mpr
    ⟨_, AList.lookup_insert _, rfl, ⟨_, rfl, rfl⟩, ⟨_, rfl, rfl⟩, rfl, ?_⟩
  decide

/-- A call of any other contract is approved if the context expects that contract, and a settlement
that has failed is approved once more.
-/
theorem another_vault_approved
    : (∃ after, Program.Alone 0 (SettlementPolicyEngine.validateAndApprove envelopeSdk
          treasuryConfig (vaultRequest "CATTACKER")).run (settleable .PENDING) (.ok ()) after
        ∧ ¬(vaultRequest "CATTACKER").Sound envelopeSdk treasuryConfig
          (settleable .PENDING).db.committed)
      ∧ ∃ after, Program.Alone 0 (SettlementPolicyEngine.validateAndApprove envelopeSdk
          treasuryConfig (vaultRequest "CVAULT")).run (settleable .FAILED) (.ok ()) after
        ∧ ¬(vaultRequest "CVAULT").Sound envelopeSdk treasuryConfig
          (settleable .FAILED).db.committed := by
  constructor
  · obtain ⟨after, approved⟩ := vaultRequest_approved "CATTACKER" .PENDING (by decide +kernel)
    refine ⟨after, approved, fun sound => ?_⟩
    obtain ⟨settlement, _, anchored⟩ :=
      ((approved_of_alone approved).sound_iff fun _ => settleable_order).mp sound
    exact absurd anchored.vault (by decide)
  · obtain ⟨after, approved⟩ := vaultRequest_approved "CVAULT" .FAILED (by decide +kernel)
    refine ⟨after, approved, fun sound => ?_⟩
    obtain ⟨settlement, recorded, anchored⟩ :=
      ((approved_of_alone approved).sound_iff fun _ => settleable_order).mp sound
    obtain rfl := Option.some.inj ((AList.lookup_insert _).symm.trans recorded)
    exact anchored.unfailed rfl

end LuminaRail
