import LuminaRail.Services.Footprints
import LuminaRail.Stellar.Environment
import LuminaRail.Stellar.Transactions

/-! The footprints of what precedes the broadcast of a settlement: the policy, the signers and
building the transaction only read.
-/

namespace LuminaRail

open Concurrency Database Service

variable {footprint : Footprint} {t : Tid}

/-- What passes is a configuration that is safe to settle with. -/
theorem within_assertProductionSettlementSafety (config : Config)
    : Within (Step footprint t) t (assertProductionSettlementSafety config) fun _ =>
        SettlementSafe config := by
  obtain ⟨safe, passed⟩ | ⟨-, error, thrown⟩ := assertProductionSettlementSafety_cases config
  · exact passed ▸ Within.pure safe
  · exact thrown ▸ Within.throw error

/-- The contract is derived from the configuration. -/
theorem within_usdcContractId (config : Config)
    : Within (Step footprint t) t (usdcContractId config) := by
  unfold usdcContractId
  split
  · exact Within.pure trivial
  · exact Within.throw _

namespace SettlementPolicyEngine

/-- What cannot be decoded makes the caller throw. -/
theorem within_decoded {α : Type} (value : Option α)
    : Within (Step footprint t) t (decoded value) := by
  cases value with
  | some value => exact Within.pure trivial
  | none => exact Within.throw _

/-- The envelope is decoded without any write. -/
theorem within_invocation (sdk : StellarSdk) (config : Config) (unsignedTransactionXdr : String)
    : Within (Step footprint t) t (invocation sdk config unsignedTransactionXdr) := by
  unfold invocation
  split
  · exact Within.throw _
  · refine Within.bind within_throwIf fun _ _ => ?_
    split
    · exact Within.pure trivial
    · exact Within.throw _
    · exact Within.throw _
    · exact Within.throw _

/-- The arguments are decoded without any write. -/
theorem within_createSettlementArgs (config : Config) (context : AuthorizationPolicyContext)
    (call : Invocation)
    : Within (Step footprint t) t (createSettlementArgs config context call) := by
  refine Within.bind within_throwIf fun _ _ => Within.bind within_throwIf fun _ _ => ?_
  split
  · refine Within.bind (within_decoded _) fun _ _ => Within.bind (within_decoded _) fun _ _ => ?_
    exact Within.bind (within_decoded _) fun _ _ => Within.pure trivial
  · exact Within.throw _

/-- The identities are compared without any write. -/
theorem within_checkIdentities (config : Config) (context : AuthorizationPolicyContext)
    (args : CreateSettlementArgs)
    : Within (Step footprint t) t (checkIdentities config context args) := by
  refine Within.bind (within_decoded _) fun _ _ => Within.bind within_throwIf fun _ _ => ?_
  refine Within.bind within_throwIf fun _ _ => ?_
  extract_lets compare
  have compared (expectedAsset : String)
      : Within (Step footprint t) t (compare expectedAsset) := within_throwIf.forget
  split
  · exact Within.bind (Q := fun _ => True) (Within.pure trivial) fun _ _ => compared _
  · exact Within.bind (within_usdcContractId config) fun _ _ => compared _

/-- The order is compared with what was read of its payments and reservation. -/
theorem within_checkOrder (sdk : StellarSdk) (orderId : Id) (args : CreateSettlementArgs)
    (order : Order)
    : Within (Step footprint t) t (checkOrder sdk orderId args order) := by
  refine Within.bind within_throwIf fun _ _ => ?_
  refine Within.bind (within_select (Q := fun _ => True) fun _ => trivial) fun _ _ => ?_
  refine Within.bind within_throwIf fun _ _ => Within.bind within_throwIf fun _ _ => ?_
  refine Within.bind within_throwIf fun _ _ => ?_
  split
  · exact Within.throw _
  · exact Within.bind (within_decoded _) fun _ _ => within_throwIf.forget

/-- The settlement is only read. -/
theorem within_checkSettlement (orderId : Id)
    : Within (Step footprint t) t (checkSettlement orderId) := by
  refine Within.bind within_findUnique fun found _ => ?_
  cases found with
  | none => exact Within.throw _
  | some settlement =>
      refine Within.bind within_throwIf fun _ _ => Within.bind within_now fun _ _ => ?_
      exact within_throwIf.forget

/-- The limits are compared without any write. -/
theorem within_checkLimits (config : Config) (destinationAmount : Int)
    : Within (Step footprint t) t (checkLimits config destinationAmount) := by
  refine Within.bind within_throwIf fun _ _ => Within.bind within_throwIf fun _ _ => ?_
  refine Within.bind within_now fun _ _ => ?_
  refine Within.bind (within_select (Q := fun _ => True) fun _ => trivial) fun _ _ => ?_
  refine Within.bind (within_select (Q := fun _ => True) fun _ => trivial) fun _ _ => ?_
  exact Within.bind within_throwIf fun _ _ => within_throwIf.forget

/-- The policy only reads, by the rules of its checks. -/
theorem within_validateAndApprove (sdk : StellarSdk) (config : Config)
    (request : SignTransactionRequest)
    : Within (Step footprint t) t (validateAndApprove sdk config request) := by
  refine Within.bind within_throwIf fun _ _ => ?_
  refine Within.bind (within_invocation sdk config _) fun call _ => ?_
  refine Within.bind (within_createSettlementArgs config _ call) fun args _ => ?_
  refine Within.bind (within_checkIdentities config _ args) fun _ _ => ?_
  refine Within.bind within_findUnique fun found _ => ?_
  cases found with
  | none => exact Within.throw _
  | some order =>
      refine Within.bind (within_select (Q := fun _ => True) fun _ => trivial) fun payments _ => ?_
      refine Within.bind within_findUnique fun reservation _ => ?_
      refine Within.bind (within_checkOrder sdk _ args order) fun _ _ => ?_
      refine Within.bind (Q := fun _ => True) ?_ fun _ _ => ?_
      · exact Within.bind within_throwIf fun _ _ => within_throwIf.forget
      · exact Within.bind (within_checkSettlement _) fun _ _ => within_checkLimits config _

end SettlementPolicyEngine

/-- The local signer reads the configuration only. -/
theorem within_testnetLocalSigner (sdk : StellarSdk) (config : Config)
    : Within (Step footprint t) t (testnetLocalSigner sdk config) := by
  refine Within.bind within_throwIf fun _ _ => ?_
  refine Within.bind (within_assertProductionSettlementSafety config) fun _ _ => ?_
  split
  · exact Within.throw _
  · split
    · exact Within.throw _
    · exact Within.bind within_throwIf fun _ _ => Within.pure trivial

/-- The key of the service is read from the outside. -/
theorem within_kmsGetPublicKey (sdk : StellarSdk) (config : Config)
    : Within (Step footprint t) t (kmsGetPublicKey sdk config) := by
  refine Within.bind within_throwIf fun _ _ => within_external fun input result events given => ?_
  split at given
  · obtain ⟨rfl, rfl⟩ := Prod.mk.inj (Option.some.inj given)
    exact ⟨nofun, trivial⟩
  · obtain ⟨rfl, rfl⟩ := Prod.mk.inj (Option.some.inj given)
    exact ⟨nofun, trivial⟩

/-- In production and on the main network only the service signs. -/
theorem within_signerPublicKey (sdk : StellarSdk) (config : Config)
    : Within (Step footprint t) t (signerPublicKey sdk config) fun _ =>
        config.env = .production ∨ config.isMainnet = true
          → config.stellar.signerProvider = .aws_kms := by
  refine Within.bind within_throwIf fun _ remote => ?_
  split
  · rename_i aws
    exact (within_kmsGetPublicKey sdk config).weaken fun _ _ _ => aws
  · exact Within.throw _
  · exact Within.throw _
  · rename_i local'
    exact (within_testnetLocalSigner sdk config).weaken fun _ _ live => absurd ⟨live, local'⟩ remote

/-- A signature of the service changes nothing here. -/
theorem within_kmsSign (config : Config) : Within (Step footprint t) t (kmsSign config) := by
  refine within_external fun input result events given => ?_
  split at given
  · obtain ⟨rfl, rfl⟩ := Prod.mk.inj (Option.some.inj given)
    exact ⟨nofun, trivial⟩
  · split at given
    · obtain ⟨rfl, rfl⟩ := Prod.mk.inj (Option.some.inj given)
      exact ⟨nofun, trivial⟩
    · obtain ⟨rfl, rfl⟩ := Prod.mk.inj (Option.some.inj given)
      exact ⟨nofun, trivial⟩
    · simp at given

/-- The policy is asked before anything is signed. -/
theorem within_signTransaction (sdk : StellarSdk) (config : Config)
    (request : SignTransactionRequest)
    : Within (Step footprint t) t (signTransaction sdk config request) := by
  refine Within.bind (SettlementPolicyEngine.within_validateAndApprove sdk config request)
    fun _ _ => ?_
  refine Within.bind within_throwIf fun _ _ => ?_
  refine Within.bind (within_signerPublicKey sdk config) fun publicKey _ => ?_
  split
  · exact Within.bind (within_kmsSign config) fun _ _ => Within.pure trivial
  · exact Within.pure trivial

namespace SorobanTransactionService

/-- The account is read from the network. -/
theorem within_getAccount (signerPublicKey : String)
    : Within (Step footprint t) t (getAccount signerPublicKey) := by
  refine within_external fun input result events given => ?_
  split at given
  · obtain ⟨rfl, rfl⟩ := Prod.mk.inj (Option.some.inj given)
    exact ⟨nofun, trivial⟩
  · obtain ⟨rfl, rfl⟩ := Prod.mk.inj (Option.some.inj given)
    exact ⟨nofun, trivial⟩

/-- A simulation changes nothing here. -/
theorem within_simulateTransaction : Within (Step footprint t) t simulateTransaction := by
  refine within_external fun input result events given => ?_
  split at given
  · obtain ⟨rfl, rfl⟩ := Prod.mk.inj (Option.some.inj given)
    exact ⟨nofun, trivial⟩
  · split at given
    · obtain ⟨rfl, rfl⟩ := Prod.mk.inj (Option.some.inj given)
      exact ⟨nofun, trivial⟩
    · obtain ⟨rfl, rfl⟩ := Prod.mk.inj (Option.some.inj given)
      exact ⟨nofun, trivial⟩
    · obtain ⟨rfl, rfl⟩ := Prod.mk.inj (Option.some.inj given)
      exact ⟨nofun, trivial⟩
    · simp at given

/-- The transaction that is built is for the order that it is asked for. -/
theorem within_buildUnsignedSettlementTransaction (sdk : StellarSdk) (config : Config)
    (params : SubmitSettlementParams)
    : Within (Step footprint t) t
        (buildUnsignedSettlementTransaction sdk config params) fun prepared =>
          prepared.context.orderId = params.orderId := by
  refine Within.bind (within_assertProductionSettlementSafety config) fun _ _ => ?_
  refine Within.bind within_throwIf fun _ _ => ?_
  refine Within.bind (within_signerPublicKey sdk config) fun signerPublicKey _ => ?_
  refine Within.bind (within_getAccount signerPublicKey) fun sequence _ => ?_
  split
  · exact Within.throw _
  · refine Within.bind within_throwIf fun _ _ => Within.bind within_throwIf fun _ _ => ?_
    extract_lets settlementId rest
    have prepared (assetAddress : String) : Within (Step footprint t) t (rest assetAddress)
        fun prepared => prepared.context.orderId = params.orderId := by
      refine Within.bind within_throwIf fun _ _ => Within.bind within_throwIf fun _ _ => ?_
      exact Within.bind within_simulateTransaction fun _ _ => Within.pure rfl
    split
    · exact Within.bind (Q := fun _ => True) (Within.pure trivial) fun _ _ => prepared _
    · exact Within.bind (within_usdcContractId config) fun _ _ => prepared _

/-- The sequence lock is the caller's own. -/
theorem within_acquireSequenceLock (config : Config) (key : String)
    : Within (Step footprint t) t (acquireSequenceLock config key)
        fun lock => ∀ held ∈ lock, held.Of t key := by
  refine Within.bind (within_acquire config key) fun lock own => ?_
  cases lock with
  | some lock => exact Within.pure own
  | none => exact Within.bind within_attempts fun _ _ => within_poll config key _

end SorobanTransactionService

end LuminaRail
