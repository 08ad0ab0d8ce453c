import LuminaRail.Stellar.Configuration
import Mathlib.Tactic.SplitIfs
import Mathlib.Tactic.Tauto

/-! The environment that a process is started in: what its schema refuses, the configuration that
comes of it, and what the guards of the settlement code still have to refuse.
-/

namespace LuminaRail

open Service

-----------------------------------------------------------------------------------------
-- Settlement guards
-----------------------------------------------------------------------------------------

/-- A configuration that the guard of the settlement code lets pass. -/
structure SettlementSafe (config : Config) : Prop where
  enabled : config.productionSettlementEnabled = config.isMainnet
  environment : config.isMainnet = true → config.env = .production ∨ config.env = .staging
  issuer : config.isMainnet = true → config.stellar.usdcIssuer = STELLAR_MAINNET_USDC_ISSUER
  signer : config.isMainnet = true → config.stellar.signerProvider ≠ .testnet_local
  kmsKey : config.isMainnet = true → config.stellar.signerProvider = .aws_kms
    → isBlank (some config.stellar.kmsKeyArn) = false
  paystack : config.isMainnet = true → config.ngnProvider = .paystack
    → config.paystack.secretKey.startsWith "sk_test_" = false
  governance : config.isMainnet = true → config.stellar.contractAdminGovernanceType ≠ .single_key

/-- A configuration under which settlements are sent. Only AWS KMS signs in production and for the
main network.
-/
structure MaySend (config : Config) : Prop extends SettlementSafe config where
  custody : config.env = .production ∨ config.isMainnet = true
    → config.stellar.signerProvider = .aws_kms

/-- What comes after a check is reached unless the check throws. -/
theorem throwIf_then {α : Type} (bad : Prop) [Decidable bad] (error : AppError) (rest : Service α)
    : (throwIf bad error >>= fun _ => rest) = if bad then throw error else rest := by
  unfold throwIf
  split <;> rfl

theorem assertProductionSettlementSafety_cases (config : Config)
    : (SettlementSafe config ∧ assertProductionSettlementSafety config = pure ())
      ∨ (¬SettlementSafe config
        ∧ ∃ error, assertProductionSettlementSafety config = throw error) := by
  have refused {bad : Prop} {error : AppError} {program : Service Unit}
      (safe : SettlementSafe config → ¬bad) (given : bad) (same : program = throw error)
      : SettlementSafe config ∧ program = pure ()
        ∨ ¬SettlementSafe config ∧ ∃ error, program = throw error :=
    Or.inr ⟨fun held => safe held given, error, same⟩
  unfold assertProductionSettlementSafety assertContractGovernanceReadiness
  dsimp only
  split
  · rename_i main
    simp only [throwIf_then]
    split_ifs with disabled elsewhere issuer signer key paystack
    · exact refused (fun safe => by simp [safe.enabled, main]) disabled rfl
    · refine refused (fun safe => ?_) elsewhere rfl
      have placed := safe.environment main
      tauto
    · exact refused (fun safe => not_not.mpr (safe.issuer main)) issuer rfl
    · exact refused (fun safe => safe.signer main) signer rfl
    · exact refused (fun safe given => by simp [safe.kmsKey main given.1] at given) key rfl
    · exact refused (fun safe given => by simp [safe.paystack main given.1] at given) paystack rfl
    · simp only [throwIf]
      split_ifs with governance
      · exact refused (fun safe given => safe.governance main given.2) governance rfl
      · refine Or.inl ⟨?_, rfl⟩
        constructor
        · simpa [main] using disabled
        · tauto
        · exact fun _ => not_not.mp issuer
        · exact fun _ => signer
        · exact fun _ => by simpa using key
        · exact fun _ => by simpa using paystack
        · tauto
  · rename_i test
    simp only [throwIf]
    split_ifs with enabled
    · exact refused (fun safe given => test (safe.enabled ▸ given)) enabled rfl
    · have other {P : Prop} (main : config.isMainnet = true) : P := absurd main test
      exact Or.inl ⟨⟨by simp_all, other, other, other, other, other, other⟩, rfl⟩

-----------------------------------------------------------------------------------------
-- The schema
-----------------------------------------------------------------------------------------

/-- The variables that the refinements of `envSchema` and the modelled part of `config` read, as the
fields of the schema leave them: defaults are set, flags and limits are parsed. The schema does not
know NGN_PROVIDER_SECRET_KEY.
-/
structure EnvData where
  NODE_ENV : NodeEnv := .development
  REDIS_URL : String := "redis://localhost:6379"
  REQUIRE_DISTRIBUTED_LOCKS : Bool := false
  STELLAR_NETWORK : StellarNetwork := .testnet
  STELLAR_USDC_ISSUER : String
  STELLAR_USDC_CONTRACT_ID : Option String := none
  STELLAR_SETTLEMENT_VAULT_CONTRACT_ID : String := ""
  SOROBAN_SETTLEMENT_VAULT_CONTRACT_ID : String := ""
  STELLAR_SETTLEMENT_SIGNER_PUBLIC_KEY : Option String := none
  STELLAR_SETTLEMENT_SIGNER_SECRET_KEY : Option String := none
  JWT_SECRET : String := "dev_secret_change_me_in_production"
  NGN_PROVIDER : NgnProviderMode := .sandbox
  PAYSTACK_SECRET_KEY : String := ""
  STELLAR_SIGNER_PROVIDER : SignerProvider := .testnet_local
  STELLAR_KMS_KEY_ARN : String := ""
  AWS_KMS_SIGNING_KEY_ID : String := ""
  PRODUCTION_SETTLEMENT_ENABLED : Bool := false
  MAX_SINGLE_SETTLEMENT_USDC : Decimal := ⟨10000, 0⟩
  MAX_HOURLY_OUTFLOW_USDC : Decimal := ⟨50000, 0⟩
  MAX_DAILY_OUTFLOW_USDC : Decimal := ⟨200000, 0⟩
  MIN_SETTLEMENT_USDC : Decimal := ⟨1, 0⟩
  TREASURY_WARN_THRESHOLD_USDC : Decimal := ⟨5000, 0⟩
  TREASURY_CRITICAL_THRESHOLD_USDC : Decimal := ⟨1000, 0⟩
  STELLAR_CONTRACT_ADMIN_GOVERNANCE_TYPE : GovernanceType := .single_key
  EMERGENCY_GLOBAL_PAUSE : Bool := false
  NGN_PROVIDER_SECRET_KEY : Option String := none

def STELLAR_MAINNET_USDC_CONTRACT_ID : String :=
  "CCW67TSZV3SSS2HXMBQ5JFGCKJNXKZM7UQUWUZPUTHXSTZLEO7SJMI75"

namespace EnvData

def isMainnet (data : EnvData) : Bool :=
  data.STELLAR_NETWORK = .public || data.STELLAR_NETWORK = .mainnet

/-- `STELLAR_KMS_KEY_ARN || AWS_KMS_SIGNING_KEY_ID`. -/
def kmsKeyArn (data : EnvData) : String :=
  (truthy data.STELLAR_KMS_KEY_ARN).getD data.AWS_KMS_SIGNING_KEY_ID

/-- A refinement of the schema: what it refuses, under which path and with which message. -/
structure Refinement where
  refuses : EnvData → Bool
  path : String
  message : String

def refinements : List Refinement :=
  [ { refuses := fun data =>
        data.NGN_PROVIDER = .paystack && isBlank (some data.PAYSTACK_SECRET_KEY)
      path := "PAYSTACK_SECRET_KEY"
      message := "PAYSTACK_SECRET_KEY environment variable is required when NGN_PROVIDER is set to "
        ++ "\"paystack\"." },
    { refuses := fun data =>
        data.NODE_ENV = .production && data.JWT_SECRET = "dev_secret_change_me_in_production"
      path := "JWT_SECRET"
      message := "JWT_SECRET environment variable must be set to a secure key in production mode." },
    { refuses := fun data => data.NODE_ENV = .production && !data.isMainnet
      path := "STELLAR_NETWORK"
      message := "STELLAR_NETWORK must be set to \"public\" or \"mainnet\" when NODE_ENV is "
        ++ "\"production\"." },
    { refuses := fun data =>
        data.isMainnet && data.STELLAR_USDC_ISSUER ≠ STELLAR_MAINNET_USDC_ISSUER
      path := "STELLAR_USDC_ISSUER"
      message := "STELLAR_USDC_ISSUER must be set to Circle Mainnet Issuer "
        ++ s!"({STELLAR_MAINNET_USDC_ISSUER}) for public/mainnet networks." },
    { refuses := fun data =>
        !data.isMainnet && data.STELLAR_USDC_ISSUER = STELLAR_MAINNET_USDC_ISSUER
      path := "STELLAR_USDC_ISSUER"
      message := "Circle Mainnet USDC Issuer cannot be used when STELLAR_NETWORK is "
        ++ "testnet/futurenet." },
    { refuses := fun data =>
        data.isMainnet && (truthy data.STELLAR_USDC_CONTRACT_ID).any
          (· ≠ STELLAR_MAINNET_USDC_CONTRACT_ID)
      path := "STELLAR_USDC_CONTRACT_ID"
      message := "STELLAR_USDC_CONTRACT_ID must be Circle Mainnet Soroban Contract ID "
        ++ s!"({STELLAR_MAINNET_USDC_CONTRACT_ID}) when network is public/mainnet." },
    { refuses := fun data =>
        data.NODE_ENV = .production && data.NGN_PROVIDER = .paystack
          && data.PAYSTACK_SECRET_KEY.startsWith "sk_test_"
      path := "PAYSTACK_SECRET_KEY"
      message := "PAYSTACK_SECRET_KEY cannot be a test key (sk_test_...) when NODE_ENV is "
        ++ "\"production\"." },
    { refuses := fun data =>
        data.PRODUCTION_SETTLEMENT_ENABLED
          && (!data.isMainnet || data.STELLAR_USDC_ISSUER ≠ STELLAR_MAINNET_USDC_ISSUER
            || data.STELLAR_SIGNER_PROVIDER = .testnet_local
            || (data.STELLAR_SIGNER_PROVIDER = .aws_kms && isBlank (some data.kmsKeyArn))
            || data.STELLAR_CONTRACT_ADMIN_GOVERNANCE_TYPE = .single_key)
      path := "PRODUCTION_SETTLEMENT_ENABLED"
      message := "PRODUCTION_SETTLEMENT_ENABLED requires mainnet network, Circle mainnet USDC "
        ++ "issuer, non-local signer provider, valid KMS key ARN, and multisig/dao governance." },
    { refuses := fun data =>
        data.TREASURY_CRITICAL_THRESHOLD_USDC.gt data.TREASURY_WARN_THRESHOLD_USDC
      path := "TREASURY_CRITICAL_THRESHOLD_USDC"
      message := "TREASURY_CRITICAL_THRESHOLD_USDC must be less than or equal to "
        ++ "TREASURY_WARN_THRESHOLD_USDC." } ]

/-- The issues of the refinements, each with its path. -/
def issues (data : EnvData) : List (String × String) :=
  (refinements.filter (·.refuses data)).map fun refinement => (refinement.path, refinement.message)

/-- The modelled part of `config`. -/
def config (data : EnvData) : Config where
  env := data.NODE_ENV
  redis := { requireDistributedLocks := data.REQUIRE_DISTRIBUTED_LOCKS }
  productionSettlementEnabled := data.PRODUCTION_SETTLEMENT_ENABLED
  stellar :=
    { network := data.STELLAR_NETWORK
      usdcIssuer := data.STELLAR_USDC_ISSUER
      usdcContractId := data.STELLAR_USDC_CONTRACT_ID
      settlementVaultContractId := (truthy data.SOROBAN_SETTLEMENT_VAULT_CONTRACT_ID).getD
        data.STELLAR_SETTLEMENT_VAULT_CONTRACT_ID
      signerPublicKey := data.STELLAR_SETTLEMENT_SIGNER_PUBLIC_KEY
      signerSecretKey := data.STELLAR_SETTLEMENT_SIGNER_SECRET_KEY
      signerProvider := data.STELLAR_SIGNER_PROVIDER
      kmsKeyArn := data.kmsKeyArn
      contractAdminGovernanceType := data.STELLAR_CONTRACT_ADMIN_GOVERNANCE_TYPE }
  treasury :=
    { maxSingleSettlementUsdc := data.MAX_SINGLE_SETTLEMENT_USDC
      maxHourlyOutflowUsdc := data.MAX_HOURLY_OUTFLOW_USDC
      maxDailyOutflowUsdc := data.MAX_DAILY_OUTFLOW_USDC
      minSettlementUsdc := data.MIN_SETTLEMENT_USDC
      emergencyGlobalPause := data.EMERGENCY_GLOBAL_PAUSE }
  ngnProvider := data.NGN_PROVIDER
  paystack := { secretKey := data.PAYSTACK_SECRET_KEY }
  ngnProviderSecretKey := (truthy data.NGN_PROVIDER_SECRET_KEY).getD data.PAYSTACK_SECRET_KEY

/-- The environment that the tests of the configuration take for a valid production worker. -/
def productionWorker : EnvData where
  NODE_ENV := .production
  STELLAR_NETWORK := .public
  STELLAR_USDC_ISSUER := STELLAR_MAINNET_USDC_ISSUER
  JWT_SECRET := "super_secret_production_jwt_key_12345"
  PRODUCTION_SETTLEMENT_ENABLED := true
  STELLAR_SIGNER_PROVIDER := .aws_kms
  STELLAR_KMS_KEY_ARN :=
    "arn:aws:kms:us-east-1:123456789012:key/12345678-1234-1234-1234-123456789012"
  STELLAR_CONTRACT_ADMIN_GOVERNANCE_TYPE := .multisig

/-- What the schema accepts escapes each of its refinements. -/
theorem not_refuses {data : EnvData} {refinement : Refinement} (accepted : data.issues = [])
    (given : refinement ∈ refinements)
    : refinement.refuses data = false := by
  unfold issues at accepted
  rw [List.map_eq_nil_iff, List.filter_eq_nil_iff] at accepted
  simpa using accepted refinement given

/-- What the accepted environments have in common, as far as settlements are concerned. -/
structure Accepted (data : EnvData) : Prop where
  network : data.NODE_ENV = .production → data.isMainnet = true
  issuer : data.isMainnet = true → data.STELLAR_USDC_ISSUER = STELLAR_MAINNET_USDC_ISSUER
  paystack : data.NODE_ENV = .production → data.NGN_PROVIDER = .paystack
    → data.PAYSTACK_SECRET_KEY.startsWith "sk_test_" = false
  mainnet : data.PRODUCTION_SETTLEMENT_ENABLED = true → data.isMainnet = true
  signer : data.PRODUCTION_SETTLEMENT_ENABLED = true → data.STELLAR_SIGNER_PROVIDER ≠ .testnet_local
  kmsKey : data.PRODUCTION_SETTLEMENT_ENABLED = true → data.STELLAR_SIGNER_PROVIDER = .aws_kms
    → isBlank (some data.kmsKeyArn) = false
  governance : data.PRODUCTION_SETTLEMENT_ENABLED = true
    → data.STELLAR_CONTRACT_ADMIN_GOVERNANCE_TYPE ≠ .single_key

theorem accepted_of_issues {data : EnvData} (accepted : data.issues = []) : data.Accepted := by
  have escapes : ∀ refinement ∈ refinements, refinement.refuses data = false :=
    fun _ => not_refuses accepted
  simp only [refinements, List.forall_mem_cons] at escapes
  obtain ⟨-, -, network, issuer, -, -, paystack, settlement, -, -⟩ := escapes
  constructor
  · simpa using network
  · simpa using issuer
  · simpa using paystack
  all_goals
    intro enabled
    simp only [enabled, Bool.true_and] at settlement
    simp_all

end EnvData

-----------------------------------------------------------------------------------------
-- The start of the worker
-----------------------------------------------------------------------------------------

/-- What `LuminaRailWorkerRunner.start` asserts before it registers or starts anything. -/
def assertWorkerReadiness (config : Config) (redisUrl : String) : Service Unit := do
  assertProductionSettlementSafety config
  assertContractGovernanceReadiness config
  if config.env = .production then
    throwIf (isBlank (some redisUrl))
      ⟨"REDIS_URL environment variable is required for production worker process.", 500, ""⟩
    throwIf (config.stellar.signerProvider = .testnet_local)
      (.sorobanSignerConfig ("FATAL SECURITY VIOLATION: Local testnet signer (testnet_local) is "
        ++ "strictly forbidden for production worker execution."))
    throwIf (config.stellar.signerProvider = .aws_kms ∧ isBlank (some config.stellar.kmsKeyArn))
      (.sorobanSignerConfig ("FATAL SECURITY VIOLATION: STELLAR_KMS_KEY_ARN or "
        ++ "AWS_KMS_SIGNING_KEY_ID is required when STELLAR_SIGNER_PROVIDER is \"aws_kms\"."))

namespace EnvData

/-- The environments with which the worker starts, once the schema has accepted them. -/
def MayWork (data : EnvData) : Prop :=
  data.isMainnet = false
    ∨ (data.PRODUCTION_SETTLEMENT_ENABLED = true
      ∧ ((data.NODE_ENV = .production ∧ isBlank (some data.REDIS_URL) = false)
        ∨ (data.NODE_ENV = .staging ∧ (data.NGN_PROVIDER = .paystack
          → data.PAYSTACK_SECRET_KEY.startsWith "sk_test_" = false))))

theorem config_isMainnet (data : EnvData) : data.config.isMainnet = data.isMainnet := rfl

theorem Accepted.settlementSafe_iff {data : EnvData} (accepted : data.Accepted)
    : SettlementSafe data.config ↔ data.isMainnet = false
      ∨ (data.PRODUCTION_SETTLEMENT_ENABLED = true
        ∧ (data.NODE_ENV = .production
          ∨ (data.NODE_ENV = .staging ∧ (data.NGN_PROVIDER = .paystack
            → data.PAYSTACK_SECRET_KEY.startsWith "sk_test_" = false)))) := by
  constructor
  · intro safe
    cases main : data.isMainnet with
    | false => exact Or.inl rfl
    | true =>
        refine Or.inr ⟨safe.enabled.trans main, ?_⟩
        obtain production | staging := safe.environment main
        · exact Or.inl production
        · exact Or.inr ⟨staging, safe.paystack main⟩
  · rintro (test | ⟨enabled, placed⟩)
    · have disabled : data.PRODUCTION_SETTLEMENT_ENABLED = false := by
        by_contra on
        simp [accepted.mainnet (by simpa using on)] at test
      have other {P : Prop} (main : data.config.isMainnet = true) : P := by
        simp [config_isMainnet, test] at main
      exact ⟨disabled.trans test.symm, other, other, other, other, other, other⟩
    · have main := accepted.mainnet enabled
      constructor
      · exact enabled.trans main.symm
      · exact fun _ => placed.imp id And.left
      · exact fun _ => accepted.issuer main
      · exact fun _ => accepted.signer enabled
      · exact fun _ => accepted.kmsKey enabled
      · intro _ paystack
        obtain production | ⟨-, live⟩ := placed
        · exact accepted.paystack production paystack
        · exact live paystack
      · exact fun _ => accepted.governance enabled

/-- Where settlements may be sent, only a blank Redis address still keeps a production worker down.
-/
theorem Accepted.assertWorkerReadiness_of_safe {data : EnvData} (accepted : data.Accepted)
    (safe : SettlementSafe data.config)
    : if data.NODE_ENV = .production ∧ isBlank (some data.REDIS_URL) = true
      then ∃ error, assertWorkerReadiness data.config data.REDIS_URL = throw error
      else assertWorkerReadiness data.config data.REDIS_URL = pure () := by
  have passed : assertProductionSettlementSafety data.config = pure () := by
    obtain ⟨-, passed⟩ | ⟨barred, -⟩ := assertProductionSettlementSafety_cases data.config
    · exact passed
    · exact absurd safe barred
  have governed : assertContractGovernanceReadiness data.config = pure () := by
    apply if_neg
    rintro ⟨main | production, single⟩
    · exact safe.governance main single
    · exact safe.governance (accepted.network production) single
  unfold assertWorkerReadiness
  rw [passed, governed]
  by_cases production : data.NODE_ENV = .production
  · have main : data.config.isMainnet = true := accepted.network production
    have remote : data.config.stellar.signerProvider ≠ .testnet_local := safe.signer main
    have keyed : ¬(data.config.stellar.signerProvider = .aws_kms
        ∧ isBlank (some data.config.stellar.kmsKeyArn) = true) := by
      rintro ⟨aws, blank⟩
      simp [safe.kmsKey main aws] at blank
    have placed : data.config.env = .production := production
    simp only [placed, if_pos, throwIf_then, if_neg remote]
    by_cases blank : isBlank (some data.REDIS_URL) = true
    · rw [if_pos ⟨production, blank⟩, if_pos blank]
      exact ⟨_, rfl⟩
    · rw [if_neg (fun both => blank both.2), if_neg blank]
      exact if_neg keyed
  · rw [if_neg (fun both => production both.1)]
    have placed : ¬data.config.env = .production := production
    simp only [if_neg placed]
    rfl

/-- A worker whose environment the schema accepts starts on a test network, and on the main
network when settlements are enabled and the deployment is production with a Redis address or
staging without a test key of Paystack. Otherwise its start throws. By cases on whether the
deployment is safe to settle with.
-/
theorem worker_may_start (data : EnvData) (given : data.issues = [])
    : (data.MayWork → assertWorkerReadiness data.config data.REDIS_URL = pure ())
      ∧ (¬data.MayWork
        → ∃ error, assertWorkerReadiness data.config data.REDIS_URL = throw error) := by
  have accepted := accepted_of_issues given
  obtain ⟨safe, -⟩ | ⟨barred, error, thrown⟩ :=
    assertProductionSettlementSafety_cases data.config
  · have started := accepted.assertWorkerReadiness_of_safe safe
    have known := accepted.settlementSafe_iff.mp safe
    split at started
    · rename_i offline
      refine ⟨fun mayWork => ?_, fun _ => started⟩
      obtain test | ⟨-, ⟨-, online⟩ | ⟨staging, -⟩⟩ := mayWork
      · simp [accepted.network offline.1] at test
      · simp [online] at offline
      · simp [staging] at offline
    · rename_i online
      refine ⟨fun _ => started, fun refused => absurd ?_ refused⟩
      unfold MayWork
      obtain test | ⟨enabled, production | staging⟩ := known
      · exact Or.inl test
      · exact Or.inr ⟨enabled, Or.inl ⟨production, by simpa [production] using online⟩⟩
      · exact Or.inr ⟨enabled, Or.inr staging⟩
  · refine ⟨fun mayWork => absurd (accepted.settlementSafe_iff.mpr ?_) barred, fun _ => ⟨error, ?_⟩⟩
    · obtain test | ⟨enabled, ⟨production, -⟩ | staging⟩ := mayWork
      · exact Or.inl test
      · exact Or.inr ⟨enabled, Or.inl production⟩
      · exact Or.inr ⟨enabled, Or.inr staging⟩
    · unfold assertWorkerReadiness
      rw [thrown]
      rfl

theorem worker_may_start_production
    : assertWorkerReadiness productionWorker.config productionWorker.REDIS_URL = pure () :=
  (worker_may_start productionWorker (by decide +kernel)).1
    (Or.inr ⟨rfl, Or.inl ⟨rfl, by decide +kernel⟩⟩)

end EnvData

end LuminaRail
