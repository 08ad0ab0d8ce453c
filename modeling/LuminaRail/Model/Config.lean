import LuminaRail.Model.Decimal

/-! The part of the configuration that the modelled services read. -/

namespace LuminaRail

inductive NodeEnv
  | development
  | test
  | staging
  | production
deriving DecidableEq

inductive StellarNetwork
  | testnet
  | futurenet
  | «public»
  | mainnet
deriving DecidableEq

inductive SignerProvider
  | testnet_local
  | aws_kms
  | gcp_kms
  | fireblocks
deriving DecidableEq

inductive GovernanceType
  | single_key
  | multisig
  | dao
deriving DecidableEq

inductive NgnProviderMode
  | sandbox
  | paystack
deriving DecidableEq

structure RedisConfig where
  requireDistributedLocks : Bool := false
deriving DecidableEq

structure StellarSettings where
  network : StellarNetwork := .testnet
  usdcIssuer : String := ""
  usdcContractId : Option String := none
  settlementVaultContractId : String := ""
  signerPublicKey : Option String := none
  signerSecretKey : Option String := none
  signerProvider : SignerProvider := .testnet_local
  kmsKeyArn : String := ""
  contractAdminGovernanceType : GovernanceType := .single_key
deriving DecidableEq

/-- The limits, which `parseFloat` reads from decimal texts. Doubles are taken to be exact. -/
structure TreasuryConfig where
  maxSingleSettlementUsdc : Decimal := ⟨10000, 0⟩
  maxHourlyOutflowUsdc : Decimal := ⟨50000, 0⟩
  maxDailyOutflowUsdc : Decimal := ⟨200000, 0⟩
  minSettlementUsdc : Decimal := ⟨1, 0⟩
  emergencyGlobalPause : Bool := false
deriving DecidableEq

structure PaystackConfig where
  secretKey : String := ""
deriving DecidableEq

structure Config where
  env : NodeEnv := .development
  redis : RedisConfig := {}
  productionSettlementEnabled : Bool := false
  stellar : StellarSettings := {}
  treasury : TreasuryConfig := {}
  ngnProvider : NgnProviderMode := .sandbox
  paystack : PaystackConfig := {}
  ngnProviderSecretKey : String := ""
deriving DecidableEq

/-- `config.redis?.requireDistributedLocks || config.env === 'production'`. -/
def Config.requiresLocks (config : Config) : Bool :=
  config.redis.requireDistributedLocks || config.env == .production

/-- Payments go through Paystack. -/
def paystackConfig : Config := { ngnProvider := .paystack, paystack := { secretKey := "sk" } }

end LuminaRail
