import LuminaRail.Model.Config
import LuminaRail.Model.World

/-! What the configuration must satisfy before a settlement is built or signed. -/

namespace LuminaRail

open Service

def StellarNetwork.toString : StellarNetwork → String
  | .testnet => "testnet"
  | .futurenet => "futurenet"
  | .public => "public"
  | .mainnet => "mainnet"

instance : ToString StellarNetwork := ⟨StellarNetwork.toString⟩

def NodeEnv.toString : NodeEnv → String
  | .development => "development"
  | .test => "test"
  | .staging => "staging"
  | .production => "production"

instance : ToString NodeEnv := ⟨NodeEnv.toString⟩

def STELLAR_MAINNET_USDC_ISSUER : String :=
  "GA5ZSEJYB37JRC5AVCIA5MOP4RHTM335X2KGX3IHOJAPP5RE34K4KZVN"

/-- `getNetworkPassphrase`. -/
def StellarNetwork.passphrase : StellarNetwork → String
  | .public | .mainnet => "Public Global Stellar Network ; September 2015"
  | .futurenet => "Test SDF Future Network ; October 2022"
  | .testnet => "Test SDF Network ; September 2015"

def Config.isMainnet (config : Config) : Bool :=
  config.stellar.network = .public || config.stellar.network = .mainnet

def assertContractGovernanceReadiness (config : Config) : Service Unit :=
  throwIf ((config.isMainnet ∨ config.env = .production)
      ∧ config.stellar.contractAdminGovernanceType = .single_key)
    (.sorobanSignerConfig ("FATAL SECURITY VIOLATION: Soroban smart contract admin cannot be "
      ++ "single_key in production mainnet mode. Admin must be multisig or dao governance "
      ++ "address."))

def assertProductionSettlementSafety (config : Config) : Service Unit :=
  let currentNetwork := config.stellar.network
  if config.isMainnet then do
    throwIf (config.productionSettlementEnabled = false)
      (.stellarNetwork (s!"Live settlement submission refused: STELLAR_NETWORK is "
        ++ s!"'{currentNetwork}', but PRODUCTION_SETTLEMENT_ENABLED is false. Operations fail "
        ++ "closed."))
    throwIf (config.env ≠ .production ∧ config.env ≠ .staging)
      (.stellarNetwork (s!"Mainnet settlement submission refused: NODE_ENV is '{config.env}'. "
        ++ "Mainnet requires 'production' or 'staging'."))
    throwIf (config.stellar.usdcIssuer ≠ STELLAR_MAINNET_USDC_ISSUER)
      (.stellarNetwork ("Mainnet settlement safety violation: STELLAR_USDC_ISSUER is set to "
        ++ s!"'{config.stellar.usdcIssuer}', expected Circle Mainnet Issuer "
        ++ s!"'{STELLAR_MAINNET_USDC_ISSUER}'."))
    throwIf (config.stellar.signerProvider = .testnet_local)
      (.sorobanSignerConfig ("FATAL SECURITY VIOLATION: Local testnet signer (testnet_local) is "
        ++ "strictly forbidden for mainnet settlement submission."))
    throwIf (config.stellar.signerProvider = .aws_kms ∧ isBlank (some config.stellar.kmsKeyArn))
      (.sorobanSignerConfig ("FATAL SECURITY VIOLATION: AWS KMS signer key ARN "
        ++ "(STELLAR_KMS_KEY_ARN or AWS_KMS_SIGNING_KEY_ID) is required for mainnet settlement."))
    throwIf (config.ngnProvider = .paystack ∧ config.paystack.secretKey.startsWith "sk_test_")
      (.stellarNetwork ("Mainnet settlement safety violation: Paystack test key (sk_test_...) "
        ++ "cannot be used for production mainnet settlement."))
    assertContractGovernanceReadiness config
  else
    throwIf config.productionSettlementEnabled
      (.stellarNetwork ("Production settlement safety violation: PRODUCTION_SETTLEMENT_ENABLED is "
        ++ s!"true, but STELLAR_NETWORK is set to '{currentNetwork}'. Operations fail closed."))

/-- `stellarConfig.usdcContractId`. -/
def usdcContractId (config : Config) : Service String :=
  match truthy config.stellar.usdcContractId with
  | some contractId => pure contractId
  | none =>
      throw ⟨"STELLAR_USDC_CONTRACT_ID is required for Soroban USDC operations", 500, ""⟩

end LuminaRail
