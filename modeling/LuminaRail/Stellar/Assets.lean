import LuminaRail.Stellar.Configuration
import LuminaRail.Stellar.Sdk

/-! `StellarAssetService` and `StellarBalanceService`: how the assets of an account are named, and
which of them are accepted. On the ledger two codes that differ in case are different assets, and so
are pool shares of different pools.
-/

namespace LuminaRail

inductive AssetType
  | native
  | credit_alphanum4
  | credit_alphanum12
deriving DecidableEq

structure NormalizedAsset where
  type : AssetType
  code : String
  issuer : Option String
  network : StellarNetwork
deriving DecidableEq

namespace StellarAssetService

variable (sdk : StellarSdk) (config : Config)

def isNativeCode (cleanCode : String) : Prop := cleanCode = "XLM" ∨ cleanCode = "NATIVE"

instance (cleanCode : String) : Decidable (isNativeCode cleanCode) :=
  inferInstanceAs (Decidable (_ ∨ _))

def validateAssetIdentifier (code : String) (issuer : Option String) : Bool :=
  if code = "" then
    false
  else
    let cleanCode := trim (toUpperCase code)
    if isNativeCode cleanCode then
      true
    else if utf16Length cleanCode < 1 ∨ 12 < utf16Length cleanCode then
      false
    else
      (truthy issuer).any sdk.isValidEd25519PublicKey

def normalizeAsset (code : String) (issuer : Option String) : Except AppError NormalizedAsset :=
  let cleanCode := trim (toUpperCase code)
  if isNativeCode cleanCode then
    .ok { type := .native, code := "XLM", issuer := none, network := config.stellar.network }
  else if validateAssetIdentifier sdk cleanCode issuer then
    .ok
      { type := if utf16Length cleanCode ≤ 4 then .credit_alphanum4 else .credit_alphanum12
        code := cleanCode
        issuer := issuer
        network := config.stellar.network }
  else
    .error ⟨"Invalid Stellar asset representation. Code: '" ++ code ++ "', Issuer: '"
      ++ (truthy issuer).getD "none" ++ "'", 400, "STELLAR_INVALID_ASSET"⟩

def isAllowlistedAsset (code : String) (issuer : Option String) : Bool :=
  match normalizeAsset sdk config code issuer with
  | .error _ => false
  | .ok normalized =>
      normalized.type = .native
        || normalized.code = "USDC" && normalized.issuer = some config.stellar.usdcIssuer

end StellarAssetService

/-- A credit asset of the ledger: anyone may issue one under any code of up to twelve letters and
digits.
-/
@[ext]
structure CreditAsset (sdk : StellarSdk) where
  code : String
  issuer : String
  nonempty : code ≠ ""
  short : code.length ≤ 12
  alphanumeric : ∀ c ∈ code.toList, c.isAlphanum = true
  named : issuer ≠ ""
  valid : sdk.isValidEd25519PublicKey issuer = true
deriving DecidableEq

/-- What a trust line of an account may be for. -/
inductive LedgerAsset (sdk : StellarSdk)
  | native
  | credit (asset : CreditAsset sdk)
  | liquidityPoolShares (poolId : String)
deriving DecidableEq

/-- A balance line of Horizon. -/
structure BalanceLine (sdk : StellarSdk) where
  asset : LedgerAsset sdk
  balance : String
  limit : Option String := none
  buying_liabilities : Option String := none
  selling_liabilities : Option String := none

structure NormalizedStellarBalance where
  assetType : AssetType
  assetCode : String
  assetIssuer : Option String
  balance : String
  limit : Option String := none
  buyingLiabilities : Option String := none
  sellingLiabilities : Option String := none
deriving DecidableEq

namespace StellarBalanceService

variable (sdk : StellarSdk) (config : Config)

def normalizeBalance (b : BalanceLine sdk) : Except AppError NormalizedStellarBalance :=
  match b.asset with
  | .native => do
      let normalizedAsset ← StellarAssetService.normalizeAsset sdk config "XLM" none
      pure
        { assetType := normalizedAsset.type
          assetCode := normalizedAsset.code
          assetIssuer := none
          balance := b.balance
          buyingLiabilities := b.buying_liabilities
          sellingLiabilities := b.selling_liabilities }
  | .credit asset => do
      let normalizedAsset ←
        StellarAssetService.normalizeAsset sdk config asset.code (some asset.issuer)
      pure
        { assetType := normalizedAsset.type
          assetCode := normalizedAsset.code
          assetIssuer := normalizedAsset.issuer
          balance := b.balance
          limit := b.limit
          buyingLiabilities := b.buying_liabilities
          sellingLiabilities := b.selling_liabilities }
  | .liquidityPoolShares _ =>
      pure
        { assetType := .credit_alphanum4
          assetCode := "UNKNOWN"
          assetIssuer := none
          balance := b.balance }

def normalizeBalances (horizonBalances : List (BalanceLine sdk))
    : Except AppError (List NormalizedStellarBalance) :=
  horizonBalances.mapM (normalizeBalance sdk config)

end StellarBalanceService

end LuminaRail
