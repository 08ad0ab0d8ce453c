import LuminaRail.Model.World

/-! The part of the Stellar SDK that the settlement code uses, as a parameter. -/

namespace LuminaRail

/-- What the SDK makes of an argument of a contract call: a number by `BigInt(scValToNative(v))`
and an address by `Address.fromScVal(v)`, `none` where it throws.
-/
structure ScVal where
  number : Option Int := none
  address : Option String := none
deriving DecidableEq

inductive HostFunction
  | invokeContract (contractAddress functionName : String) (args : List ScVal)
  | other
deriving DecidableEq

inductive StellarOperation
  | invokeHostFunction (function : HostFunction)
  | other
deriving DecidableEq

/-- A decoded transaction. -/
structure StellarTransaction where
  networkPassphrase : String
  operations : List StellarOperation
deriving DecidableEq

/-- The transaction that is built for a settlement. -/
structure SettlementTransaction where
  passphrase : String
  signer : String
  sequence : String
  contractId : String
  settlementId : Nat
  source : String
  destination : String
  asset : String
  amount : Int
deriving DecidableEq

structure StellarSdk where
  /-- `TransactionBuilder.fromXDR(xdr, passphrase)`, `none` where it throws. -/
  fromXDR : (xdr passphrase : String) → Option StellarTransaction
  toXDR : SettlementTransaction → String
  /-- The envelope with a signature of a public key. -/
  signXDR : (xdr publicKey : String) → String
  isValidEd25519PublicKey : String → Bool
  isValidContract : String → Bool
  /-- The public key of a secret key, `none` where it is malformed. -/
  publicKeyOf : String → Option String
  /-- The public key that AWS KMS holds. -/
  kmsPublicKey : String

/-- `new Address(text)` does not throw. -/
def StellarSdk.isAddress (sdk : StellarSdk) (text : String) : Bool :=
  sdk.isValidEd25519PublicKey text || sdk.isValidContract text

structure AuthorizationPolicyContext where
  settlementId : String
  orderId : Id
  expectedSource : String
  expectedDestination : String
  expectedAmountStroops : Int
  expectedAssetContract : String
  expectedVaultContract : String
deriving DecidableEq

structure SignTransactionRequest where
  unsignedTransactionXdr : String
  context : AuthorizationPolicyContext
deriving DecidableEq

end LuminaRail
