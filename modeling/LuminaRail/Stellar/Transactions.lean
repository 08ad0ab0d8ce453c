import LuminaRail.Services.DistributedLock
import LuminaRail.Stellar.SettlementPolicyEngine

/-! `SorobanTransactionService`, its two signers, and the confirmation of what it has sent. A
transaction that the network accepts is observed, also when the answer to its sender is lost.
-/

namespace LuminaRail

open Service

structure SubmitSettlementParams where
  settlementId : String
  orderId : Id
  source : String
  destination : String
  amount : String
  asset : String
  contractAddress : Option String := none
  parentLock : Option DistributedLock := none

-----------------------------------------------------------------------------------------
-- Signers
-----------------------------------------------------------------------------------------

/-- The constructor of `TestnetLocalSigner`, which answers with its public key. -/
def testnetLocalSigner (sdk : StellarSdk) (config : Config) : Service String := do
  throwIf (config.env = .production)
    (.sorobanSignerConfig ("FATAL SECURITY VIOLATION: Local testnet signer is strictly forbidden "
      ++ "in production mode."))
  assertProductionSettlementSafety config
  match truthy config.stellar.signerSecretKey with
  | none =>
      throw (.sorobanSignerConfig "STELLAR_SETTLEMENT_SIGNER_SECRET_KEY is not configured.")
  | some rawSecret =>
      match sdk.publicKeyOf rawSecret with
      | none =>
          throw (.sorobanSignerConfig "Invalid Stellar settlement signer secret key format.")
      | some publicKey =>
          throwIf ((truthy config.stellar.signerPublicKey).any fun key => key ≠ publicKey)
            (.sorobanSignerConfig ("Configured STELLAR_SETTLEMENT_SIGNER_PUBLIC_KEY does not "
              ++ "match secret key."))
          pure publicKey

/-- `KmsTransactionSigner.getPublicKey`: the key that KMS holds, unless KMS fails. -/
def kmsGetPublicKey (sdk : StellarSdk) (config : Config) : Service String := do
  let keyArn := config.stellar.kmsKeyArn
  throwIf (isBlank (some keyArn))
    (.sorobanSignerConfig ("FATAL: STELLAR_KMS_KEY_ARN or AWS_KMS_SIGNING_KEY_ID is not "
      ++ "configured for AWS KMS signer provider."))
  external fun input =>
    if input.throws then
      some (.error (.sorobanSignerConfig
        s!"KMS GetPublicKey failed for KeyId '{keyArn}': {input.text}"), [])
    else
      some (.ok sdk.kmsPublicKey, [])

/-- `resolveTransactionSigner(...).getIdentity()`, of which the public key is used. -/
def signerPublicKey (sdk : StellarSdk) (config : Config) : Service String := do
  let provider := config.stellar.signerProvider
  throwIf ((config.env = .production ∨ config.isMainnet) ∧ provider = .testnet_local)
    (.sorobanSignerConfig ("FATAL: Local testnet signer cannot be used in production environment "
      ++ "or on public/mainnet networks."))
  match provider with
  | .aws_kms => kmsGetPublicKey sdk config
  | .gcp_kms =>
      throw (.sorobanSignerConfig ("Provider 'gcp_kms' is not yet implemented. Production "
        ++ "KMS/Custody SDK integration is deferred."))
  | .fireblocks =>
      throw (.sorobanSignerConfig ("Provider 'fireblocks' is not yet implemented. Production "
        ++ "KMS/Custody SDK integration is deferred."))
  | .testnet_local => testnetLocalSigner sdk config

/-- The signature of AWS KMS, which is verified against the public key. -/
def kmsSign (config : Config) : Service Unit :=
  external fun input =>
    if input.throws then
      some (.error (.sorobanSubmission
        s!"AWS KMS SignCommand failed for KeyId '{config.stellar.kmsKeyArn}': {input.text}"), [])
    else
      match input.reply with
      | .signature true => some (.ok (), [])
      | .signature false =>
          some (.error (.sorobanSignerConfig ("FATAL: KMS signature failed local cryptographic "
            ++ "verification against public key.")), [])
      | _ => none

/-- `signer.signTransaction`: the policy first, then the signature. -/
def signTransaction (sdk : StellarSdk) (config : Config) (request : SignTransactionRequest)
    : Service String := do
  SettlementPolicyEngine.validateAndApprove sdk config request
  throwIf (sdk.fromXDR request.unsignedTransactionXdr config.stellar.network.passphrase).isNone
    (.sorobanSubmission "Failed to parse unsigned transaction XDR envelope.")
  let publicKey ← signerPublicKey sdk config
  if config.stellar.signerProvider = .aws_kms then
    kmsSign config
  pure (sdk.signXDR request.unsignedTransactionXdr publicKey)

-----------------------------------------------------------------------------------------
-- Building and sending
-----------------------------------------------------------------------------------------

namespace SorobanTransactionService

/-- The sequence number of the signer's account. -/
def getAccount (signerPublicKey : String) : Service String :=
  external fun input =>
    if input.throws then
      some (.error (.sorobanSubmission
        s!"Failed to fetch account sequence for signer address {signerPublicKey}."), [])
    else
      some (.ok input.text, [])

def simulateTransaction : Service Unit :=
  external fun input =>
    if input.throws then
      some (.error (.stellarRpc "Failed to simulate Soroban transaction."), [])
    else
      match input.reply with
      | .simulationError error =>
          some (.error (.sorobanSimulation s!"Soroban transaction simulation error: {error}"), [])
      | .simulationFailure =>
          some (.error (.sorobanSimulation
            "Soroban transaction simulation failed to execute successfully."), [])
      | .simulationSuccess => some (.ok (), [])
      | _ => none

def buildUnsignedSettlementTransaction (sdk : StellarSdk) (config : Config)
    (params : SubmitSettlementParams) : Service SignTransactionRequest := do
  assertProductionSettlementSafety config
  let contractId := (truthy params.contractAddress).getD config.stellar.settlementVaultContractId
  throwIf (isBlank (some contractId))
    (.sorobanContractConfig "Soroban Settlement Vault Contract ID is not configured.")
  let signerPublicKey ← signerPublicKey sdk config
  let sequence ← getAccount signerPublicKey
  match parseAmountToStroops params.amount with
  | none => throw ⟨s!"Cannot convert {params.amount} to a BigInt", 500, ""⟩
  | some amountStroops =>
      let sourceAddress :=
        if params.source = "" ∨ params.source = "LUMINA_TREASURY" then signerPublicKey
        else params.source
      throwIf (sdk.isValidEd25519PublicKey sourceAddress = false)
        (.sorobanSubmission s!"Invalid source Stellar address: {sourceAddress}")
      throwIf (params.destination = "" ∨ sdk.isValidEd25519PublicKey params.destination = false)
        (.sorobanSubmission s!"Invalid destination Stellar address: {params.destination}")
      let assetAddress ←
        if params.asset ≠ "" ∧ sdk.isValidContract params.asset then pure params.asset
        else usdcContractId config
      throwIf (sdk.isValidContract contractId = false)
        ⟨s!"Invalid contract ID: {contractId}", 500, ""⟩
      throwIf (sdk.isAddress assetAddress = false)
        ⟨s!"Unsupported address type: {assetAddress}", 500, ""⟩
      let settlementId := parseSettlementIdToU64 params.settlementId
      simulateTransaction
      pure
        { unsignedTransactionXdr := sdk.toXDR
            { passphrase := config.stellar.network.passphrase
              signer := signerPublicKey
              sequence := sequence
              contractId := contractId
              settlementId := settlementId
              source := sourceAddress
              destination := params.destination
              asset := assetAddress
              amount := amountStroops }
          context :=
            { settlementId := params.settlementId
              orderId := params.orderId
              expectedSource := sourceAddress
              expectedDestination := params.destination
              expectedAmountStroops := amountStroops
              expectedAssetContract := assetAddress
              expectedVaultContract := contractId } }

/-- `sorobanClient.sendTransaction`: an accepted transaction of an order is broadcast. -/
def sendTransaction (orderId : Id) : Service String :=
  external fun input =>
    match input.reply with
    | .sent true _ =>
        some (.error (.sorobanSubmission
          "Soroban RPC rejected transaction submission with status ERROR."), [])
    | .sent false hash => some (.ok hash, [.broadcast orderId hash])
    | .sendLost accepted =>
        some (.error (.stellarRpc "Failed to submit Soroban transaction."),
          accepted.toList.map fun hash => .broadcast orderId hash)
    | _ => none

def submitSignedSettlementTransaction (sdk : StellarSdk) (config : Config) (orderId : Id)
    (signedTransactionXdr : String) : Service String := do
  throwIf (sdk.fromXDR signedTransactionXdr config.stellar.network.passphrase).isNone
    ⟨"XDR Read Error", 500, ""⟩
  sendTransaction orderId

/-- `executeUnderLock`. -/
def executeUnderLock (sdk : StellarSdk) (config : Config) (params : SubmitSettlementParams)
    : Service String := do
  let prepared ← buildUnsignedSettlementTransaction sdk config params
  let signedTransactionXdr ← signTransaction sdk config prepared
  DistributedLock.throwIfLost params.parentLock (.sorobanSubmission
    ("Parent settlement lock was lost after KMS signing; aborting Soroban RPC submission."))
  submitSignedSettlementTransaction sdk config params.orderId signedTransactionXdr

/-- The sequence lock of the signer, polled for if it is taken. -/
def acquireSequenceLock (config : Config) (key : String) : Service (Option DistributedLock) := do
  match ← DistributedLockService.acquire config key with
  | some lock => pure (some lock)
  | none => DistributedLockService.poll config key (← attempts)

def buildAndSubmitSettlementTransaction (sdk : StellarSdk) (config : Config)
    (params : SubmitSettlementParams) : Service String := do
  assertProductionSettlementSafety config
  let publicKey ← signerPublicKey sdk config
  let sequenceLockKey := s!"lock:stellar:sequence:{publicKey}"
  match ← acquireSequenceLock config sequenceLockKey with
  | none =>
      throwIf config.requiresLocks (.sorobanSubmission
        s!"Failed to acquire required Stellar sequence lock for key {sequenceLockKey}")
      executeUnderLock sdk config params
  | some seqLock =>
      finally' (do
        DistributedLock.throwIfLost (some seqLock)
          (.sorobanSubmission "Stellar sequence lock lost before building transaction.")
        executeUnderLock sdk config params) (DistributedLock.release (some seqLock))

end SorobanTransactionService

-----------------------------------------------------------------------------------------
-- Confirming
-----------------------------------------------------------------------------------------

/-- `SettlementStatusResult`; no answer of the network leads to `PENDING`. -/
structure SettlementStatusResult where
  status : GetTransactionStatus
  ledger : Option Nat := none
  error : Option String := none

structure SettlementConfirmationResult where
  confirmed : Bool
  ledger : Option Nat := none
  error : Option String := none

namespace SorobanConfirmationService

/-- What the network answers is observed; an exception is reported as a failed transaction. -/
def getTransactionStatus (config : Config) (txHash : String)
    : Service SettlementStatusResult := do
  if config.isMainnet ∧ config.env ≠ .production ∧ config.env ≠ .staging then
    pure ⟨.FAILED, none, some (s!"Mainnet operations are strictly prohibited during {config.env} "
      ++ "environment development. Set STELLAR_NETWORK=testnet.")⟩
  else
    external fun input =>
      if input.throws then
        some (.ok ⟨.FAILED, none,
          some s!"Failed to fetch Soroban transaction info for {txHash}."⟩, [])
      else
        match input.reply with
        | .transactionStatus .SUCCESS ledger =>
            some (.ok ⟨.SUCCESS, some ledger, none⟩, [.statusAnswered txHash .SUCCESS])
        | .transactionStatus .FAILED ledger =>
            some (.ok ⟨.FAILED, some ledger, some "Transaction failed during on-chain execution."⟩,
              [.statusAnswered txHash .FAILED])
        | .transactionStatus .NOT_FOUND _ =>
            some (.ok ⟨.NOT_FOUND, none, none⟩, [.statusAnswered txHash .NOT_FOUND])
        | _ => none

/-- The rounds of `confirmTransaction` that are left. -/
def confirmRounds (config : Config) (txHash : String)
    : Nat → Service SettlementConfirmationResult
  | 0 => pure ⟨false, none, some "Transaction confirmation timed out after 10 attempts."⟩
  | rounds + 1 => do
      let statusResult ← getTransactionStatus config txHash
      match statusResult.status with
      | .SUCCESS => pure ⟨true, statusResult.ledger, none⟩
      | .FAILED =>
          pure ⟨false, none, some ((truthy statusResult.error).getD
            "Transaction execution failed on Stellar network.")⟩
      | .NOT_FOUND => confirmRounds config txHash rounds

def confirmTransaction (config : Config) (txHash : String)
    : Service SettlementConfirmationResult :=
  confirmRounds config txHash 10

end SorobanConfirmationService

structure SettlementExecutionResult where
  submitted : Bool
  transactionHash : Option String := none
  error : Option String := none

namespace LiveSettlementExecutor

def submitSettlement (sdk : StellarSdk) (config : Config) (params : SubmitSettlementParams)
    : Service SettlementExecutionResult :=
  tryCatch (do
    let transactionHash ←
      SorobanTransactionService.buildAndSubmitSettlementTransaction sdk config params
    pure ⟨true, some transactionHash, none⟩) fun error =>
      pure ⟨false, none, some error.message⟩

end LiveSettlementExecutor

end LuminaRail
