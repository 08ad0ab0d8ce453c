/-! The errors that the services throw, with the HTTP status and the code of their classes. -/

namespace LuminaRail

/-- An `AppError`, or an exception of a library, of which only the message is known. -/
structure AppError where
  message : String
  statusCode : Nat := 500
  errorCode : String := "INTERNAL_SERVER_ERROR"
deriving DecidableEq

namespace AppError

def badRequest (message : String) : AppError := ⟨message, 400, "BAD_REQUEST"⟩

def forbidden (message : String) : AppError := ⟨message, 403, "FORBIDDEN"⟩

def notFound (message : String) : AppError := ⟨message, 404, "NOT_FOUND"⟩

def conflict (message : String) : AppError := ⟨message, 409, "CONFLICT"⟩

def provider (message : String) : AppError := ⟨message, 502, "PROVIDER_ERROR"⟩

def paymentNotFound (identifier : String) : AppError :=
  ⟨s!"Payment not found: {identifier}", 404, "PAYMENT_NOT_FOUND"⟩

def invalidPaymentState (message : String) : AppError :=
  ⟨message, 400, "INVALID_PAYMENT_STATE"⟩

def webhookVerification (message : String) : AppError :=
  ⟨message, 400, "WEBHOOK_VERIFICATION_FAILED"⟩

def settlementNotFound (identifier : String) : AppError :=
  ⟨s!"Settlement not found: {identifier}", 404, "SETTLEMENT_NOT_FOUND"⟩

def invalidSettlementState (message : String) : AppError :=
  ⟨message, 400, "INVALID_SETTLEMENT_STATE"⟩

def invalidOrderStateForSettlement (status : String) : AppError :=
  ⟨s!"Order status '{status}' is invalid for settlement creation. Must be SETTLEMENT_PENDING.",
    400, "INVALID_ORDER_STATE_FOR_SETTLEMENT"⟩

def stellarNetwork (message : String) : AppError := ⟨message, 502, "STELLAR_NETWORK_ERROR"⟩

def stellarRpc (message : String) : AppError := ⟨message, 502, "STELLAR_RPC_ERROR"⟩

def sorobanSimulation (message : String) : AppError :=
  ⟨message, 400, "SOROBAN_SIMULATION_FAILED"⟩

def sorobanSubmission (message : String) : AppError :=
  ⟨message, 502, "SOROBAN_SUBMISSION_FAILED"⟩

def sorobanSignerConfig (message : String) : AppError :=
  ⟨message, 500, "SOROBAN_SIGNER_CONFIG_ERROR"⟩

def sorobanContractConfig (message : String) : AppError :=
  ⟨message, 500, "SOROBAN_CONTRACT_CONFIG_ERROR"⟩

def refundNotFound (identifier : String) : AppError :=
  ⟨s!"Refund not found: {identifier}", 404, "REFUND_NOT_FOUND"⟩

def invalidRefundState (message : String) : AppError :=
  ⟨message, 400, "INVALID_REFUND_STATE"⟩

/-- `PrismaClientKnownRequestError` P2002: a unique column already has the value. -/
def uniqueConstraint : AppError := ⟨"Unique constraint failed", 500, "P2002"⟩

/-- `PrismaClientKnownRequestError` P2025: there is no row to update. -/
def recordNotFound : AppError := ⟨"Record to update not found.", 500, "P2025"⟩

/-- The transaction has timed out or was aborted by a failed statement. -/
def transactionClosed : AppError := ⟨"Transaction already closed", 500, "P2028"⟩

/-- The connection to the database or the transaction has been lost. -/
def Unavailable (error : AppError) : Prop := error.errorCode = "P1001" ∨ error = transactionClosed

end AppError

end LuminaRail
