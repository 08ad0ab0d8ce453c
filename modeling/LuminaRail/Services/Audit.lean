import LuminaRail.Json.Text
import LuminaRail.Model.Text

/-! `AuditService`: what is recorded about an action, without the credentials in its details. -/

namespace LuminaRail

variable {Number : Type}

/-- A JSON object, each of whose objects has different names in its own order. -/
structure JsonObject (Number : Type) where
  fields : List (String × Json Number)
  proper : Json.Proper (.object fields)

/-- The details of an action. -/
inductive Details (Number : Type) where
  | record (details : JsonObject Number)
  | text (details : String)

structure CreateAuditLogParams (Number : Type) where
  actor : Option String := none
  userId : Option String := none
  action : String
  resource : String
  resourceId : Option String := none
  details : Option (Details Number) := none
  ipAddress : Option String := none

structure AuditLog where
  actor : String
  userId : Option String
  action : String
  resource : String
  resourceId : Option String
  details : Option String
  ipAddress : Option String
deriving DecidableEq

def sensitiveKeys : List String :=
  ["password", "passwordhash", "password_hash", "token", "secret", "apikey", "api_key", "privatekey",
    "private_key", "seed", "seedphrase", "seed_phrase"]

/-- `SENSITIVE_KEYS.includes(key.toLowerCase())`. -/
def isSensitive (key : String) : Bool := sensitiveKeys.contains (toLowerCase key)

/-- What is recorded in place of a credential. -/
def redacted : Json Number := .string "[REDACTED]"

def sanitizeDetails [Numeral Number] (details : Option (Details Number)) : Option String :=
  match details with
  | none => none
  | some (.text details) => truthy (some details)
  | some (.record details) => do
      let cleaned ← Json.parseWith (fun key value => if isSensitive key then redacted else value)
        (Json.stringify (.object details.fields))
      some (Json.stringify (cleaned : Json Number))

namespace AuditService

/-- The row of an action. -/
def auditLog [Numeral Number] (params : CreateAuditLogParams Number) : AuditLog where
  actor := ((truthy params.actor).or (truthy params.userId)).getD "system"
  userId := params.userId
  action := params.action
  resource := params.resource
  resourceId := params.resourceId
  details := sanitizeDetails params.details
  ipAddress := params.ipAddress

/-- Whether the database takes the row is up to the environment, and no error is passed on. -/
def log [Numeral Number] (params : CreateAuditLogParams Number) (taken : Bool)
    (auditLogs : List AuditLog) : Option AuditLog × List AuditLog :=
  if taken then (some (auditLog params), auditLogs ++ [auditLog params]) else (none, auditLogs)

end AuditService

end LuminaRail
