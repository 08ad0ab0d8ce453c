import LuminaRail.Json.RoundTrip
import LuminaRail.Services.Audit

/-! The audit log has the details of an action with exactly the values under sensitive names
replaced, so that these values cannot be told from it.
-/

namespace LuminaRail

variable {Number : Type}

-----------------------------------------------------------------------------------------
-- Redacted values
-----------------------------------------------------------------------------------------

mutual
/-- A value with what its objects have under sensitive names replaced. -/
def redact : Json Number → Json Number
  | .array items => .array (redactItems items)
  | .object fields => .object (redactFields fields)
  | .null => .null
  | .bool value => .bool value
  | .number value => .number value
  | .string text => .string text

def redactItems : List (Json Number) → List (Json Number)
  | [] => []
  | item :: items => redact item :: redactItems items

def redactFields : List (String × Json Number) → List (String × Json Number)
  | [] => []
  | (name, value) :: fields =>
      (name, if isSensitive name then redacted else redact value) :: redactFields fields
end

mutual
/-- Values that are equal except for what their objects have under sensitive names. -/
inductive Alike : Json Number → Json Number → Prop
  | null : Alike .null .null
  | bool (value : Bool) : Alike (.bool value) (.bool value)
  | number (value : Number) : Alike (.number value) (.number value)
  | string (text : String) : Alike (.string text) (.string text)
  | array {items others : List (Json Number)} (pairwise : AlikeItems items others)
      : Alike (.array items) (.array others)
  | object {fields others : List (String × Json Number)} (pairwise : AlikeFields fields others)
      : Alike (.object fields) (.object others)

inductive AlikeItems : List (Json Number) → List (Json Number) → Prop
  | nil : AlikeItems [] []
  | cons {item other : Json Number} {items others : List (Json Number)}
      (first : Alike item other) (later : AlikeItems items others)
      : AlikeItems (item :: items) (other :: others)

inductive AlikeFields : List (String × Json Number) → List (String × Json Number) → Prop
  | nil : AlikeFields [] []
  | cons {name : String} {value other : Json Number} {fields others : List (String × Json Number)}
      (first : isSensitive name = false → Alike value other) (later : AlikeFields fields others)
      : AlikeFields ((name, value) :: fields) ((name, other) :: others)
end

mutual
theorem redact_eq_of_alike {value other : Json Number} (alike : Alike value other)
    : redact value = redact other := by
  cases alike with
  | null | bool _ | number _ | string _ => rfl
  | array pairwise => rw [redact, redact, redactItems_eq_of_alike pairwise]
  | object pairwise => rw [redact, redact, redactFields_eq_of_alike pairwise]

theorem redactItems_eq_of_alike {items others : List (Json Number)}
    (alike : AlikeItems items others)
    : redactItems items = redactItems others := by
  cases alike with
  | nil => rfl
  | cons first later =>
      rw [redactItems, redactItems, redact_eq_of_alike first, redactItems_eq_of_alike later]

theorem redactFields_eq_of_alike {fields others : List (String × Json Number)}
    (alike : AlikeFields fields others)
    : redactFields fields = redactFields others := by
  cases alike with
  | nil => rfl
  | @cons name _ _ _ _ first later =>
      rw [redactFields, redactFields, redactFields_eq_of_alike later]
      cases plain : isSensitive name with
      | true => rfl
      | false => rw [redact_eq_of_alike (first plain)]
end

mutual
theorem alike_of_redact_eq {value other : Json Number} (same : redact value = redact other)
    : Alike value other := by
  cases value with
  | null => cases other <;> first | exact .null | simp [redact] at same
  | bool value =>
      cases other with
      | bool other =>
          simp only [redact, Json.bool.injEq] at same
          exact same ▸ .bool value
      | null | number _ | string _ | array _ | object _ => simp [redact] at same
  | number value =>
      cases other with
      | number other =>
          simp only [redact, Json.number.injEq] at same
          exact same ▸ .number value
      | null | bool _ | string _ | array _ | object _ => simp [redact] at same
  | string text =>
      cases other with
      | string other =>
          simp only [redact, Json.string.injEq] at same
          exact same ▸ .string text
      | null | bool _ | number _ | array _ | object _ => simp [redact] at same
  | array items =>
      cases other with
      | array others =>
          simp only [redact, Json.array.injEq] at same
          exact .array (alikeItems_of_redactItems_eq same)
      | null | bool _ | number _ | string _ | object _ => simp [redact] at same
  | object fields =>
      cases other with
      | object others =>
          simp only [redact, Json.object.injEq] at same
          exact .object (alikeFields_of_redactFields_eq same)
      | null | bool _ | number _ | string _ | array _ => simp [redact] at same
termination_by sizeOf value

theorem alikeItems_of_redactItems_eq {items others : List (Json Number)}
    (same : redactItems items = redactItems others)
    : AlikeItems items others := by
  cases items with
  | nil => cases others <;> first | exact .nil | simp [redactItems] at same
  | cons item items =>
      cases others with
      | nil => simp [redactItems] at same
      | cons other others =>
          obtain ⟨first, later⟩ := List.cons.inj same
          exact .cons (alike_of_redact_eq first) (alikeItems_of_redactItems_eq later)
termination_by sizeOf items

theorem alikeFields_of_redactFields_eq {fields others : List (String × Json Number)}
    (same : redactFields fields = redactFields others)
    : AlikeFields fields others := by
  cases fields with
  | nil => cases others <;> first | exact .nil | simp [redactFields] at same
  | cons field fields =>
      cases others with
      | nil => simp [redactFields] at same
      | cons other others =>
          cases field with
          | mk name value =>
              obtain ⟨first, later⟩ := List.cons.inj same
              obtain ⟨rfl, stored⟩ := Prod.mk.inj first
              refine .cons (fun plain => alike_of_redact_eq ?_) (alikeFields_of_redactFields_eq later)
              rwa [plain] at stored
termination_by sizeOf fields
end

/-- Values are redacted to the same value exactly if they are alike. -/
theorem redact_eq_iff {value other : Json Number} : redact value = redact other ↔ Alike value other :=
  ⟨alike_of_redact_eq, redact_eq_of_alike⟩

theorem map_fst_redactFields (fields : List (String × Json Number))
    : (redactFields fields).map Prod.fst = fields.map Prod.fst := by
  induction fields with
  | nil => rfl
  | cons field fields ih => rw [redactFields, List.map_cons, List.map_cons, ih]

mutual
theorem proper_redact {value : Json Number} (proper : value.Proper) : (redact value).Proper := by
  cases value with
  | null | bool _ | number _ | string _ => exact trivial
  | array items => exact properItems_redact proper
  | object fields =>
      refine ⟨?_, properFields_redact proper.2⟩
      rw [map_fst_redactFields]
      exact proper.1
termination_by sizeOf value

theorem properItems_redact {items : List (Json Number)} (proper : Json.ProperItems items)
    : Json.ProperItems (redactItems items) := by
  cases items with
  | nil => exact trivial
  | cons item items => exact ⟨proper_redact proper.1, properItems_redact proper.2⟩
termination_by sizeOf items

theorem properFields_redact {fields : List (String × Json Number)}
    (proper : Json.ProperFields fields)
    : Json.ProperFields (redactFields fields) := by
  cases fields with
  | nil => exact trivial
  | cons field fields =>
      cases field with
      | mk name value =>
          refine ⟨?_, properFields_redact proper.2⟩
          cases plain : isSensitive name with
          | true => exact trivial
          | false => exact proper_redact proper.1
termination_by sizeOf fields
end

-----------------------------------------------------------------------------------------
-- Reviving
-----------------------------------------------------------------------------------------

/-- The name of an array item is not sensitive. -/
theorem isSensitive_index (index : Nat) : isSensitive (toString index) = false := by
  have worded : ∀ key ∈ sensitiveKeys, key.toList.all Char.isDigit = false := by decide
  have digits : (toLowerCase (toString index)).toList.all Char.isDigit := by
    rw [toLowerCase, String.toList_ofList, List.all_map, List.all_eq_true]
    intro c member
    rw [Nat.toString_eq_repr, Nat.toList_repr] at member
    have digit := Nat.isDigit_of_mem_toDigits (by omega) (by omega) member
    have bounds : 48 ≤ c.toNat ∧ c.toNat ≤ 57 := by
      simpa [Char.isDigit, UInt32.le_iff_toNat_le] using digit
    have arabic : c ≠ Char.ofNat 0x212A := by
      rintro rfl
      exact absurd digit (by decide)
    have caseless : c.toLower = c := by
      unfold Char.toLower
      rw [dif_neg]
      simp [UInt32.le_iff_toNat_le]
      omega
    rw [Function.comp_apply, if_neg arabic, caseless]
    exact digit
  rw [isSensitive, Bool.eq_false_iff]
  intro listed
  rw [worded _ (List.contains_iff_mem.mp listed)] at digits
  exact Bool.noConfusion digits

/-- The reviver of the audit log. -/
def redactor (key : String) (value : Json Number) : Json Number :=
  if isSensitive key then redacted else value

mutual
/-- What the reviver leaves of a value, although it has been at the parts of a sensitive value
before.
-/
theorem internalize_redactor (name : String) (value : Json Number)
    : Json.internalize redactor name value = redactor name (redact value) := by
  cases value with
  | null | bool _ | number _ | string _ => rfl
  | array items => rw [Json.internalize, internalizeItems_redactor, redact]
  | object fields => rw [Json.internalize, internalizeFields_redactor, redact]
termination_by sizeOf value

theorem internalizeItems_redactor (index : Nat) (items : List (Json Number))
    : Json.internalizeItems redactor index items = redactItems items := by
  cases items with
  | nil => rfl
  | cons item items =>
      rw [Json.internalizeItems, internalize_redactor, internalizeItems_redactor, redactor,
        isSensitive_index, redactItems]
      rfl
termination_by sizeOf items

theorem internalizeFields_redactor (fields : List (String × Json Number))
    : Json.internalizeFields redactor fields = redactFields fields := by
  cases fields with
  | nil => rfl
  | cons field fields =>
      cases field with
      | mk name value =>
          rw [Json.internalizeFields, internalize_redactor, internalizeFields_redactor,
            redactFields, redactor]
termination_by sizeOf fields
end

theorem sanitizeDetails_record [Numeral Number] (details : JsonObject Number)
    : sanitizeDetails (some (.record details))
      = some (redact (.object details.fields)).stringify := by
  have revived : Json.parseWith redactor (Json.stringify (.object details.fields))
      = some (redact (.object details.fields)) := by
    rw [Json.parseWith, Json.parse_stringify details.proper, Option.map_some, internalize_redactor]
    rfl
  show (Json.parseWith redactor _).bind _ = _
  rw [revived]
  rfl

/-- What is written about two JSON objects is the same exactly if they are equal except for the
values under sensitive names, and it is read as the object with these values replaced. By the
round trip of the printed objects.
-/
theorem audit_log_redacted [Numeral Number] (params : CreateAuditLogParams Number)
    (first second : JsonObject Number)
    : ((∀ taken auditLogs,
        AuditService.log { params with details := some (.record first) } taken auditLogs
          = AuditService.log { params with details := some (.record second) } taken auditLogs)
        ↔ Alike (.object first.fields) (.object second.fields))
      ∧ ∀ auditLogs, ∃ auditLog written,
        AuditService.log { params with details := some (.record first) } true auditLogs
          = (some auditLog, auditLogs ++ [auditLog])
        ∧ auditLog.details = some written
        ∧ Json.parse written = some (redact (.object first.fields)) := by
  refine ⟨⟨fun same => ?_, fun alike taken auditLogs => ?_⟩, fun auditLogs => ?_⟩
  · have details := congrArg AuditLog.details (Option.some.inj (congrArg Prod.fst (same true [])))
    simp only [AuditService.auditLog, sanitizeDetails_record] at details
    have texts := congrArg (@Json.parse Number _) (Option.some.inj details)
    rw [Json.parse_stringify (proper_redact first.proper),
      Json.parse_stringify (proper_redact second.proper)] at texts
    exact redact_eq_iff.mp (Option.some.inj texts)
  · simp only [AuditService.log, AuditService.auditLog, sanitizeDetails_record,
      redact_eq_iff.mpr alike]
  · refine ⟨_, _, rfl, sanitizeDetails_record first, ?_⟩
    exact Json.parse_stringify (proper_redact first.proper)

/-- A login with a credential inside a credential and another one in a list. -/
def loginDetails : JsonObject Nat where
  fields := [("Token", .object [("seed", .number 1)]),
    ("attempts", .array [.number 2, .object [("PASSWORD", .null)]])]
  proper := by
    simp only [Json.Proper, Json.ProperFields, Json.ProperItems]
    decide +kernel

example : sanitizeDetails (some (.record loginDetails))
    = some "\x7b\"Token\":\"[REDACTED]\",\"attempts\":[2,\x7b\"PASSWORD\":\"[REDACTED]\"\x7d]\x7d" := by
  decide +kernel

end LuminaRail
