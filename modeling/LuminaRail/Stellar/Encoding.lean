import LuminaRail.Model.Decimal

/-! How settlement numbers and amounts are written into the arguments of the vault contract. -/

namespace LuminaRail

/-- The number that a list of decimal digits stands for. -/
def ofDigits (digits : List Char) : Nat :=
  digits.foldl (fun number digit => number * 10 + (digit.toNat - '0'.toNat)) 0

/-- The UTF-16 code units of a text. -/
def utf16 (text : String) : List Nat :=
  text.toList.flatMap fun c =>
    if c.toNat < 0x10000 then [c.toNat]
    else [0xD800 + (c.toNat - 0x10000) / 0x400, 0xDC00 + (c.toNat - 0x10000) % 0x400]

/-- The digits of a settlement number if there are enough of them, else its FNV-1a hash. -/
def parseSettlementIdToU64 (settlementId : String) : Nat :=
  let numericPart := settlementId.toList.filter Char.isDigit
  if 8 ≤ numericPart.length then
    ofDigits (numericPart.take 18)
  else
    (utf16 settlementId).foldl
      (fun hash unit => (hash ^^^ unit) * 1099511628211 % 2 ^ 64) 14695981039346656037

/-- `BigInt(text)` of a text without white space, `none` where it throws. -/
def bigInt (text : List Char) : Option Int :=
  match text with
  | '-' :: digits => if digits ≠ [] ∧ digits.all Char.isDigit then some (-ofDigits digits) else none
  | digits => if digits.all Char.isDigit then some (ofDigits digits) else none

/-- The amount in units of 10^-7, `none` where it throws. -/
def parseAmountToStroops (amount : String) : Option Int :=
  let parts := amount.toList.splitOn '.'
  let integerPart := parts.headD []
  let decimalPart := parts.tail.headD []
  bigInt ((if integerPart = [] then ['0'] else integerPart)
    ++ (decimalPart.take 7 ++ List.replicate (7 - decimalPart.length) '0'))

example : parseAmountToStroops "12.5" = some 125000000 := by decide +kernel

end LuminaRail
