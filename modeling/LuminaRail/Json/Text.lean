import Mathlib.Data.List.Basic

/-! JSON values and their texts, as ECMAScript writes, reads and revives them. The properties of an
object stand in its own order: array indices first, ascending, and then the other names in the order
in which they were defined.
-/

/-- A JSON value over some kind of numbers. -/
inductive Json (Number : Type) where
  | null
  | bool (value : Bool)
  | number (value : Number)
  | string (value : String)
  | array (items : List (Json Number))
  | object (fields : List (String × Json Number))

namespace Json

/-- What the text of a number is made of. -/
def isNumeral (c : Char) : Bool := c.isDigit || ['-', '+', '.', 'e', 'E'].contains c

end Json

/-- A kind of numbers and the texts that they are written as and read from. -/
class Numeral (Number : Type) where
  write : Number → List Char
  read : List Char → Option Number
  read_write (number : Number) : read (write number) = some number
  write_ne_nil (number : Number) : write number ≠ []
  isNumeral_of_mem {number : Number} {c : Char} (member : c ∈ write number) : Json.isNumeral c

namespace Json

variable {Number : Type}

/-- The array index that a property name is. -/
def arrayIndex (name : String) : Option Nat :=
  let index := Nat.ofDigitChars 10 name.toList 0
  if toString index = name ∧ index < 0xFFFFFFFF then some index else none

/-- Whether a property stands before another one that is defined later. -/
def before (first second : String) : Bool :=
  match arrayIndex first, arrayIndex second with
  | some i, some j => i < j
  | some _, none => true
  | none, some _ => false
  | none, none => first ≠ second

/-- `CreateDataProperty`. -/
def define (name : String) (value : Json Number)
    : List (String × Json Number) → List (String × Json Number)
  | [] => [(name, value)]
  | (other, old) :: fields =>
      if other = name then (name, value) :: fields
      else if before other name then (other, old) :: define name value fields
      else (name, value) :: (other, old) :: fields

mutual
/-- The names of each object differ and stand in its order. -/
def Proper : Json Number → Prop
  | array items => ProperItems items
  | object fields => (fields.map Prod.fst).Pairwise (before · ·) ∧ ProperFields fields
  | null | bool _ | number _ | string _ => True

def ProperItems : List (Json Number) → Prop
  | [] => True
  | item :: items => Proper item ∧ ProperItems items

def ProperFields : List (String × Json Number) → Prop
  | [] => True
  | (_, value) :: fields => Proper value ∧ ProperFields fields
end

def quotationMark : Char := Char.ofNat 0x22

def backslash : Char := Char.ofNat 0x5C

/-- The characters that are escaped by a letter. -/
def escapes : List (Char × Char) :=
  [(Char.ofNat 0x8, 'b'), (Char.ofNat 0x9, 't'), (Char.ofNat 0xA, 'n'), (Char.ofNat 0xC, 'f'),
    (Char.ofNat 0xD, 'r'), (quotationMark, quotationMark), (backslash, backslash)]

def escape (c : Char) : List Char :=
  match escapes.lookup c with
  | some letter => [backslash, letter]
  | none =>
      if c.toNat < 0x20 then
        [backslash, 'u', '0', '0', Nat.digitChar (c.toNat / 16), Nat.digitChar (c.toNat % 16)]
      else [c]

/-- `QuoteJSONString`. -/
def quote (text : String) : List Char :=
  quotationMark :: (text.toList.flatMap escape ++ [quotationMark])

section

variable [Numeral Number]

mutual
def write : Json Number → List Char
  | null => ['n', 'u', 'l', 'l']
  | bool true => ['t', 'r', 'u', 'e']
  | bool false => ['f', 'a', 'l', 's', 'e']
  | number value => Numeral.write value
  | string text => quote text
  | array [] => ['[', ']']
  | array (item :: items) => '[' :: (write item ++ writeItems items)
  | object [] => ['{', '}']
  | object ((name, value) :: fields) =>
      '{' :: (quote name ++ ':' :: (write value ++ writeFields fields))

/-- The items after the first one. -/
def writeItems : List (Json Number) → List Char
  | [] => [']']
  | item :: items => ',' :: (write item ++ writeItems items)

/-- The properties after the first one. -/
def writeFields : List (String × Json Number) → List Char
  | [] => ['}']
  | (name, value) :: fields => ',' :: (quote name ++ ':' :: (write value ++ writeFields fields))
end

/-- `JSON.stringify(value)`. -/
def stringify (value : Json Number) : String := String.ofList (write value)

def hexValue (c : Char) : Option Nat :=
  if c.isDigit then some (c.toNat - '0'.toNat)
  else if 'a' ≤ c ∧ c ≤ 'f' then some (c.toNat - 'a'.toNat + 10)
  else if 'A' ≤ c ∧ c ≤ 'F' then some (c.toNat - 'A'.toNat + 10)
  else none

/-- The character of four hexadecimal digits. Surrogates are not read. -/
def codeUnit (digits : List Char) : Option Char := do
  let unit ← digits.foldlM (fun unit c => (hexValue c).map (unit * 16 + ·)) 0
  if unit.isValidChar then some (Char.ofNat unit) else none

/-- The character that a letter after a backslash stands for. -/
def unescape (letter : Char) : Option Char :=
  ((('/', '/') :: escapes).find? (·.2 = letter)).map Prod.fst

/-- The rest of a string up to its quotation mark, and what follows. -/
def unquote : List Char → Option (List Char × List Char)
  | [] => none
  | c :: rest =>
      if c = quotationMark then some ([], rest)
      else if c = backslash then
        match rest with
        | 'u' :: first :: second :: third :: fourth :: rest => do
            let c ← codeUnit [first, second, third, fourth]
            let (text, rest) ← unquote rest
            some (c :: text, rest)
        | letter :: rest => do
            let c ← unescape letter
            let (text, rest) ← unquote rest
            some (c :: text, rest)
        | [] => none
      else if c.toNat < 0x20 then none
      else do
        let (text, rest) ← unquote rest
        some (c :: text, rest)

/-- What follows a literal whose first letter has been read. -/
def literal (letters : List Char) (value : Json Number) (rest : List Char)
    : Option (Json Number × List Char) :=
  if rest.take letters.length = letters then some (value, rest.drop letters.length) else none

mutual
/-- A value at the beginning of a text without white space, and what follows it. The fuel is at
least the length of the text.
-/
def readValue : Nat → List Char → Option (Json Number × List Char)
  | fuel + 1, c :: rest =>
      if c = 'n' then literal ['u', 'l', 'l'] null rest
      else if c = 't' then literal ['r', 'u', 'e'] (bool true) rest
      else if c = 'f' then literal ['a', 'l', 's', 'e'] (bool false) rest
      else if c = quotationMark then do
        let (text, rest) ← unquote rest
        some (string (String.ofList text), rest)
      else if c = '[' then
        if rest.head? = some ']' then some (array [], rest.tail)
        else do
          let (item, rest) ← readValue fuel rest
          let (items, rest) ← readItems fuel rest
          some (array (item :: items), rest)
      else if c = '{' then
        if rest.head? = some '}' then some (object [], rest.tail)
        else do
          let ((name, value), rest) ← readField fuel rest
          let (fields, rest) ← readFields fuel [(name, value)] rest
          some (object fields, rest)
      else do
        let value ← Numeral.read ((c :: rest).takeWhile isNumeral)
        some (number value, (c :: rest).dropWhile isNumeral)
  | _, _ => none

/-- The items after the first one. -/
def readItems : Nat → List Char → Option (List (Json Number) × List Char)
  | fuel + 1, c :: rest =>
      if c = ',' then do
        let (item, rest) ← readValue fuel rest
        let (items, rest) ← readItems fuel rest
        some (item :: items, rest)
      else if c = ']' then some ([], rest)
      else none
  | _, _ => none

def readField : Nat → List Char → Option ((String × Json Number) × List Char)
  | fuel + 1, c :: rest =>
      if c = quotationMark then do
        let (name, rest) ← unquote rest
        if rest.head? = some ':' then do
          let (value, rest) ← readValue fuel rest.tail
          some ((String.ofList name, value), rest)
        else none
      else none
  | _, _ => none

/-- The properties after those that have been defined. -/
def readFields : Nat → List (String × Json Number) → List Char
    → Option (List (String × Json Number) × List Char)
  | fuel + 1, fields, c :: rest =>
      if c = ',' then do
        let ((name, value), rest) ← readField fuel rest
        readFields fuel (define name value fields) rest
      else if c = '}' then some (fields, rest)
      else none
  | _, _, _ => none
end

/-- `JSON.parse(text)` of a text without white space between its tokens, `none` where it throws. -/
def parse (text : String) : Option (Json Number) := do
  let (value, rest) ← readValue (text.toList.length + 1) text.toList
  if rest = [] then some value else none

end

section

variable (reviver : String → Json Number → Json Number)

mutual
/-- `InternalizeJSONProperty` of the value with this name: first whatever is in it, then itself.
The reviver never answers `undefined`.
-/
def internalize (name : String) : Json Number → Json Number
  | array items => reviver name (array (internalizeItems 0 items))
  | object fields => reviver name (object (internalizeFields fields))
  | value => reviver name value

def internalizeItems (index : Nat) : List (Json Number) → List (Json Number)
  | [] => []
  | item :: items => internalize (toString index) item :: internalizeItems (index + 1) items

def internalizeFields : List (String × Json Number) → List (String × Json Number)
  | [] => []
  | (name, value) :: fields => (name, internalize name value) :: internalizeFields fields
end

end

/-- `JSON.parse(text, reviver)`. -/
def parseWith [Numeral Number] (reviver : String → Json Number → Json Number) (text : String)
    : Option (Json Number) :=
  (parse text).map (internalize reviver "")

end Json
