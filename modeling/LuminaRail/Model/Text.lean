import Mathlib.Algebra.GroupWithZero.Nat
import Mathlib.Data.List.DropRight
import Mathlib.Data.List.Infix

/-! The JavaScript text functions that the services decide by. -/

namespace LuminaRail

/-- `value || ...`: the empty string counts as missing. -/
def truthy (value : Option String) : Option String := value.filter (· ≠ "")

theorem of_truthy {value : Option String} {text : String} (given : truthy value = some text)
    : value = some text :=
  (Option.filter_eq_some_iff.mp given).1

/-- What `trim` removes. -/
def isWhiteSpace (c : Char) : Bool :=
  c.toNat ∈ [0x9, 0xA, 0xB, 0xC, 0xD, 0x20, 0xA0, 0x1680, 0x2028, 0x2029, 0x202F, 0x205F, 0x3000,
    0xFEFF] || (0x2000 ≤ c.toNat && c.toNat ≤ 0x200A)

/-- `!text || text.trim() === ''`. -/
def isBlank (text : Option String) : Bool := (text.getD "").toList.all isWhiteSpace

/-- `text.includes(part)`. -/
def includes (text part : String) : Bool :=
  text.toList.tails.any fun rest => part.toList.isPrefixOf rest

theorem any_tails_append {c : Char} {first : List Char} (absent : c ∉ first)
    (rest text : List Char)
    : ((first ++ text).tails.any fun tail => (c :: rest).isPrefixOf tail)
      = text.tails.any fun tail => (c :: rest).isPrefixOf tail := by
  induction first with
  | nil => rfl
  | cons d first ih =>
      have differs : c ≠ d := fun same => absent (same ▸ List.mem_cons_self)
      rw [List.cons_append, List.tails_cons, List.any_cons,
        ih fun later => absent (List.mem_cons_of_mem d later)]
      simp [differs]

/-- Text in front that does not have the first letter of a part does not matter. -/
theorem includes_append {first text part : String} {c : Char} {rest : List Char}
    (begins : part.toList = c :: rest) (absent : c ∉ first.toList)
    : includes (first ++ text) part = includes text part := by
  rw [includes, includes, begins, String.toList_append]
  exact any_tails_append absent rest text.toList

/-- A part is not in a text that does not have its first letter. -/
theorem includes_of_notMem {text part : String} {c : Char} {rest : List Char}
    (begins : part.toList = c :: rest) (absent : c ∉ text.toList)
    : includes text part = false := by
  have before : includes (text ++ "") part = includes "" part := includes_append begins absent
  rw [String.append_empty] at before
  rw [before, includes, begins]
  rfl

/-- `text.length`, in UTF-16 code units. -/
def utf16Length (text : String) : Nat :=
  (text.toList.map fun c => if c.toNat < 0x10000 then 1 else 2).sum

/-- `text.trim()`. -/
def trim (text : String) : String :=
  String.ofList ((text.toList.dropWhile isWhiteSpace).rdropWhile isWhiteSpace)

/-- The upper case of a character as far as it has ASCII letters; other letters are kept. -/
def upperCase (c : Char) : List Char :=
  match c with
  | 'ı' => ['I']
  | 'ſ' => ['S']
  | 'ß' => ['S', 'S']
  | 'ﬀ' => ['F', 'F']
  | 'ﬁ' => ['F', 'I']
  | 'ﬂ' => ['F', 'L']
  | 'ﬃ' => ['F', 'F', 'I']
  | 'ﬄ' => ['F', 'F', 'L']
  | 'ﬅ' => ['S', 'T']
  | 'ﬆ' => ['S', 'T']
  | c => [c.toUpper]

/-- `text.toUpperCase()`, in so far as it decides which ASCII text the result equals. -/
def toUpperCase (text : String) : String := String.ofList (text.toList.flatMap upperCase)

/-- `text.toLowerCase()`, in so far as it decides which ASCII text the result equals. -/
def toLowerCase (text : String) : String :=
  String.ofList (text.toList.map fun c => if c = Char.ofNat 0x212A then 'k' else c.toLower)

end LuminaRail
