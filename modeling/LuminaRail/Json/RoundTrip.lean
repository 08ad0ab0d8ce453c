import LuminaRail.Json.Text

/-! The text of a JSON value is read back as that value. -/

/-- Natural numbers in decimal notation. -/
instance : Numeral Nat where
  write := Nat.toDigits 10
  read text := if text.all Char.isDigit then some (Nat.ofDigitChars 10 text 0) else none
  read_write number := by
    have digits : (Nat.toDigits 10 number).all Char.isDigit :=
      List.all_eq_true.mpr fun c member =>
        Nat.isDigit_of_mem_toDigits (by decide) (by decide) member
    rw [if_pos digits, Nat.ofDigitChars_ten_toDigits]
  write_ne_nil _ := Nat.toDigits_ne_nil
  isNumeral_of_mem member := by
    simp [Json.isNumeral, Nat.isDigit_of_mem_toDigits (by decide) (by decide) member]

namespace Json

variable {Number : Type}

/-- A character that has been read in front of a string. -/
def prepend (c : Char) (read : List Char × List Char) : List Char × List Char :=
  (c :: read.1, read.2)

theorem unquote_letter {c letter : Char} (listed : (c, letter) ∈ escapes) (rest : List Char)
    : unquote (backslash :: letter :: rest) = (unquote rest).map (prepend c) := by
  have known : ∀ entry ∈ escapes, entry.2 ≠ 'u' ∧ unescape entry.2 = some entry.1 := by decide
  obtain ⟨other, stands⟩ := known _ listed
  have differs : backslash ≠ quotationMark := by decide
  rw [unquote.eq_def]
  simp only [differs, if_false, if_true]
  split
  · rename_i same
    exact absurd (List.cons.inj same).1 other
  · rename_i same
    obtain ⟨rfl, rfl⟩ := List.cons.inj same
    rw [stands]
    cases unquote rest <;> rfl
  · rename_i same
    exact absurd same (List.cons_ne_nil _ _)

theorem unquote_control {n : Nat} (control : n < 0x20) (rest : List Char)
    : unquote (backslash :: 'u' :: '0' :: '0' :: Nat.digitChar (n / 16) :: Nat.digitChar (n % 16)
        :: rest) = (unquote rest).map (prepend (Char.ofNat n)) := by
  have stands : ∀ n < 0x20,
      codeUnit ['0', '0', Nat.digitChar (n / 16), Nat.digitChar (n % 16)] = some (Char.ofNat n) := by
    decide +kernel
  have differs : backslash ≠ quotationMark := by decide
  simp only [unquote, differs, if_false, if_true, stands n control, Option.bind_eq_bind,
    Option.bind_some]
  cases unquote rest <;> rfl

/-- An escaped character is read as that character. -/
theorem unquote_escape (c : Char) (rest : List Char)
    : unquote (escape c ++ rest) = (unquote rest).map (prepend c) := by
  unfold escape
  split
  · rename_i letter found
    obtain ⟨first, last, listed, _⟩ := List.lookup_eq_some_iff.mp found
    exact unquote_letter (by simp [listed]) rest
  · rename_i missing
    have plain : c ≠ quotationMark ∧ c ≠ backslash := by
      constructor <;> rintro rfl <;> simp [escapes] at missing
    split
    · rename_i control
      have same := unquote_control control rest
      rw [Char.ofNat_toNat] at same
      exact same
    · rename_i printed
      rw [List.singleton_append, unquote.eq_def]
      simp only [plain.1, plain.2, printed, if_false]
      cases unquote rest <;> rfl

theorem unquote_quote (text rest : List Char)
    : unquote (text.flatMap escape ++ quotationMark :: rest) = some (text, rest) := by
  induction text with
  | nil =>
      rw [List.flatMap_nil, List.nil_append, unquote.eq_def]
      rfl
  | cons c text ih =>
      rw [List.flatMap_cons, List.append_assoc, unquote_escape, ih]
      rfl

theorem ne_of_before {first second : String} (stands : before first second) : first ≠ second := by
  rintro rfl
  unfold before at stands
  split at stands <;> simp_all

/-- A property that all others stand before is added at the end. -/
theorem define_eq_append {fields : List (String × Json Number)} {name : String}
    (last : ∀ field ∈ fields, before field.1 name) (value : Json Number)
    : define name value fields = fields ++ [(name, value)] := by
  induction fields with
  | nil => rfl
  | cons field fields ih =>
      have first := last field List.mem_cons_self
      rw [define, if_neg (ne_of_before first), if_pos first,
        ih fun other member => last other (List.mem_cons_of_mem field member)]
      rfl

/-- Nothing that follows belongs to a number. -/
def Delimited (rest : List Char) : Prop := ∀ c ∈ rest.head?, isNumeral c = false

variable [Numeral Number]

theorem readValue_number (value : Number) (fuel : Nat) {rest : List Char}
    (delimited : Delimited rest)
    : readValue (fuel + 1) (Numeral.write value ++ rest) = some (number value, rest) := by
  have written : ∀ c ∈ Numeral.write value, isNumeral c := fun c => Numeral.isNumeral_of_mem
  have after : rest.takeWhile isNumeral = [] ∧ rest.dropWhile isNumeral = rest := by
    cases rest with
    | nil => exact ⟨rfl, rfl⟩
    | cons c rest => simp [delimited c rfl]
  have taken : (Numeral.write value ++ rest).takeWhile isNumeral = Numeral.write value := by
    rw [List.takeWhile_append_of_pos written, after.1, List.append_nil]
  have dropped : (Numeral.write value ++ rest).dropWhile isNumeral = rest := by
    rw [List.dropWhile_append_of_pos written, after.2]
  obtain ⟨c, text, first⟩ := List.exists_cons_of_ne_nil (Numeral.write_ne_nil value)
  have numeral : isNumeral c := written c (first ▸ List.mem_cons_self)
  have other : ∀ d, isNumeral d = false → c ≠ d := by
    rintro d none rfl
    rw [none] at numeral
    exact Bool.noConfusion numeral
  rw [first, List.cons_append] at taken dropped ⊢
  rw [readValue, if_neg (other _ (by decide)), if_neg (other _ (by decide)),
    if_neg (other _ (by decide)), if_neg (other _ (by decide)), if_neg (other _ (by decide)),
    if_neg (other _ (by decide)), taken, dropped, ← first, Numeral.read_write]
  rfl

theorem readValue_string (text : String) (fuel : Nat) (rest : List Char)
    : readValue (fuel + 1) (quote text ++ rest) = some ((string text : Json Number), rest) := by
  have differs : quotationMark ≠ 'n' ∧ quotationMark ≠ 't' ∧ quotationMark ≠ 'f' := by decide
  rw [quote, List.cons_append, List.append_assoc, List.singleton_append, readValue,
    if_neg differs.1, if_neg differs.2.1, if_neg differs.2.2, if_pos rfl, unquote_quote]
  simp

theorem delimited_writeItems (items : List (Json Number)) (rest : List Char)
    : Delimited (writeItems items ++ rest) := by
  cases items with
  | nil => simp [writeItems, Delimited, isNumeral]
  | cons item items => simp [writeItems, Delimited, isNumeral]

theorem delimited_writeFields (fields : List (String × Json Number)) (rest : List Char)
    : Delimited (writeFields fields ++ rest) := by
  cases fields with
  | nil => simp [writeFields, Delimited, isNumeral]
  | cons field fields => simp [writeFields, Delimited, isNumeral]

/-- The text of a value is neither empty nor does it begin with a closing bracket. -/
theorem head_write (value : Json Number) (rest : List Char)
    : (write value ++ rest).head? ≠ some ']' := by
  cases value with
  | null | string _ => simp [write, quote, quotationMark]
  | bool value => cases value <;> simp [write]
  | number value =>
      obtain ⟨c, text, first⟩ := List.exists_cons_of_ne_nil (Numeral.write_ne_nil value)
      have numeral : isNumeral c := Numeral.isNumeral_of_mem (first ▸ List.mem_cons_self)
      rw [write, first]
      rintro same
      obtain rfl := Option.some.inj same
      exact absurd numeral (by decide)
  | array items => cases items <;> simp [write]
  | object fields => rcases fields with _ | ⟨⟨name, value⟩, fields⟩ <;> simp [write]

theorem readField_write (name : String) {value : Json Number} {fuel : Nat} {rest : List Char}
    (read : readValue fuel (write value ++ rest) = some (value, rest))
    : readField (fuel + 1) (quote name ++ ':' :: (write value ++ rest))
      = some ((name, value), rest) := by
  rw [quote, List.cons_append, List.append_assoc, List.singleton_append, readField, if_pos rfl,
    unquote_quote]
  simp [read]

theorem two_le_length_quote (text : String) : 2 ≤ (quote text).length := by
  simp [quote]

mutual
theorem readValue_write {value : Json Number} (proper : Proper value) {fuel : Nat}
    (enough : (write value).length ≤ fuel) {rest : List Char} (delimited : Delimited rest)
    : readValue (fuel + 1) (write value ++ rest) = some (value, rest) := by
  cases value with
  | null => simp [write, readValue, literal]
  | bool value => cases value <;> simp [write, readValue, literal]
  | number value => exact readValue_number value fuel delimited
  | string text => exact readValue_string text fuel rest
  | array items =>
      cases items with
      | nil => simp [write, readValue, quotationMark]
      | cons item items =>
          simp only [write, List.length_cons, List.length_append] at enough
          obtain ⟨fuel, rfl⟩ := Nat.exists_eq_succ_of_ne_zero (show fuel ≠ 0 by omega)
          have first := readValue_write proper.1 (show (write item).length ≤ fuel by omega)
            (delimited_writeItems items rest)
          have later := readItems_write proper.2 (show (writeItems items).length ≤ fuel by omega)
            rest
          rw [write, List.cons_append, List.append_assoc, readValue, if_neg (by decide),
            if_neg (by decide), if_neg (by decide), if_neg (by decide), if_pos rfl,
            if_neg (head_write item _)]
          simp only [first, later, Option.bind_eq_bind, Option.bind_some]
  | object fields =>
      cases fields with
      | nil => simp [write, readValue, quotationMark]
      | cons field fields =>
          cases field with
          | mk name value =>
              simp only [write, List.length_cons, List.length_append] at enough
              have quoted := two_le_length_quote name
              obtain ⟨fuel, rfl⟩ := Nat.exists_eq_add_of_le' (show 2 ≤ fuel by omega)
              have first := readField_write name (readValue_write proper.2.1
                (show (write value).length ≤ fuel by omega) (delimited_writeFields fields rest))
              have later := readFields_write
                (show (([(name, value)] ++ fields).map Prod.fst).Pairwise (before · ·) from proper.1)
                proper.2.2
                (show (writeFields fields).length ≤ fuel + 1 by omega) rest
              have named : (quote name ++ ':' :: (write value ++ writeFields fields) ++ rest).head?
                  ≠ some '}' := by
                simp [quote, quotationMark]
              rw [write, List.cons_append, readValue, if_neg (by decide), if_neg (by decide),
                if_neg (by decide), if_neg (by decide), if_neg (by decide), if_pos rfl,
                if_neg named]
              simp only [List.append_assoc, List.cons_append, first, later, Option.bind_eq_bind,
                Option.bind_some]
              rfl
termination_by sizeOf value

theorem readItems_write {items : List (Json Number)} (proper : ProperItems items) {fuel : Nat}
    (enough : (writeItems items).length ≤ fuel) (rest : List Char)
    : readItems (fuel + 1) (writeItems items ++ rest) = some (items, rest) := by
  cases items with
  | nil => simp [writeItems, readItems]
  | cons item items =>
      simp only [writeItems, List.length_cons, List.length_append] at enough
      obtain ⟨fuel, rfl⟩ := Nat.exists_eq_succ_of_ne_zero (show fuel ≠ 0 by omega)
      have first := readValue_write proper.1 (show (write item).length ≤ fuel by omega)
        (delimited_writeItems items rest)
      have later := readItems_write proper.2 (show (writeItems items).length ≤ fuel by omega) rest
      rw [writeItems, List.cons_append, List.append_assoc, readItems, if_pos rfl]
      simp only [first, later, Option.bind_eq_bind, Option.bind_some]
termination_by sizeOf items

theorem readFields_write {known fields : List (String × Json Number)}
    (ordered : ((known ++ fields).map Prod.fst).Pairwise (before · ·))
    (proper : ProperFields fields) {fuel : Nat}
    (enough : (writeFields fields).length ≤ fuel) (rest : List Char)
    : readFields (fuel + 1) known (writeFields fields ++ rest) = some (known ++ fields, rest) := by
  cases fields with
  | nil => simp [writeFields, readFields]
  | cons field fields =>
      cases field with
      | mk name value =>
          simp only [writeFields, List.length_cons, List.length_append] at enough
          have quoted := two_le_length_quote name
          obtain ⟨fuel, rfl⟩ := Nat.exists_eq_add_of_le' (show 2 ≤ fuel by omega)
          have last : ∀ field ∈ known, before field.1 name := by
            intro field member
            rw [List.map_append, List.pairwise_append] at ordered
            exact ordered.2.2 _ (List.mem_map_of_mem member) _ (by simp)
          have first := readField_write name (readValue_write proper.1
            (show (write value).length ≤ fuel by omega) (delimited_writeFields fields rest))
          have same : known ++ (name, value) :: fields = (known ++ [(name, value)]) ++ fields := by
            simp
          rw [same] at ordered
          have later := readFields_write ordered proper.2
            (show (writeFields fields).length ≤ fuel + 1 by omega) rest
          rw [writeFields, List.cons_append, readFields, if_pos rfl]
          simp only [List.append_assoc, List.cons_append, first, define_eq_append last, later,
            Option.bind_eq_bind, Option.bind_some]
          simp
termination_by sizeOf fields
end

/-- What is written is read back. -/
theorem parse_stringify {value : Json Number} (proper : Proper value)
    : parse (stringify value) = some value := by
  have read := readValue_write proper (Nat.le_refl _) (show Delimited [] by simp [Delimited])
  rw [List.append_nil] at read
  rw [parse, stringify, String.toList_ofList, read]
  rfl

example : (@parse Nat _ "\x7b\"b\":[1,true],\"a\":\"\\n\",\"2\":null\x7d").map stringify
    = some "\x7b\"2\":null,\"b\":[1,true],\"a\":\"\\n\"\x7d" := by
  decide +kernel

end Json
