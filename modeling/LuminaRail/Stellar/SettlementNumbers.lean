import LuminaRail.Stellar.Amounts

/-! The numbers that settlements have on the chain. Of a settlement number made of the time and a
random suffix the first 18 digits are taken, and its letters are dropped.
-/

namespace LuminaRail

open Concurrency Database Service

theorem ofDigits_append_singleton (digits : List Char) (c : Char)
    : ofDigits (digits ++ [c]) = ofDigits digits * 10 + (c.toNat - '0'.toNat) := by
  simp [ofDigits]

theorem exists_digitChar {c : Char} (digit : c.isDigit)
    : c.toNat - '0'.toNat < 10 ∧ Nat.digitChar (c.toNat - '0'.toNat) = c := by
  have bounds : 48 ≤ c.toNat ∧ c.toNat ≤ 57 := by
    simpa [Char.isDigit, UInt32.le_iff_toNat_le] using digit
  have below : c.toNat - '0'.toNat < 10 := by
    have : '0'.toNat = 48 := rfl
    omega
  refine ⟨below, Char.toNat_inj.mp ?_⟩
  have written : ∀ n < 10, (Nat.digitChar n).toNat = n + 48 := by decide
  rw [written _ below]
  have : '0'.toNat = 48 := rfl
  omega

/-- So many digits are a number below that power of ten. -/
theorem ofDigits_lt {digits : List Char} (isDigit : ∀ c ∈ digits, c.isDigit)
    : ofDigits digits < 10 ^ digits.length := by
  induction digits using List.reverseRecOn with
  | nil => decide
  | append_singleton digits c ih =>
      have last := (exists_digitChar (isDigit c (by simp))).1
      have first := ih fun d member => isDigit d (List.mem_append_left _ member)
      rw [ofDigits_append_singleton, List.length_append, List.length_singleton, pow_succ]
      omega

theorem head_toDigits {n : Nat} (nonzero : n ≠ 0)
    : (Nat.toDigits 10 n).head? ≠ some '0' := by
  induction n using Nat.strong_induction_on with
  | _ n ih =>
      by_cases small : n < 10
      · rw [Nat.toDigits_of_lt_base small]
        simp [nonzero]
      · rw [Nat.toDigits_of_base_le (by omega) (by omega),
          List.head?_append_of_ne_nil _ Nat.toDigits_ne_nil]
        exact ih (n / 10) (by omega) (by omega)

/-- Digits that do not begin with a zero are those of the number they stand for. -/
theorem toDigits_ofDigits {digits : List Char} (isDigit : ∀ c ∈ digits, c.isDigit)
    (nonempty : digits ≠ []) (leading : digits.head? ≠ some '0')
    : Nat.toDigits 10 (ofDigits digits) = digits := by
  induction digits using List.reverseRecOn with
  | nil => exact absurd rfl nonempty
  | append_singleton digits c ih =>
      obtain ⟨below, written⟩ := exists_digitChar (isDigit c (by simp))
      rw [ofDigits_append_singleton]
      by_cases first : digits = []
      · subst first
        have alone : ofDigits [] * 10 + (c.toNat - '0'.toNat) = c.toNat - '0'.toNat := by
          simp [ofDigits]
        rw [alone, Nat.toDigits_of_lt_base below, written, List.nil_append]
      · rw [List.head?_append_of_ne_nil _ first] at leading
        have before := ih (fun d member => isDigit d (List.mem_append_left _ member)) first leading
        have positive : 0 < ofDigits digits := by
          by_contra zero
          rw [Nat.eq_zero_of_not_pos zero, Nat.toDigits_zero] at before
          exact leading (by rw [← before]; rfl)
        rw [mul_comm, ← Nat.toDigits_append_toDigits (by omega) positive below, before,
          Nat.toDigits_of_lt_base below, written]

/-- The FNV-1a hash of a text. -/
def fnv1a (text : String) : Nat :=
  (utf16 text).foldl (fun hash unit => (hash ^^^ unit) * 1099511628211 % 2 ^ 64)
    14695981039346656037

theorem fnv1a_lt (text : String) : fnv1a text < 2 ^ 64 := by
  unfold fnv1a
  generalize utf16 text = units
  induction units using List.reverseRecOn with
  | nil => norm_num
  | append_singleton units unit _ =>
      rw [List.foldl_append, List.foldl_cons, List.foldl_nil]
      exact Nat.mod_lt _ (by norm_num)

/-- A settlement number of the time in milliseconds and of one to six random base-36 characters. -/
structure SettlementNumber where
  milliseconds : Nat
  suffix : String
  base36 : suffix.toList.all fun c => c.isDigit || c.isLower
  length : 1 ≤ suffix.length ∧ suffix.length ≤ 6

namespace SettlementNumber

def text (number : SettlementNumber) : String := s!"STL_{number.milliseconds}_{number.suffix}"

/-- The digits of the time and then those of the suffix. -/
def digits (number : SettlementNumber) : List Char :=
  Nat.toDigits 10 number.milliseconds ++ number.suffix.toList.filter Char.isDigit

/-- Whether the digits tell two settlement numbers apart: the first 18 of them if both have at
least eight. Numbers with fewer digits, of the first hours of 1970, are hashed.
-/
def Distinguished (first second : SettlementNumber) : Prop :=
  if 8 ≤ first.digits.length ∧ 8 ≤ second.digits.length then
    first.digits.take 18 ≠ second.digits.take 18
  else if 8 ≤ first.digits.length then
    ofDigits (first.digits.take 18) ≠ fnv1a second.text
  else if 8 ≤ second.digits.length then
    fnv1a first.text ≠ ofDigits (second.digits.take 18)
  else
    fnv1a first.text ≠ fnv1a second.text

theorem filter_text (number : SettlementNumber)
    : number.text.toList.filter Char.isDigit = number.digits := by
  have written : number.text.toList = 'S' :: 'T' :: 'L' :: '_' ::
      (Nat.toDigits 10 number.milliseconds ++ '_' :: number.suffix.toList) := by
    simp only [text, String.toList_append, Nat.toString_eq_repr, Nat.toList_repr]
    simp
    rfl
  have kept : (Nat.toDigits 10 number.milliseconds).filter Char.isDigit
      = Nat.toDigits 10 number.milliseconds :=
    List.filter_eq_self.mpr fun c member => Nat.isDigit_of_mem_toDigits (by omega) (by omega) member
  rw [written, digits]
  simp [kept]

theorem parseSettlementIdToU64_text (number : SettlementNumber)
    : parseSettlementIdToU64 number.text
      = if 8 ≤ number.digits.length then ofDigits (number.digits.take 18)
        else fnv1a number.text := by
  rw [← filter_text]
  rfl

theorem isDigit_of_mem (number : SettlementNumber) {c : Char} (member : c ∈ number.digits)
    : c.isDigit := by
  rw [← filter_text] at member
  exact List.of_mem_filter member

/-- A number with eight digits has some of the time, which does not begin with a zero. -/
theorem leading {number : SettlementNumber} (enough : 8 ≤ number.digits.length)
    : (number.digits.take 18).head? ≠ some '0' := by
  have few : (number.suffix.toList.filter Char.isDigit).length ≤ 6 :=
    (List.length_filter_le _ _).trans (String.length_toList.trans_le number.length.2)
  have later : number.milliseconds ≠ 0 := by
    intro zero
    rw [digits, zero, Nat.toDigits_zero, List.length_append, List.length_singleton] at enough
    omega
  rw [List.head?_take, if_neg (by omega), digits,
    List.head?_append_of_ne_nil _ Nat.toDigits_ne_nil]
  exact head_toDigits later

theorem take_digits_eq {first second : SettlementNumber} (enough : 8 ≤ first.digits.length)
    (enough' : 8 ≤ second.digits.length)
    (same : ofDigits (first.digits.take 18) = ofDigits (second.digits.take 18))
    : first.digits.take 18 = second.digits.take 18 := by
  have written : ∀ {number : SettlementNumber}, 8 ≤ number.digits.length
      → Nat.toDigits 10 (ofDigits (number.digits.take 18)) = number.digits.take 18 := by
    intro number enough
    refine toDigits_ofDigits (fun c member => ?_) ?_ (leading enough)
    · exact isDigit_of_mem number (List.mem_of_mem_take member)
    · rw [← List.length_pos_iff_ne_nil, List.length_take]
      omega
  rw [← written enough, same, written enough']

/-- From the third hour of 1970 on no settlement number is hashed. -/
theorem distinguished_iff {first second : SettlementNumber} (recent : 10 ^ 7 ≤ first.milliseconds)
    (recent' : 10 ^ 7 ≤ second.milliseconds)
    : first.Distinguished second ↔ first.digits.take 18 ≠ second.digits.take 18 := by
  have enough : ∀ {number : SettlementNumber}, 10 ^ 7 ≤ number.milliseconds
      → 8 ≤ number.digits.length := by
    intro number recent
    by_contra few
    have short : (Nat.toDigits 10 number.milliseconds).length ≤ 7 := by
      rw [digits, List.length_append] at few
      omega
    have := (Nat.length_toDigits_le_iff (by omega) (by omega)).mp short
    omega
  rw [Distinguished, if_pos ⟨enough recent, enough recent'⟩]

end SettlementNumber

/-- The number on the chain has 64 bits. -/
theorem parseSettlementIdToU64_lt (text : String) : parseSettlementIdToU64 text < 2 ^ 64 := by
  unfold parseSettlementIdToU64
  dsimp only
  split
  · refine (ofDigits_lt fun c member => ?_).trans_le ?_
    · exact List.of_mem_filter (List.mem_of_mem_take member)
    · calc 10 ^ ((text.toList.filter Char.isDigit).take 18).length
          ≤ 10 ^ 18 := Nat.pow_le_pow_right (by omega) (List.length_take_le _ _)
        _ ≤ 2 ^ 64 := by decide
  · exact fnv1a_lt text

/-- The numbers on the chain have 64 bits, and those of two settlements differ exactly if their
digits tell the settlements apart. By cases on whether there are digits enough.
-/
theorem parseSettlementIdToU64_ne_iff (text : String) (first second : SettlementNumber)
    : parseSettlementIdToU64 text < 2 ^ 64
      ∧ (parseSettlementIdToU64 first.text ≠ parseSettlementIdToU64 second.text
        ↔ first.Distinguished second) := by
  refine ⟨parseSettlementIdToU64_lt text, ?_⟩
  rw [first.parseSettlementIdToU64_text, second.parseSettlementIdToU64_text,
    SettlementNumber.Distinguished]
  by_cases enough : 8 ≤ first.digits.length <;> by_cases enough' : 8 ≤ second.digits.length
  · rw [if_pos enough, if_pos enough', if_pos ⟨enough, enough'⟩]
    refine not_congr ⟨SettlementNumber.take_digits_eq enough enough', fun same => ?_⟩
    rw [same]
  · rw [if_pos enough, if_neg enough', if_neg fun both => enough' both.2, if_pos enough]
  · rw [if_neg enough, if_pos enough', if_neg fun both => enough both.1, if_neg enough,
      if_pos enough']
  · rw [if_neg enough, if_neg enough', if_neg fun both => enough both.1, if_neg enough,
      if_neg enough']

/-- Two settlements that are created in the same millisecond, with suffixes of letters, have the same
number on the chain.
-/
theorem two_settlements_alike
    : ∃ first second : SettlementNumber, first.text ≠ second.text
      ∧ (∃ after, Program.Alone 0
          (SettlementService.createSettlementForOrder localConfig "order").run
          { payable 500000000 with clock := 1723238112000 }
          (.ok ({ payout 500000 with
            settlementId := first.text, createdAt := 1723238112000, updatedAt := 1723238112000 },
            false)) after)
      ∧ (∃ after, Program.Alone 0
          (SettlementService.createSettlementForOrder localConfig "order").run
          { payable 500000000 with clock := 1723238112000 }
          (.ok ({ payout 500000 with
            settlementId := second.text, createdAt := 1723238112000, updatedAt := 1723238112000 },
            false)) after)
      ∧ parseSettlementIdToU64 first.text = parseSettlementIdToU64 second.text := by
  refine ⟨⟨1723238112000, "abc", by decide, by decide⟩, ⟨1723238112000, "xyz", by decide, by decide⟩,
    by decide +kernel, ?_, ?_, by decide +kernel⟩
  · exact Program.exists_alone_of_evalAlone (List.replicate 6 { text := "abc" }) (by decide +kernel)
  · exact Program.exists_alone_of_evalAlone (List.replicate 6 { text := "xyz" }) (by decide +kernel)

end LuminaRail
