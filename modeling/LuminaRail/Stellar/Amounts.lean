import LuminaRail.Model.Exclusive
import LuminaRail.Services.Settlements
import LuminaRail.Workers.SettlementWorker

/-! The amount of a settlement on its way into the transaction: it is stored with four decimal
places, rendered as a text and parsed again, while the policy reads it off the order.
-/

namespace LuminaRail

open Concurrency Database Service

theorem ofDigits_eq (digits : List Char) : ofDigits digits = Nat.ofDigitChars 10 digits 0 := by
  simp only [ofDigits, Nat.ofDigitChars_eq_foldl, mul_comm]

/-- Zeros on either side of digits. -/
theorem ofDigits_padded (leading trailing : Nat) (digits : List Char)
    : ofDigits (List.replicate leading '0' ++ digits ++ List.replicate trailing '0')
      = ofDigits digits * 10 ^ trailing := by
  simp only [ofDigits_eq, Nat.ofDigitChars_append, Nat.ofDigitChars_replicate_zero, Nat.mul_zero]
  exact mul_comm _ _

theorem bigInt_digits {text : List Char} (digits : ∀ c ∈ text, c.isDigit)
    : bigInt text = some (ofDigits text) := by
  unfold bigInt
  split
  · exact absurd (digits _ List.mem_cons_self) (by decide)
  · rw [if_pos (List.all_eq_true.mpr digits)]
    rfl

theorem ne_point {c : Char} (digit : c.isDigit) : (c == '.') = false := by
  rw [beq_eq_false_iff_ne]
  rintro rfl
  simp at digit

/-- A number is its digits without the zeros at their end, and these zeros. -/
theorem toDigits_eq_append (n : Nat)
    : ∃ zeros, Nat.toDigits 10 n
      = (Nat.toDigits 10 n).rdropWhile (· = '0') ++ List.replicate zeros '0' := by
  have ended : (Nat.toDigits 10 n).rtakeWhile (· = '0')
      = List.replicate ((Nat.toDigits 10 n).rtakeWhile (· = '0')).length '0' :=
    List.eq_replicate_of_mem fun c member => by simpa using List.mem_rtakeWhile_imp member
  refine ⟨((Nat.toDigits 10 n).rtakeWhile (· = '0')).length, ?_⟩
  rw [← ended, List.rdropWhile_append_rtakeWhile]

section

variable {whole fraction : List Char} (whole_digits : ∀ c ∈ whole, c.isDigit)
  (present : whole ≠ [])
include whole_digits present

theorem parseAmountToStroops_whole
    : parseAmountToStroops (String.ofList whole)
      = some ((ofDigits (whole ++ List.replicate 7 '0') : Nat) : Int) := by
  have pointless : whole.splitOn '.' = [whole] :=
    List.splitOnP_eq_singleton fun c member => ne_point (whole_digits c member)
  have digits : ∀ c ∈ whole ++ List.replicate 7 '0', c.isDigit := by
    intro c member
    rcases List.mem_append.mp member with own | zero
    · exact whole_digits c own
    · rw [List.eq_of_mem_replicate zero]
      rfl
  simp only [parseAmountToStroops, String.toList_ofList, pointless, List.headD_cons, List.tail_cons,
    List.headD_nil, present, if_false, List.take_nil, List.length_nil, List.nil_append, tsub_zero]
  exact bigInt_digits digits

theorem parseAmountToStroops_point (fraction_digits : ∀ c ∈ fraction, c.isDigit)
    (few : fraction.length ≤ 7)
    : parseAmountToStroops (String.ofList (whole ++ '.' :: fraction))
      = some ((ofDigits (whole ++ fraction ++ List.replicate (7 - fraction.length) '0') : Nat) : Int) := by
  have parts : (whole ++ '.' :: fraction).splitOn '.' = [whole, fraction] := by
    rw [List.splitOn_eq_splitOnP, List.splitOnP_append_cons_of_forall_mem
      (fun c member => ne_point (whole_digits c member)) '.' rfl, List.splitOnP_eq_singleton
      fun c member => ne_point (fraction_digits c member)]
  have digits : ∀ c ∈ whole ++ fraction ++ List.replicate (7 - fraction.length) '0',
      c.isDigit := by
    intro c member
    rcases List.mem_append.mp member with own | zero
    · exact (List.mem_append.mp own).elim (whole_digits c) (fraction_digits c)
    · rw [List.eq_of_mem_replicate zero]
      rfl
  simp only [parseAmountToStroops, String.toList_ofList, parts, List.headD_cons, List.tail_cons,
    present, if_false, List.take_of_length_le few, ← List.append_assoc]
  exact bigInt_digits digits

end

-----------------------------------------------------------------------------------------
-- Rendering an amount
-----------------------------------------------------------------------------------------

/-- The digits of a number other than zero, without the zeros at their end, and how many these are. -/
structure Significant (n : Nat) (digits : List Char) (zeros : Nat) : Prop where
  rest : Nat.toDigits 10 n = digits ++ List.replicate zeros '0'
  stripped : (Nat.toDigits 10 n).rdropWhile (· = '0') = digits
  nonempty : digits ≠ []

namespace Significant

variable {n zeros : Nat} {digits : List Char}

theorem exists_of_ne_zero (nonzero : n ≠ 0) : ∃ digits zeros, Significant n digits zeros := by
  obtain ⟨zeros, rest⟩ := toDigits_eq_append n
  refine ⟨_, zeros, rest, rfl, fun nothing => nonzero ?_⟩
  have value := Nat.ofDigitChars_ten_toDigits (n := n)
  rw [rest, nothing, List.nil_append, Nat.ofDigitChars_replicate_zero, Nat.mul_zero] at value
  exact value.symm

variable (significant : Significant n digits zeros)
include significant

theorem isDigit {c : Char} (member : c ∈ digits) : c.isDigit := by
  have listed : c ∈ Nat.toDigits 10 n :=
    significant.rest ▸ List.mem_append_left _ member
  exact Nat.isDigit_of_mem_toDigits (by omega) (by omega) listed

theorem length : (Nat.toDigits 10 n).length = digits.length + zeros := by
  rw [significant.rest, List.length_append, List.length_replicate]

/-- As many zeros as the seven decimal places leave. -/
theorem ofDigits_shifted (leading : Nat) {scale : Nat} (places : scale ≤ 7)
    : ofDigits (List.replicate leading '0' ++ digits ++ List.replicate (7 + zeros - scale) '0')
      = n * 10 ^ (7 - scale) := by
  have value : ofDigits digits * 10 ^ zeros = n := by
    have padded := ofDigits_padded 0 zeros digits
    rw [List.replicate_zero, List.nil_append, ← significant.rest] at padded
    rw [← padded, ofDigits_eq, Nat.ofDigitChars_ten_toDigits]
  have exponent : 7 + zeros - scale = zeros + (7 - scale) := by omega
  rw [ofDigits_padded, exponent, pow_add, ← mul_assoc, value]

/-- The text in plain notation. -/
theorem toString_eq {scale : Nat} (nonzero : n ≠ 0)
    (small : digits.length + zeros ≤ 21 + scale) (large : scale < digits.length + zeros + 6)
    : Decimal.toString ⟨n, scale⟩ = String.ofList
      (if digits.length + zeros ≤ scale then
        '0' :: '.' :: (List.replicate (scale - (digits.length + zeros)) '0' ++ digits)
      else if digits.length + zeros - scale < digits.length then
        digits.take (digits.length + zeros - scale)
          ++ '.' :: digits.drop (digits.length + zeros - scale)
      else
        digits ++ List.replicate (digits.length + zeros - scale - digits.length) '0') := by
  have positive := List.length_pos_of_ne_nil significant.nonempty
  have written : (⟨n, scale⟩ : Decimal).digits = digits := by
    simp [Decimal.digits, nonzero, significant.stripped]
  have exponent : (⟨n, scale⟩ : Decimal).exponent = digits.length + zeros - 1 - scale := by
    simp [Decimal.exponent, nonzero, significant.length]
  have plain : ¬((⟨n, scale⟩ : Decimal).exponent ≤ -7 ∨ 21 ≤ (⟨n, scale⟩ : Decimal).exponent) := by
    omega
  simp only [Decimal.toString, Decimal.render, written, plain, if_false]
  rw [if_neg (by simp)]
  by_cases below : digits.length + zeros ≤ scale
  · rw [if_pos (by omega), if_pos below]
    have gap : (⟨n, scale⟩ : Decimal).exponent.natAbs - 1 = scale - (digits.length + zeros) := by
      omega
    rw [gap]
  · have shown : (⟨n, scale⟩ : Decimal).exponent.toNat + 1 = digits.length + zeros - scale := by
      omega
    rw [if_neg (by omega), if_neg below, shown]

end Significant

/-- The text of an amount with at most seven decimal places is parsed to what it stands for, as long
as it is in plain notation.
-/
theorem parseAmountToStroops_toString {units scale : Nat} (places : scale ≤ 7)
    (small : units < 10 ^ 21) (large : units = 0 ∨ 10 ^ scale ≤ units * 10 ^ 6)
    : parseAmountToStroops (Decimal.toString ⟨units, scale⟩)
      = some ((units * 10 ^ (7 - scale) : Nat) : Int) := by
  by_cases nonzero : units = 0
  · subst nonzero
    have nothing : Decimal.toString ⟨(0 : Nat), scale⟩ = "0" := by
      simp [Decimal.toString, Decimal.render, Decimal.digits, Decimal.exponent]
    rw [nothing, Nat.zero_mul]
    decide +kernel
  · obtain ⟨digits, zeros, significant⟩ := Significant.exists_of_ne_zero nonzero
    have positive := List.length_pos_of_ne_nil significant.nonempty
    have few : digits.length + zeros ≤ 21 + scale := by
      rw [← significant.length]
      have := (Nat.length_toDigits_le_iff (by omega) (by omega)).mpr small
      omega
    have many : scale < digits.length + zeros + 6 := by
      have below : units < 10 ^ (digits.length + zeros) :=
        (Nat.length_toDigits_le_iff (by omega) (by omega)).mp significant.length.le
      have bound : 10 ^ scale < 10 ^ (digits.length + zeros + 6) := by
        rw [pow_add]
        have := large.resolve_left nonzero
        nlinarith
      exact (Nat.pow_lt_pow_iff_right (by omega)).mp bound
    have isDigit : ∀ c ∈ digits, c.isDigit := fun c member => significant.isDigit member
    rw [significant.toString_eq nonzero few many]
    split_ifs with below inside
    · set leading := scale - (digits.length + zeros) with leading_eq
      have zero : ∀ c ∈ ['0'], c.isDigit := by simp
      have padded : ∀ c ∈ List.replicate leading '0' ++ digits, c.isDigit := by
        intro c member
        rcases List.mem_append.mp member with front | own
        · rw [List.eq_of_mem_replicate front]
          rfl
        · exact isDigit c own
      have length : (List.replicate leading '0' ++ digits).length = leading + digits.length := by
        simp
      have left : 7 - (leading + digits.length) = 7 + zeros - scale := by omega
      have parsed := parseAmountToStroops_point zero (by simp) padded (by omega)
      rw [length, left, ← List.append_assoc] at parsed
      rw [← significant.ofDigits_shifted (leading + 1) places, List.replicate_succ]
      exact parsed
    · set place := digits.length + zeros - scale with place_eq
      have front : digits.take place ≠ [] := by
        rw [← List.length_pos_iff_ne_nil, List.length_take]
        omega
      have parsed := parseAmountToStroops_point
        (fun c member => isDigit c (List.mem_of_mem_take member)) front
        (fun c member => isDigit c (List.mem_of_mem_drop (i := place) member))
        (by rw [List.length_drop]; omega)
      have left : 7 - (digits.length - place) = 7 + zeros - scale := by omega
      rw [parsed, List.take_append_drop, List.length_drop, left]
      have shifted := significant.ofDigits_shifted 0 places
      rw [List.replicate_zero, List.nil_append] at shifted
      rw [shifted]
    · set trailing := digits.length + zeros - scale - digits.length with trailing_eq
      have whole : ∀ c ∈ digits ++ List.replicate trailing '0', c.isDigit := by
        intro c member
        rcases List.mem_append.mp member with own | back
        · exact isDigit c own
        · rw [List.eq_of_mem_replicate back]
          rfl
      have parsed := parseAmountToStroops_whole whole
        (List.append_ne_nil_of_left_ne_nil significant.nonempty _)
      have left : trailing + 7 = 7 + zeros - scale := by omega
      have shifted := significant.ofDigits_shifted 0 places
      rw [List.replicate_zero, List.nil_append] at shifted
      rw [parsed, List.append_assoc, List.replicate_append_replicate, left, shifted]

/-- Up to nine units of the seventh decimal place are written with an exponent, which is no digit. -/
theorem parseAmountToStroops_exponential {units : Nat} (positive : 0 < units) (small : units < 10)
    : parseAmountToStroops (Decimal.toString ⟨units, 7⟩) = none := by
  have nothing : ∀ n < 10, 0 < n → parseAmountToStroops (Decimal.toString ⟨(n : Nat), 7⟩) = none := by
    decide +kernel
  exact nothing units small positive

/-- The text of an amount of at most 18 digits and seven decimal places is parsed to what the
amount is in units of 10^-7 unless the amount is not zero and less than 10^-6. By cases on
whether the text has an exponent.
-/
theorem parseAmountToStroops_toString_iff {d : Decimal} (nonneg : 0 ≤ d.units)
    (digits : d.units < 10 ^ 18) (places : d.scale ≤ 7)
    : (∃ amount, parseAmountToStroops d.toString = some amount
        ∧ (amount : ℚ) = d.value * 10 ^ 7)
      ↔ d.value = 0 ∨ 1 / 10 ^ 6 ≤ d.value := by
  obtain ⟨units, scale⟩ := d
  obtain ⟨units, rfl⟩ := Int.eq_ofNat_of_zero_le nonneg
  simp only at places digits
  have scaled : (0 : ℚ) < 10 ^ scale := by positivity
  have value : (⟨units, scale⟩ : Decimal).value = (units : ℚ) / 10 ^ scale := by
    simp [Decimal.value]
  have zero : (⟨units, scale⟩ : Decimal).value = 0 ↔ units = 0 := by
    rw [value, div_eq_zero_iff, or_iff_left scaled.ne', Nat.cast_eq_zero]
  have large : 1 / 10 ^ 6 ≤ (⟨units, scale⟩ : Decimal).value ↔ 10 ^ scale ≤ units * 10 ^ 6 := by
    rw [value, div_le_div_iff₀ (by norm_num) scaled, one_mul]
    exact_mod_cast Iff.rfl
  rw [zero, large]
  constructor
  · rintro ⟨amount, parsed, _⟩
    by_contra tiny
    obtain ⟨nonzero, less⟩ := not_or.mp tiny
    -- fewer than seven decimal places cannot hold so small an amount
    have last : scale = 7 := by
      by_contra fewer
      have : (10 : Nat) ^ scale ≤ 10 ^ 6 := Nat.pow_le_pow_right (by omega) (by omega)
      omega
    subst last
    rw [parseAmountToStroops_exponential (by omega) (by omega)] at parsed
    simp at parsed
  · intro plain
    refine ⟨_, parseAmountToStroops_toString places (by omega) plain, ?_⟩
    have power : (10 : ℚ) ^ 7 = 10 ^ (7 - scale) * 10 ^ scale := by
      rw [← pow_add, Nat.sub_add_cancel places]
    rw [value, power, ← mul_assoc, div_mul_eq_mul_div, div_mul_cancel₀ _ scaled.ne']
    push_cast
    rfl

theorem parseAmountToStroops_one_millionth
    : ∃ amount, parseAmountToStroops (stroops 10).toString = some amount
        ∧ (amount : ℚ) = (stroops 10).value * 10 ^ 7 :=
  (parseAmountToStroops_toString_iff (by decide) (by decide) (by decide)).mpr
    (.inr (by norm_num [stroops, Decimal.value]))

/-- One unit of the seventh decimal place is written as `1e-7`. -/
theorem parseAmountToStroops_one_stroop
    : 0 ≤ (stroops 1).units ∧ (stroops 1).units < 10 ^ 18 ∧ (stroops 1).scale ≤ 7
      ∧ (stroops 1).toString = "1e-7" ∧ parseAmountToStroops (stroops 1).toString = none := by
  decide +kernel

-----------------------------------------------------------------------------------------
-- From the order to the transaction
-----------------------------------------------------------------------------------------

/-- Anything may be done. -/
def anything : Footprint := ⟨fun _ _ _ => True, fun _ => True⟩

/-- What a program returns whatever the database holds, it returns when it runs alone. -/
theorem spec_alone {α : Type} {t : Tid} {program : Service α} {Q : α → Prop}
    (within : Within (Step anything t) t program Q)
    : (Protocol.alone t).Spec t (fun _ => True) program (fun value _ => Q value)
        fun _ _ => True := by
  have respects : (Protocol.alone t).Respects t (Step anything t) fun _ => True :=
    fun _ _ _ _ _ _ => ⟨trivial, fun other => absurd rfl other, trivial⟩
  refine (Protocol.Spec.of_within within respects (Protocol.Stable.const True)).conseq
    (fun _ _ given => given) (fun _ _ _ ends => ends.1) fun _ _ _ ends => ends

/-- The settlement of an order as it is created. -/
def newSettlement (config : Config) (order : Order) (time : Nat) (suffix : String) : Settlement :=
  { settlementId := s!"STL_{time}_{suffix}"
    userId := order.userId
    status := .PENDING
    asset := order.destinationAsset
    amount := (stroops order.destinationAmount).stored 4
    source := config.stellar.signerPublicKey
    destination := truthy order.walletAddress
    createdAt := time
    updatedAt := time }

/-- A settlement is created in some millisecond and with some random suffix. -/
theorem createSettlementForOrder_created {t : Tid} {config : Config} {orderId : Id} {order : Order}
    {settlement : Settlement} {world after : World}
    (stored : world.db.committed.lookup (.order orderId) = some order)
    (created : Program.Alone t (SettlementService.createSettlementForOrder config orderId).run
      world (.ok (settlement, false)) after)
    : ∃ time suffix, settlement = newSettlement config order time suffix := by
  have stable : (Protocol.alone t).Stable t fun world : World =>
      world.db.committed.lookup (.order orderId) = some order :=
    fun _ _ _ _ same holds => same rfl ▸ holds
  have spec : (Protocol.alone t).Spec t
      (fun world : World => world.db.committed.lookup (.order orderId) = some order)
      (SettlementService.createSettlementForOrder config orderId)
      (fun result _ => result.2 = false
        → ∃ time suffix, result.1 = newSettlement config order time suffix) fun _ _ => True := by
    refine Protocol.Spec.bind (Q := fun found _ => found = some order ∧ True)
      (spec_findUnique (transactional_alone t) stable (fun _ _ holds _ => ⟨holds, trivial⟩)
        fun _ _ _ _ _ _ => trivial) fun found => Protocol.Spec.assume fun same => ?_
    subst same
    refine spec_alone (Within.bind within_findUnique fun existing _ => ?_)
    cases existing with
    | some existingSettlement => exact Within.pure (by simp)
    | none =>
        refine Within.bind within_throwIf fun _ _ => ?_
        refine Within.bind (within_select (Q := fun _ => True) fun _ => trivial) fun refund _ => ?_
        cases refund with
        | some refund => exact Within.throw _
        | none =>
            refine Within.bind within_throwIf fun _ _ => Within.bind within_now fun time _ => ?_
            refine Within.bind within_randomText fun suffix _ => Within.tryCatch ?_ fun error => ?_
            · refine Within.bind (within_create (by simp) (fun _ _ => trivial) rfl) fun row same => ?_
              exact Within.pure fun _ => ⟨time, suffix, same.symm⟩
            · split
              · refine Within.bind within_findUnique fun duplicate _ => ?_
                cases duplicate with
                | some duplicate => exact Within.pure (by simp)
                | none => exact Within.throw _
              · exact Within.throw _
  exact Protocol.Spec.of_alone spec stored created rfl

/-- A settlement that is created for an order gets its amount, to four decimal places. -/
theorem createSettlementForOrder_amount {t : Tid} {config : Config} {orderId : Id} {order : Order}
    {settlement : Settlement} {world after : World}
    (stored : world.db.committed.lookup (.order orderId) = some order)
    (created : Program.Alone t (SettlementService.createSettlementForOrder config orderId).run
      world (.ok (settlement, false)) after)
    : settlement.amount = (stroops order.destinationAmount).stored 4 := by
  obtain ⟨time, suffix, rfl⟩ := createSettlementForOrder_created stored created
  rfl

/-- The transaction that is built pays what its amount is parsed to. -/
theorem buildUnsignedSettlementTransaction_amount {t : Tid} {sdk : StellarSdk} {config : Config}
    {params : SubmitSettlementParams} {request : SignTransactionRequest} {world after : World}
    (built : Program.Alone t (SorobanTransactionService.buildUnsignedSettlementTransaction sdk config
      params).run world (.ok request) after)
    : ∃ transaction, request.unsignedTransactionXdr = sdk.toXDR transaction
      ∧ parseAmountToStroops params.amount = some transaction.amount := by
  have within : Within (fun _ _ : World => True) t
      (SorobanTransactionService.buildUnsignedSettlementTransaction sdk config params)
      fun request => ∃ transaction, request.unsignedTransactionXdr = sdk.toXDR transaction
        ∧ parseAmountToStroops params.amount = some transaction.amount := by
    refine Within.bind Within.any fun _ _ => Within.bind Within.any fun _ _ => ?_
    refine Within.bind Within.any fun publicKey _ => Within.bind Within.any fun sequence _ => ?_
    cases parsed : parseAmountToStroops params.amount with
    | none => exact Within.throw _
    | some amountStroops =>
        refine Within.bind Within.any fun _ _ => Within.bind Within.any fun _ _ => ?_
        dsimp only
        split
        all_goals
          refine Within.bind Within.any fun assetAddress _ => Within.bind Within.any fun _ _ => ?_
          refine Within.bind Within.any fun _ _ => Within.bind Within.any fun _ _ => ?_
          exact Within.pure ⟨_, rfl, rfl⟩
  exact within.alone built

/-- The amount that is stored for a settlement and rendered is parsed to the nearest multiple of a
thousand stroops.
-/
theorem parseAmountToStroops_stored {amount : Nat} (storable : amount < 10 ^ 18)
    : ∃ units : Nat, (stroops amount).stored 4 = units
      ∧ parseAmountToStroops (money ((stroops amount).stored 4)).toString
        = some ((units * 1000 : Nat) : Int)
      ∧ (1000 ∣ amount → units * 1000 = amount) := by
  have nonneg : (0 : Int) ≤ (stroops amount).units := Int.natCast_nonneg _
  obtain ⟨units, stored⟩ := Int.eq_ofNat_of_zero_le (@Decimal.stored_nonneg _ 4 nonneg)
  have small : units ≤ 10 ^ 15 := by
    have bound := (@roundAway_le_iff _ (10 ^ 15) (10 ^ 7)
      (Int.mul_nonneg nonneg (show (0 : Int) ≤ 10 ^ 4 by positivity)) (by positivity)
      (by positivity)).mpr ?_
    · have : (stroops amount).stored 4 ≤ 10 ^ 15 := bound
      omega
    · show 2 * ((amount : Int) * 10 ^ 4) < _
      push_cast
      omega
  refine ⟨units, stored, ?_, fun divisible => ?_⟩
  · rw [stored, money, parseAmountToStroops_toString (by omega) (by omega) (by omega)]
    rfl
  · obtain ⟨n, rfl⟩ := divisible
    have same : (stroops (1000 * n : Nat)).stored 4 = n := by
      have multiple : ((1000 * n : Nat) : Int) * 10 ^ 4 = (n * 10 ^ 7 : Nat) := by
        push_cast
        ring
      show roundAway (((1000 * n : Nat) : Int) * 10 ^ 4) (10 ^ 7) = n
      rw [multiple, roundAway_mul n (10 ^ 7) (by positivity)]
    omega

/-- The policy reads the amount off the order as it is, but not if it is below a millionth. -/
theorem parseAmountToStroops_destinationAmount {amount : Nat} (positive : 0 < amount)
    (storable : amount < 10 ^ 18) {parsed : Int}
    (read : parseAmountToStroops (stroops amount).toString = some parsed)
    : parsed = amount := by
  by_cases plain : 10 ≤ amount
  · rw [stroops, parseAmountToStroops_toString (by omega) (by omega) (by omega)] at read
    simpa using (Option.some.inj read).symm
  · have unread : parseAmountToStroops (stroops amount).toString = none := by
      have few : amount ∈ [1, 2, 3, 4, 5, 6, 7, 8, 9] := by
        simp only [List.mem_cons, List.not_mem_nil, or_false]
        omega
      have none_of_few : ∀ n ∈ [1, 2, 3, 4, 5, 6, 7, 8, 9],
          parseAmountToStroops (stroops (n : Nat)).toString = none := by
        decide +kernel
      exact none_of_few amount few
    exact absurd (unread.symm.trans read) (by simp)

/-- A minus sign in front of a text that starts with a digit. -/
theorem parseAmountToStroops_minus {c : Char} (digit : c.isDigit) (text : List Char)
    : parseAmountToStroops (String.ofList ('-' :: c :: text))
      = (parseAmountToStroops (String.ofList (c :: text))).map fun amount => -amount := by
  obtain ⟨head, tail, split⟩ : ∃ head tail, text.splitOn '.' = head :: tail :=
    List.exists_cons_of_ne_nil (List.splitOn_ne_nil '.' text)
  have inner : (c :: text).splitOn '.' = (c :: head) :: tail := by
    rw [List.splitOn_cons_eq_if_modifyHead, if_neg (by simp [ne_point digit]), split]
    rfl
  have outer : ('-' :: c :: text).splitOn '.' = ('-' :: c :: head) :: tail := by
    rw [List.splitOn_cons_eq_if_modifyHead, if_neg (by decide), inner]
    rfl
  have unsigned (rest : List Char)
      : bigInt (c :: rest) = if (c :: rest).all Char.isDigit then some (ofDigits (c :: rest) : Int)
        else none := by
    unfold bigInt
    split
    · rename_i same
      obtain ⟨rfl, _⟩ := List.cons.inj same
      exact absurd digit (by decide)
    · rfl
  simp only [parseAmountToStroops, String.toList_ofList, inner, outer, List.headD_cons,
    List.tail_cons, reduceCtorEq, if_false, List.cons_append, unsigned]
  simp only [bigInt, ne_eq, reduceCtorEq, not_false_eq_true, true_and]
  split
  · rfl
  · rfl

/-- The text of a number without its sign starts with a digit. -/
theorem Decimal.render_starts (d : Decimal)
    : ∃ c text, d.render = c :: text ∧ c.isDigit := by
  obtain ⟨c, rest, written, digit⟩ : ∃ c rest, d.digits = c :: rest ∧ c.isDigit := by
    by_cases zero : d.units = 0
    · exact ⟨'0', [], by simp [Decimal.digits, zero], rfl⟩
    · obtain ⟨digits, zeros, significant⟩ :=
        Significant.exists_of_ne_zero (Int.natAbs_ne_zero.mpr zero)
      obtain ⟨c, rest, same⟩ := List.exists_cons_of_ne_nil significant.nonempty
      refine ⟨c, rest, ?_, significant.isDigit (same ▸ List.mem_cons_self)⟩
      simp [Decimal.digits, zero, significant.stripped, same]
  simp only [Decimal.render, written]
  split
  · exact ⟨c, _, rfl, digit⟩
  · split
    · exact ⟨'0', _, rfl, rfl⟩
    · split
      · exact ⟨c, _, rfl, digit⟩
      · exact ⟨c, _, rfl, digit⟩

/-- What the text of a column is parsed to, if to anything, is what the column holds. -/
theorem parseAmountToStroops_stroops {amount parsed : Int} (storable : amount.natAbs < 10 ^ 18)
    (read : parseAmountToStroops (stroops amount).toString = some parsed)
    : parsed = amount := by
  have magnitude {n : Nat} (storable : n < 10 ^ 18) {parsed : Int}
      (read : parseAmountToStroops (stroops n).toString = some parsed)
      : parsed = n := by
    by_cases zero : n = 0
    · subst zero
      rw [stroops, parseAmountToStroops_toString (by omega) (by omega) (by omega)] at read
      simpa using (Option.some.inj read).symm
    · exact parseAmountToStroops_destinationAmount (by omega) storable read
  obtain ⟨n, rfl | rfl⟩ := Int.eq_nat_or_neg amount
  · exact magnitude (by simpa using storable) read
  · have storable : n < 10 ^ 18 := by simpa using storable
    by_cases zero : n = 0
    · subst zero
      exact magnitude storable read
    · have render : (stroops (-(n : Int))).render = (stroops n).render := by
        have digits : (stroops (-(n : Int))).digits = (stroops n).digits := by
          simp [Decimal.digits, stroops]
        have exponent : (stroops (-(n : Int))).exponent = (stroops n).exponent := by
          simp [Decimal.exponent, stroops]
        rw [Decimal.render, Decimal.render, digits, exponent]
      obtain ⟨c, text, written, digit⟩ := (stroops n).render_starts
      have signed : (stroops (-(n : Int))).toString = String.ofList ('-' :: c :: text) := by
        have negative : (stroops (-(n : Int))).units < 0 := show -(n : Int) < 0 by omega
        rw [Decimal.toString, if_pos negative, render, written]
      have plain : (stroops n).toString = String.ofList (c :: text) := by
        have nonneg : ¬(stroops n).units < 0 := Int.not_lt.mpr (Int.natCast_nonneg n)
        rw [Decimal.toString, if_neg nonneg, written]
      rw [signed, parseAmountToStroops_minus digit, ← plain] at read
      obtain ⟨size, sized, rfl⟩ := Option.map_eq_some_iff.mp read
      rw [magnitude storable sized]

/-- The transaction that the worker has built for a settlement pays the amount of its order
exactly if this is a multiple of a thousand stroops, and exactly then the policy finds the
amount that it requires. The settlement is read again by then, but its amount stays what it was.
By the text of a stored amount, which is parsed without loss.
-/
theorem settlementAmount_exact_iff {t u : Tid} {sdk : StellarSdk} {config : Config} {orderId : Id}
    {order : Order} {settlement current : Settlement} {lock : DistributedLock}
    {request : SignTransactionRequest} {world after later last : World}
    (stored : world.db.committed.lookup (.order orderId) = some order)
    (positive : 0 < order.destinationAmount) (storable : order.destinationAmount < 10 ^ 18)
    (created : Program.Alone t (SettlementService.createSettlementForOrder config orderId).run
      world (.ok (settlement, false)) after)
    (kept : current.amount = settlement.amount)
    (built : Program.Alone u (SorobanTransactionService.buildUnsignedSettlementTransaction sdk config
      (SettlementWorker.submissionParams orderId current lock)).run later (.ok request) last)
    : ∃ transaction, request.unsignedTransactionXdr = sdk.toXDR transaction
      ∧ (transaction.amount = order.destinationAmount ↔ 1000 ∣ order.destinationAmount)
      ∧ (parseAmountToStroops (stroops order.destinationAmount).toString = some transaction.amount
        ↔ 1000 ∣ order.destinationAmount) := by
  obtain ⟨transaction, xdr, parsed⟩ := buildUnsignedSettlementTransaction_amount built
  obtain ⟨amount, same⟩ := Int.eq_ofNat_of_zero_le positive.le
  rw [same] at positive storable
  have positive : 0 < amount := by omega
  have storable : amount < 10 ^ 18 := by omega
  obtain ⟨units, _, written, whole⟩ := parseAmountToStroops_stored storable
  have rendered : (SettlementWorker.submissionParams orderId current lock).amount
      = (money settlement.amount).toString := by
    rw [SettlementWorker.submissionParams, kept]
  rw [rendered, createSettlementForOrder_amount stored created, same, written] at parsed
  have paid := (Option.some.inj parsed).symm
  have whole' : 1000 ∣ (amount : Int) → transaction.amount = amount := by
    intro divisible
    have multiple := whole (by omega)
    omega
  refine ⟨transaction, xdr, ?_⟩
  rw [same]
  refine ⟨⟨fun _ => by omega, whole'⟩, fun read => ?_, fun divisible => ?_⟩
  · have required := parseAmountToStroops_destinationAmount positive storable read
    omega
  · rw [whole' divisible, stroops,
      parseAmountToStroops_toString (by omega) (by omega) (by omega)]
    simp

/-- An SDK for one signer, one wallet and two contracts. -/
def localSdk : StellarSdk where
  fromXDR _ passphrase := some ⟨passphrase, []⟩
  toXDR transaction := String.intercalate " "
    [transaction.signer, transaction.contractId, transaction.source, transaction.destination,
      transaction.asset, ToString.toString transaction.amount]
  signXDR xdr publicKey := s!"{xdr} {publicKey}"
  isValidEd25519PublicKey key := key = "GSIGNER" || key = "GWALLET"
  isValidContract key := key = "CVAULT" || key = "CUSDC"
  publicKeyOf secret := if secret = "SSIGNER" then some "GSIGNER" else none
  kmsPublicKey := "GSIGNER"

def localConfig : Config where
  stellar :=
    { usdcContractId := some "CUSDC"
      settlementVaultContractId := "CVAULT"
      signerSecretKey := some "SSIGNER" }

/-- An order of so many stroops that is to be settled. -/
def payable (destinationAmount : Int) : World :=
  World.start ((∅ : AList Row).insert (.order "order")
    ({ userId := "user", quoteId := "quote", status := .SETTLEMENT_PENDING,
       sourceCurrency := "NGN", destinationAsset := "USDC", sourceAmount := 20000,
       destinationAmount := destinationAmount, walletAddress := some "GWALLET" } : Order))

/-- The settlement that is created for the order. -/
def payout (amount : Int) : Settlement :=
  { settlementId := "STL_0_", userId := "user", status := .PENDING, asset := "USDC",
    amount := amount, destination := some "GWALLET" }

/-- The lock under which it is submitted. -/
def payoutLock : DistributedLock := ⟨"lock:settlement:order", { owner := 0, serial := 0 }⟩

/-- The submission of the settlement. -/
def payoutParams (amount : Int) : SubmitSettlementParams :=
  SettlementWorker.submissionParams "order" (payout amount) payoutLock

/-- The request to sign its transaction. -/
def payoutRequest (amount : Int) : SignTransactionRequest :=
  { unsignedTransactionXdr := s!"GSIGNER CVAULT GSIGNER GWALLET CUSDC {amount}"
    context :=
      { settlementId := "STL_0_", orderId := "order", expectedSource := "GSIGNER",
        expectedDestination := "GWALLET", expectedAmountStroops := amount,
        expectedAssetContract := "CUSDC", expectedVaultContract := "CVAULT" } }

/-- Creating the settlement of the order and building its transaction, as evaluated. -/
theorem pays {destinationAmount amount paid : Int}
    (created : (Program.evalAlone 0 (SettlementService.createSettlementForOrder localConfig
      "order").run (payable destinationAmount) (List.replicate 6 {})).map Prod.fst
      = some (.ok (payout amount, false)))
    (built : (Program.evalAlone 0 (SorobanTransactionService.buildUnsignedSettlementTransaction
      localSdk localConfig (payoutParams amount)).run (payable destinationAmount)
      [{}, { reply := .simulationSuccess }]).map Prod.fst = some (.ok (payoutRequest paid)))
    : (∃ after, Program.Alone 0 (SettlementService.createSettlementForOrder localConfig "order").run
        (payable destinationAmount) (.ok (payout amount, false)) after)
      ∧ ∃ last, Program.Alone 0 (SorobanTransactionService.buildUnsignedSettlementTransaction
        localSdk localConfig (payoutParams amount)).run (payable destinationAmount)
        (.ok (payoutRequest paid)) last :=
  ⟨Program.exists_alone_of_evalAlone _ created, Program.exists_alone_of_evalAlone _ built⟩

theorem settlementAmount_exact_iff_whole
    : ∃ transaction, (payoutRequest 500000000).unsignedTransactionXdr = localSdk.toXDR transaction
      ∧ transaction.amount = 500000000 := by
  obtain ⟨⟨_, created⟩, _, built⟩ :=
    @pays 500000000 500000 500000000 (by decide +kernel) (by decide +kernel)
  obtain ⟨transaction, xdr, exactly, _⟩ := settlementAmount_exact_iff (AList.lookup_insert _)
    (by decide) (by decide) created rfl built
  exact ⟨transaction, xdr, exactly.mpr (by decide)⟩

/-- For 13.3333333 USDC the transaction pays 13.3333 USDC. -/
theorem settlementAmount_rounded
    : ∃ settlement request after last transaction,
        Program.Alone 0 (SettlementService.createSettlementForOrder localConfig "order").run
          (payable 133333333) (.ok (settlement, false)) after
        ∧ Program.Alone 0 (SorobanTransactionService.buildUnsignedSettlementTransaction localSdk
          localConfig (SettlementWorker.submissionParams "order" settlement payoutLock)).run
          (payable 133333333) (.ok request) last
        ∧ request.unsignedTransactionXdr = localSdk.toXDR transaction
        ∧ request.context.expectedAmountStroops = transaction.amount
        ∧ transaction.amount ≠ 133333333
        ∧ parseAmountToStroops (stroops 133333333).toString = some 133333333 := by
  obtain ⟨⟨_, created⟩, _, built⟩ :=
    @pays 133333333 133333 133333000 (by decide +kernel) (by decide +kernel)
  exact ⟨_, _, _, _, ⟨"", "GSIGNER", "", "CVAULT", 0, "GSIGNER", "GWALLET", "CUSDC", 133333000⟩,
    created, built, by decide +kernel, rfl, by decide, by decide +kernel⟩

end LuminaRail
