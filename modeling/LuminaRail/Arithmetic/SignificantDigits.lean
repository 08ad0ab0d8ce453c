import LuminaRail.Arithmetic.DecimalPlaces
import Mathlib.Data.Int.Log

/-! Rounding to significant digits. The numbers of so many digits lie on one grid for each power of
ten, and a number is rounded to the nearest of them. Whether it reaches a bound when it is rounded
is decided by a number that is computed from the bound alone.
-/

namespace Arithmetic

/-- The unit of the last of so many digits of a number. -/
def lastPlace (digits : Nat) (x : ℚ) : ℚ := 10 ^ (Int.log 10 |x| + 1 - digits)

/-- The nearest number of so many significant digits, away from zero where there are two. -/
def toSignificantDigits (digits : Nat) (x : ℚ) : ℚ :=
  Rounding.ROUND_HALF_UP.round (x / lastPlace digits x) * lastPlace digits x

/-- The least positive number that is rounded to a bound or more, or zero if all of them are. -/
def leastReaching (digits : Nat) (bound : ℚ) : ℚ :=
  if bound ≤ 0 then 0
  else (⌈bound / 10 ^ (Int.clog 10 bound - digits)⌉ - 1 / 2) * 10 ^ (Int.clog 10 bound - digits)

/-- The least positive number that is rounded to more than a bound, or zero if all of them are. -/
def leastExceeding (digits : Nat) (bound : ℚ) : ℚ :=
  if bound ≤ 0 then 0 else (⌊bound / lastPlace digits bound⌋ + 1 / 2) * lastPlace digits bound

variable {x bound : ℚ} {digits : Nat}

theorem lastPlace_pos : 0 < lastPlace digits x := zpow_pos (by norm_num) _

theorem Rounding.round_half_up_neg
    : Rounding.ROUND_HALF_UP.round (-x) = -Rounding.ROUND_HALF_UP.round x := by
  have half : (0 : ℚ) ≤ 1 / 2 ∧ (1 : ℚ) / 2 < 1 := by constructor <;> norm_num
  have nothing : ⌊(1 : ℚ) / 2⌋ = 0 := Int.floor_eq_zero_iff.mpr half
  rcases lt_trichotomy x 0 with negative | rfl | positive
  · rw [Rounding.round, if_pos (by linarith), Rounding.round, if_neg (not_le.mpr negative)]
    rw [← Int.floor_neg]
    congr 1
    ring
  · simp only [neg_zero, Rounding.round, le_refl, if_true, zero_add, nothing]
  · rw [Rounding.round, if_neg (by linarith), Rounding.round, if_pos (le_of_lt positive)]
    rw [← Int.ceil_neg]
    congr 1
    ring

theorem toSignificantDigits_neg
    : toSignificantDigits digits (-x) = -toSignificantDigits digits x := by
  rw [toSignificantDigits, lastPlace, abs_neg, ← lastPlace, neg_div,
    Rounding.round_half_up_neg, Int.cast_neg,
    neg_mul, toSignificantDigits]

theorem toSignificantDigits_zero : toSignificantDigits digits (0 : ℚ) = 0 := by
  have nothing : Rounding.ROUND_HALF_UP.round ((0 : Int) : ℚ) = 0 := Rounding.round_intCast 0
  rw [Int.cast_zero] at nothing
  rw [toSignificantDigits, zero_div, nothing, Int.cast_zero, zero_mul]

/-- Counted in units of its last digit a positive number has that many digits. -/
theorem lastPlace_bounds (positive : 0 < x) (some_digits : 0 < digits)
    : (10 : ℚ) ^ (digits - 1) * lastPlace digits x ≤ x
      ∧ x < (10 : ℚ) ^ digits * lastPlace digits x := by
  have ten : (10 : ℚ) ≠ 0 := by norm_num
  have first := Int.zpow_log_le_self (b := 10) (by norm_num) positive
  have next := Int.lt_zpow_succ_log_self (b := 10) (by norm_num) x
  rw [lastPlace, abs_of_pos positive, ← zpow_natCast, ← zpow_natCast, ← zpow_add₀ ten,
    ← zpow_add₀ ten]
  push_cast [Nat.one_le_iff_ne_zero.mpr (Nat.pos_iff_ne_zero.mp some_digits)] at first next ⊢
  constructor
  · rwa [show (digits : Int) - 1 + (Int.log 10 x + 1 - digits) = Int.log 10 x by ring]
  · rwa [show (digits : Int) + (Int.log 10 x + 1 - digits) = Int.log 10 x + 1 by ring]

/-- A positive number is rounded within the powers of ten that it is between. -/
theorem toSignificantDigits_bounds (positive : 0 < x) (some_digits : 0 < digits)
    : (10 : ℚ) ^ (digits - 1) * lastPlace digits x ≤ toSignificantDigits digits x
      ∧ toSignificantDigits digits x ≤ (10 : ℚ) ^ digits * lastPlace digits x := by
  have place : 0 < lastPlace digits x := lastPlace_pos
  obtain ⟨lower, upper⟩ := lastPlace_bounds positive some_digits
  rw [← le_div_iff₀ place] at lower
  rw [← div_lt_iff₀ place] at upper
  have half : (0 : ℚ) ≤ 1 / 2 ∧ (1 : ℚ) / 2 < 1 := by constructor <;> norm_num
  rw [toSignificantDigits, Rounding.round, if_pos (div_nonneg (le_of_lt positive) (le_of_lt place))]
  constructor
  · apply mul_le_mul_of_nonneg_right _ (le_of_lt place)
    have reached : ((10 ^ (digits - 1) : Int) : ℚ) ≤ x / lastPlace digits x + 1 / 2 := by
      push_cast
      linarith
    exact_mod_cast Int.le_floor.mpr reached
  · apply mul_le_mul_of_nonneg_right _ (le_of_lt place)
    have below : x / lastPlace digits x + 1 / 2 < ((10 ^ digits + 1 : Int) : ℚ) := by
      push_cast
      linarith
    have floor := Int.lt_add_one_iff.mp (Int.floor_lt.mpr below)
    exact_mod_cast floor

theorem toSignificantDigits_pos (positive : 0 < x) (some_digits : 0 < digits)
    : 0 < toSignificantDigits digits x :=
  lt_of_lt_of_le (mul_pos (by positivity) lastPlace_pos)
    (toSignificantDigits_bounds positive some_digits).1

theorem toSignificantDigits_pos_iff (some_digits : 0 < digits)
    : 0 < toSignificantDigits digits x ↔ 0 < x := by
  constructor
  · intro rounded
    by_contra not_pos
    rcases lt_or_eq_of_le (not_lt.mp not_pos) with negative | rfl
    · have opposite := toSignificantDigits_pos (neg_pos.mpr negative) some_digits
      rw [toSignificantDigits_neg] at opposite
      linarith
    · rw [toSignificantDigits_zero] at rounded
      exact lt_irrefl _ rounded
  · intro positive
    exact toSignificantDigits_pos positive some_digits

/-- A rounded number lies on the grid of each power of ten below its last digit. -/
theorem toSignificantDigits_grid {e : Int} (finer : e ≤ Int.log 10 |x| + 1 - digits)
    : ∃ units : Int, toSignificantDigits digits x = units * 10 ^ e := by
  obtain ⟨more, split⟩ := Int.le.dest finer
  refine ⟨Rounding.ROUND_HALF_UP.round (x / lastPlace digits x) * 10 ^ more, ?_⟩
  rw [toSignificantDigits, lastPlace, ← split, zpow_add₀ (by norm_num), zpow_natCast]
  push_cast
  ring

/-- So many digits of one power of ten are one digit less of the next. -/
theorem pow_mul_zpow_le {e next : Int} (some_digits : 0 < digits) (less : e < next)
    : (10 : ℚ) ^ digits * 10 ^ e ≤ 10 ^ (digits - 1) * 10 ^ next := by
  have step : (10 : ℚ) ^ e * 10 ≤ 10 ^ next := by
    rw [← zpow_add_one₀ (by norm_num)]
    exact zpow_le_zpow_right₀ (by norm_num) less
  have powers : (10 : ℚ) ^ digits = 10 ^ (digits - 1) * 10 := by
    rw [← pow_succ, Nat.sub_add_cancel some_digits]
  rw [powers, mul_assoc, mul_comm (10 : ℚ)]
  exact mul_le_mul_of_nonneg_left step (by positivity)

/-- A number of so many digits is reached from half a unit below on, by cases on whether the
number to be rounded is shorter, as long, or longer.
-/
theorem mul_le_toSignificantDigits_iff {n e : Int} (positive : 0 < x) (some_digits : 0 < digits)
    (longer : (10 : Int) ^ (digits - 1) < n) (fits : n ≤ 10 ^ digits)
    : n * 10 ^ e ≤ toSignificantDigits digits x ↔ (n - 1 / 2) * 10 ^ e ≤ x := by
  have unit : (0 : ℚ) < 10 ^ e := zpow_pos (by norm_num) e
  have longer' : (10 : ℚ) ^ (digits - 1) + 1 ≤ n := by exact_mod_cast longer
  have fits' : (n : ℚ) ≤ 10 ^ digits := by exact_mod_cast fits
  obtain ⟨lower, upper⟩ := lastPlace_bounds positive some_digits
  obtain ⟨rounded_lower, rounded_upper⟩ := toSignificantDigits_bounds positive some_digits
  have place : lastPlace digits x = 10 ^ (Int.log 10 |x| + 1 - digits) := rfl
  rcases lt_trichotomy (Int.log 10 |x| + 1 - digits) e with shorter | same | more
  · have below : (10 : ℚ) ^ digits * lastPlace digits x ≤ 10 ^ (digits - 1) * 10 ^ e :=
      pow_mul_zpow_le some_digits shorter
    constructor
    · intro reached
      nlinarith
    · intro reached
      nlinarith
  · rw [toSignificantDigits, place, same, Rounding.round,
      if_pos (div_nonneg (le_of_lt positive) (le_of_lt unit)), mul_le_mul_iff_left₀ unit,
      Int.cast_le, Int.le_floor, ← sub_le_iff_le_add, le_div_iff₀ unit]
  · have above : (10 : ℚ) ^ digits * 10 ^ e ≤ 10 ^ (digits - 1) * lastPlace digits x :=
      pow_mul_zpow_le some_digits more
    have covered := mul_le_mul_of_nonneg_right fits' (le_of_lt unit)
    constructor
    · intro _
      nlinarith
    · intro _
      linarith

/-- Between two numbers of so many digits there is none that a number is rounded to. -/
theorem mul_le_toSignificantDigits_of_lt {n e : Int} (positive : 0 < x) (some_digits : 0 < digits)
    (longer : (10 : Int) ^ (digits - 1) < n)
    (above : (n - 1) * 10 ^ e < toSignificantDigits digits x)
    : n * 10 ^ e ≤ toSignificantDigits digits x := by
  have unit : (0 : ℚ) < 10 ^ e := zpow_pos (by norm_num) e
  have finer : e ≤ Int.log 10 |x| + 1 - digits := by
    by_contra shorter
    have upper := (toSignificantDigits_bounds positive some_digits).2
    have below : (10 : ℚ) ^ digits * lastPlace digits x ≤ 10 ^ (digits - 1) * 10 ^ e :=
      pow_mul_zpow_le some_digits (not_le.mp shorter)
    have longer' : (10 : ℚ) ^ (digits - 1) + 1 ≤ n := by exact_mod_cast longer
    nlinarith
  obtain ⟨units, rounded⟩ := toSignificantDigits_grid finer
  rw [rounded] at above ⊢
  apply mul_le_mul_of_nonneg_right _ (le_of_lt unit)
  have more : ((n - 1 : Int) : ℚ) < units := by
    push_cast
    exact lt_of_mul_lt_mul_right above (le_of_lt unit)
  exact_mod_cast Int.sub_one_lt_iff.mp (by exact_mod_cast more)

/-- The digits of a bound that is no more than the next power of ten. -/
theorem digits_bounds {k : Int} (some_digits : 0 < digits)
    (lower : (10 : ℚ) ^ (k - 1) < bound) (upper : bound ≤ (10 : ℚ) ^ k)
    : (10 : ℚ) ^ (digits - 1) < bound / 10 ^ (k - digits)
      ∧ bound / 10 ^ (k - digits) ≤ (10 : ℚ) ^ digits := by
  have ten : (10 : ℚ) ≠ 0 := by norm_num
  have unit : (0 : ℚ) < 10 ^ (k - digits) := zpow_pos (by norm_num) _
  rw [lt_div_iff₀ unit, div_le_iff₀ unit, ← zpow_natCast, ← zpow_natCast, ← zpow_add₀ ten,
    ← zpow_add₀ ten]
  push_cast [Nat.one_le_iff_ne_zero.mpr (Nat.pos_iff_ne_zero.mp some_digits)]
  constructor
  · rwa [show (digits : Int) - 1 + (k - digits) = k - 1 by ring]
  · rwa [show (digits : Int) + (k - digits) = k by ring]

/-- A number is rounded to a bound or more exactly from `leastReaching` on, if the bound or the
number is positive.
-/
theorem le_toSignificantDigits_iff (some_digits : 0 < digits) (positive : 0 < bound ∨ 0 < x)
    : bound ≤ toSignificantDigits digits x ↔ leastReaching digits bound ≤ x := by
  rw [leastReaching]
  split
  · rename_i nonpos
    have x_pos := positive.resolve_left (not_lt.mpr nonpos)
    exact iff_of_true (nonpos.trans (le_of_lt (toSignificantDigits_pos x_pos some_digits)))
      (le_of_lt x_pos)
  rename_i not_nonpos
  have bound_pos : 0 < bound := not_le.mp not_nonpos
  have unit : (0 : ℚ) < 10 ^ (Int.clog 10 bound - digits) := zpow_pos (by norm_num) _
  have least : (10 : ℚ) ^ (Int.clog 10 bound - 1) < bound := by
    exact_mod_cast Int.zpow_pred_clog_lt_self (b := 10) (by norm_num) bound_pos
  have most : bound ≤ (10 : ℚ) ^ Int.clog 10 bound := by
    exact_mod_cast Int.self_le_zpow_clog (b := 10) (by norm_num) bound
  obtain ⟨lower, upper⟩ := digits_bounds some_digits least most
  have longer : (10 : Int) ^ (digits - 1) < ⌈bound / 10 ^ (Int.clog 10 bound - digits)⌉ :=
    Int.lt_ceil.mpr (by exact_mod_cast lower)
  have fits : ⌈bound / 10 ^ (Int.clog 10 bound - digits)⌉ ≤ (10 : Int) ^ digits :=
    Int.ceil_le.mpr (by exact_mod_cast upper)
  have half : (0 : ℚ) < ⌈bound / 10 ^ (Int.clog 10 bound - digits)⌉ - 1 / 2 := by
    have one : (10 : ℚ) ^ (digits - 1) < ⌈bound / 10 ^ (Int.clog 10 bound - digits)⌉ := by
      exact_mod_cast longer
    have power : (1 : ℚ) ≤ 10 ^ (digits - 1) := one_le_pow₀ (by norm_num)
    linarith
  have covers := (div_le_iff₀ unit).mp (Int.le_ceil (bound / 10 ^ (Int.clog 10 bound - digits)))
  have less := (lt_div_iff₀ unit).mp
    (sub_lt_iff_lt_add.mpr (Int.ceil_lt_add_one (bound / 10 ^ (Int.clog 10 bound - digits))))
  constructor
  · intro reached
    have positive := (toSignificantDigits_pos_iff some_digits).mp (lt_of_lt_of_le bound_pos reached)
    exact (mul_le_toSignificantDigits_iff positive some_digits longer fits).mp
      (mul_le_toSignificantDigits_of_lt positive some_digits longer (lt_of_lt_of_le less reached))
  · intro from_here
    have positive := lt_of_lt_of_le (mul_pos half unit) from_here
    exact covers.trans
      ((mul_le_toSignificantDigits_iff positive some_digits longer fits).mpr from_here)

/-- A positive number is rounded to more than a bound exactly from `leastExceeding` on. -/
theorem lt_toSignificantDigits_iff (some_digits : 0 < digits) (positive : 0 < x)
    : bound < toSignificantDigits digits x ↔ leastExceeding digits bound ≤ x := by
  rw [leastExceeding]
  split
  · rename_i nonpos
    exact iff_of_true (lt_of_le_of_lt nonpos (toSignificantDigits_pos positive some_digits))
      (le_of_lt positive)
  · rename_i bound_pos
    have unit : 0 < lastPlace digits bound := lastPlace_pos
    obtain ⟨lower, upper⟩ := lastPlace_bounds (not_le.mp bound_pos) some_digits
    rw [← le_div_iff₀ unit] at lower
    rw [← div_lt_iff₀ unit] at upper
    have longer : (10 : Int) ^ (digits - 1) < ⌊bound / lastPlace digits bound⌋ + 1 :=
      Int.lt_add_one_iff.mpr (Int.le_floor.mpr (by exact_mod_cast lower))
    have fits : ⌊bound / lastPlace digits bound⌋ + 1 ≤ (10 : Int) ^ digits :=
      Int.add_one_le_iff.mpr (Int.floor_lt.mpr (by exact_mod_cast upper))
    have covered := (le_div_iff₀ unit).mp (Int.floor_le (bound / lastPlace digits bound))
    have more := (div_lt_iff₀ unit).mp (Int.lt_floor_add_one (bound / lastPlace digits bound))
    have reached := @mul_le_toSignificantDigits_iff x digits _
      (Int.log 10 |bound| + 1 - digits) positive some_digits longer fits
    rw [← lastPlace] at reached
    push_cast at reached
    rw [show (⌊bound / lastPlace digits bound⌋ + 1 / 2 : ℚ)
      = ⌊bound / lastPlace digits bound⌋ + 1 - 1 / 2 by ring, ← reached]
    constructor
    · intro exceeded
      have next := @mul_le_toSignificantDigits_of_lt x digits _
        (Int.log 10 |bound| + 1 - digits) positive some_digits longer
      rw [← lastPlace] at next
      push_cast at next
      exact next (by rw [add_sub_cancel_right]; exact lt_of_le_of_lt covered exceeded)
    · intro next
      exact lt_of_lt_of_le more next

end Arithmetic
