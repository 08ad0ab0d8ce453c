import Mathlib.Algebra.Order.Floor.Ring
import Mathlib.Algebra.Order.Round
import Mathlib.Data.Int.Log
import Mathlib.Data.Rat.Floor
import Mathlib.Tactic.Linarith
import Mathlib.Tactic.NormNum

/-! Binary floating point of 53 significant bits. A number is rounded to the nearest double, which is
off by at most a 2^53rd of it. Exponents are taken to be in range.
-/

namespace Arithmetic

/-- The nearest integer, the even one where there are two. -/
def roundTiesToEven (x : ℚ) : Int :=
  if x - ⌊x⌋ < 1 / 2 then ⌊x⌋
  else if 1 / 2 < x - ⌊x⌋ then ⌊x⌋ + 1
  else ⌊x⌋ + ⌊x⌋ % 2

/-- The unit of the last of 53 bits. -/
def ulp (x : ℚ) : ℚ := 2 ^ (Int.log 2 |x| - 52)

/-- The double that is nearest to a number. -/
def toDouble (x : ℚ) : ℚ := roundTiesToEven (x / ulp x) * ulp x

variable {x y : ℚ}

theorem ulp_pos : 0 < ulp x := zpow_pos (by norm_num) _

theorem ulp_le (nonzero : x ≠ 0) : ulp x ≤ |x| / 2 ^ 52 := by
  have first := Int.zpow_log_le_self (b := 2) (by norm_num) (abs_pos.mpr nonzero)
  rw [ulp, zpow_sub₀ (by norm_num), le_div_iff₀ (by positivity)]
  push_cast at first
  calc (2 : ℚ) ^ Int.log 2 |x| / 2 ^ (52 : Int) * 2 ^ 52
      = 2 ^ Int.log 2 |x| := div_mul_cancel₀ _ (by positivity)
    _ ≤ |x| := first

theorem abs_roundTiesToEven_sub_le : |(roundTiesToEven x : ℚ) - x| ≤ 1 / 2 := by
  have lower := Int.floor_le x
  have upper := Int.lt_floor_add_one x
  have parity : ⌊x⌋ % 2 = 0 ∨ ⌊x⌋ % 2 = 1 := by omega
  rw [abs_le, roundTiesToEven]
  split_ifs with below above
  · constructor <;> linarith
  · push_cast
    constructor <;> linarith
  · rcases parity with even | odd
    · rw [even]
      push_cast
      constructor <;> linarith
    · rw [odd]
      push_cast
      constructor <;> linarith

/-- A double is off by at most half a unit of its last bit. -/
theorem abs_toDouble_sub_le : |toDouble x - x| ≤ |x| / 2 ^ 53 := by
  by_cases zero : x = 0
  · subst zero
    have nothing : roundTiesToEven (0 : ℚ) = 0 := by simp [roundTiesToEven]
    simp [toDouble, nothing]
  · have unit : 0 < ulp x := ulp_pos
    have exact : toDouble x - x = (roundTiesToEven (x / ulp x) - x / ulp x) * ulp x := by
      rw [toDouble, sub_mul, div_mul_cancel₀ _ (ne_of_gt unit)]
    calc |toDouble x - x|
        = |(roundTiesToEven (x / ulp x) : ℚ) - x / ulp x| * ulp x := by
          rw [exact, abs_mul, abs_of_pos unit]
      _ ≤ 1 / 2 * (|x| / 2 ^ 52) :=
          mul_le_mul abs_roundTiesToEven_sub_le (ulp_le zero) (le_of_lt unit) (by norm_num)
      _ = |x| / 2 ^ 53 := by ring

/-- Numbers with the same double are close. -/
theorem abs_sub_le_of_toDouble_eq (same : toDouble x = toDouble y)
    : |x - y| ≤ (|x| + |y|) / 2 ^ 53 := by
  have first := abs_le.mp (abs_toDouble_sub_le (x := x))
  have second := abs_le.mp (abs_toDouble_sub_le (x := y))
  rw [same] at first
  rw [abs_le, add_div]
  constructor <;> linarith

end Arithmetic
