import Mathlib.Algebra.Order.Floor.Ring
import Mathlib.Data.Rat.Floor
import Mathlib.Tactic.FieldSimp
import Mathlib.Tactic.Linarith
import Mathlib.Tactic.Positivity
import Mathlib.Tactic.Ring

/-! Rounding to decimal places. The numbers of so many places form a grid, and rounding a number up
or down yields the nearest point of it on that side.
-/

namespace Arithmetic

section

variable {K : Type*} [Field K] {x y : K} {places : Nat}

/-- The number has so many decimal places. -/
def OnGrid (places : Nat) (x : K) : Prop := ∃ units : Int, x = units / 10 ^ places

theorem onGrid_zero : OnGrid places (0 : K) := ⟨0, by simp⟩

theorem OnGrid.add (left : OnGrid places x) (right : OnGrid places y) : OnGrid places (x + y) := by
  obtain ⟨m, rfl⟩ := left
  obtain ⟨n, rfl⟩ := right
  exact ⟨m + n, by push_cast; ring⟩

theorem OnGrid.sub (left : OnGrid places x) (right : OnGrid places y) : OnGrid places (x - y) := by
  obtain ⟨m, rfl⟩ := left
  obtain ⟨n, rfl⟩ := right
  exact ⟨m - n, by push_cast; ring⟩

end

variable {K : Type*} [Field K] [LinearOrder K] [FloorRing K]

/-- The direction in which a number is rounded: away from zero, towards zero, or to the nearest,
away from zero where there are two.
-/
inductive Rounding
  | ROUND_UP
  | ROUND_DOWN
  | ROUND_HALF_UP
deriving DecidableEq

/-- The integer that a number is rounded to. -/
def Rounding.round : Rounding → K → Int
  | .ROUND_UP, x => if 0 ≤ x then ⌈x⌉ else ⌊x⌋
  | .ROUND_DOWN, x => if 0 ≤ x then ⌊x⌋ else ⌈x⌉
  | .ROUND_HALF_UP, x => if 0 ≤ x then ⌊x + 1 / 2⌋ else ⌈x - 1 / 2⌉

/-- The number of so many decimal places that a number is rounded to. -/
def toDecimalPlaces (x : K) (places : Nat) (rounding : Rounding) : K :=
  rounding.round (x * 10 ^ places) / 10 ^ places

variable {x y : K} {places : Nat} {rounding : Rounding}

theorem onGrid_toDecimalPlaces : OnGrid places (toDecimalPlaces x places rounding) := ⟨_, rfl⟩

variable [IsStrictOrderedRing K]

theorem Rounding.round_intCast (units : Int) : rounding.round (units : K) = units := by
  have half : (0 : K) ≤ 1 / 2 ∧ (1 : K) / 2 < 1 := by constructor <;> norm_num
  cases rounding with
  | ROUND_UP => simp [Rounding.round]
  | ROUND_DOWN => simp [Rounding.round]
  | ROUND_HALF_UP =>
      simp only [Rounding.round]
      split
      · rw [Int.floor_eq_iff]
        constructor <;> linarith [half.1, half.2]
      · rw [Int.ceil_eq_iff]
        constructor <;> linarith [half.1, half.2]

/-- A number is rounded to the integer that is less than a half away. -/
theorem Rounding.round_half_up_eq {units : Int} (near : |x - units| < 1 / 2)
    : Rounding.ROUND_HALF_UP.round x = units := by
  obtain ⟨lower, upper⟩ := abs_lt.mp near
  simp only [Rounding.round]
  split
  · rw [Int.floor_eq_iff]
    constructor <;> linarith
  · rw [Int.ceil_eq_iff]
    constructor <;> linarith

/-- A number on the grid stays as it is. -/
theorem toDecimalPlaces_of_onGrid (onGrid : OnGrid places x)
    : toDecimalPlaces x places rounding = x := by
  obtain ⟨units, rfl⟩ := onGrid
  rw [toDecimalPlaces, div_mul_cancel₀ _ (by positivity), Rounding.round_intCast]

/-- Rounding up yields the least number on the grid that is not less. -/
theorem toDecimalPlaces_up_le_iff (nonneg : 0 ≤ x) (onGrid : OnGrid places y)
    : toDecimalPlaces x places .ROUND_UP ≤ y ↔ x ≤ y := by
  obtain ⟨units, rfl⟩ := onGrid
  have power : (0 : K) < 10 ^ places := by positivity
  have scaled : 0 ≤ x * 10 ^ places := mul_nonneg nonneg (le_of_lt power)
  rw [toDecimalPlaces, Rounding.round, if_pos scaled, div_le_div_iff_of_pos_right power,
    Int.cast_le, Int.ceil_le, le_div_iff₀ power]

/-- Rounding down yields the greatest number on the grid that is not greater. -/
theorem le_toDecimalPlaces_down_iff (nonneg : 0 ≤ x) (onGrid : OnGrid places y)
    : y ≤ toDecimalPlaces x places .ROUND_DOWN ↔ y ≤ x := by
  obtain ⟨units, rfl⟩ := onGrid
  have power : (0 : K) < 10 ^ places := by positivity
  have scaled : 0 ≤ x * 10 ^ places := mul_nonneg nonneg (le_of_lt power)
  rw [toDecimalPlaces, Rounding.round, if_pos scaled, div_le_div_iff_of_pos_right power,
    Int.cast_le, Int.le_floor, div_le_iff₀ power]

theorem le_toDecimalPlaces_up (nonneg : 0 ≤ x) : x ≤ toDecimalPlaces x places .ROUND_UP :=
  (toDecimalPlaces_up_le_iff nonneg onGrid_toDecimalPlaces).mp le_rfl

theorem toDecimalPlaces_down_le (nonneg : 0 ≤ x) : toDecimalPlaces x places .ROUND_DOWN ≤ x :=
  (le_toDecimalPlaces_down_iff nonneg onGrid_toDecimalPlaces).mp le_rfl

theorem toDecimalPlaces_down_mono (nonneg : 0 ≤ x) (le : x ≤ y)
    : toDecimalPlaces x places .ROUND_DOWN ≤ toDecimalPlaces y places .ROUND_DOWN :=
  (le_toDecimalPlaces_down_iff (nonneg.trans le) onGrid_toDecimalPlaces).mpr
    ((toDecimalPlaces_down_le nonneg).trans le)

theorem toDecimalPlaces_nonneg (nonneg : 0 ≤ x) : 0 ≤ toDecimalPlaces x places .ROUND_DOWN :=
  (le_toDecimalPlaces_down_iff nonneg onGrid_zero).mpr nonneg

/-- A rounded number is positive exactly if the integer it is rounded to is. -/
theorem toDecimalPlaces_pos_iff
    : 0 < toDecimalPlaces x places rounding ↔ 1 ≤ rounding.round (x * 10 ^ places) := by
  have power : (0 : K) < 10 ^ places := by positivity
  rw [toDecimalPlaces, div_pos_iff_of_pos_right power, Int.cast_pos, Int.lt_iff_add_one_le,
    zero_add]

/-- Rounding up leaves every positive number positive, and no other. -/
theorem toDecimalPlaces_up_pos_iff : 0 < toDecimalPlaces x places .ROUND_UP ↔ 0 < x := by
  have power : (0 : K) < 10 ^ places := by positivity
  rw [toDecimalPlaces_pos_iff, Rounding.round]
  split
  · rw [Int.one_le_ceil_iff, mul_pos_iff_of_pos_right power]
  · rename_i negative
    have below : x * 10 ^ places < 0 := not_le.mp negative
    have not_pos : ¬0 < x := fun positive =>
      negative (mul_nonneg (le_of_lt positive) (le_of_lt power))
    have floor : ⌊x * 10 ^ places⌋ < 0 := Int.floor_lt.mpr (by simpa using below)
    simp only [not_pos, iff_false]
    omega

/-- A number that is rounded down stays positive if it has a unit of the last place. -/
theorem toDecimalPlaces_down_pos_iff
    : 0 < toDecimalPlaces x places .ROUND_DOWN ↔ 1 / 10 ^ places ≤ x := by
  have power : (0 : K) < 10 ^ places := by positivity
  rw [toDecimalPlaces_pos_iff, Rounding.round, div_le_iff₀ power]
  split
  · rw [Int.le_floor, Int.cast_one]
  · rename_i negative
    have below : x * 10 ^ places < 0 := not_le.mp negative
    constructor
    · intro one
      have ceil : ⌈x * 10 ^ places⌉ ≤ 0 := Int.ceil_le.mpr (by simpa using le_of_lt below)
      omega
    · intro unit
      linarith

/-- A positive number stays positive if it has half a unit of the last place. -/
theorem toDecimalPlaces_half_up_pos_iff (nonneg : 0 ≤ x)
    : 0 < toDecimalPlaces x places .ROUND_HALF_UP ↔ 1 / 2 / 10 ^ places ≤ x := by
  have power : (0 : K) < 10 ^ places := by positivity
  rw [toDecimalPlaces_pos_iff, Rounding.round, if_pos (mul_nonneg nonneg (le_of_lt power)),
    Int.le_floor, div_le_iff₀ power, Int.cast_one]
  constructor
  · intro unit
    linarith
  · intro half
    linarith

/-- The least number that is rounded half up to a bound or more. -/
def reachesFrom (places : Nat) (bound : K) : K := (⌈bound * 10 ^ places⌉ - 1 / 2) / 10 ^ places

/-- The least number that is rounded half up to more than a bound. -/
def exceedsFrom (places : Nat) (bound : K) : K := (⌊bound * 10 ^ places⌋ + 1 / 2) / 10 ^ places

theorem le_toDecimalPlaces_half_up_iff (nonneg : 0 ≤ x)
    : y ≤ toDecimalPlaces x places .ROUND_HALF_UP ↔ reachesFrom places y ≤ x := by
  have power : (0 : K) < 10 ^ places := by positivity
  rw [toDecimalPlaces, reachesFrom, Rounding.round,
    if_pos (mul_nonneg nonneg (le_of_lt power)), le_div_iff₀ power, div_le_iff₀ power,
    sub_le_iff_le_add, ← Int.le_floor, ← Int.ceil_le]

theorem lt_toDecimalPlaces_half_up_iff (nonneg : 0 ≤ x)
    : y < toDecimalPlaces x places .ROUND_HALF_UP ↔ exceedsFrom places y ≤ x := by
  have power : (0 : K) < 10 ^ places := by positivity
  rw [toDecimalPlaces, exceedsFrom, Rounding.round,
    if_pos (mul_nonneg nonneg (le_of_lt power)), lt_div_iff₀ power, div_le_iff₀ power,
    ← Int.floor_lt, ← Int.add_one_le_iff, Int.le_floor]
  push_cast
  constructor
  · intro reached
    linarith
  · intro reached
    linarith

/-- The greatest number of so many places that is less than a bound. -/
def placeBelow (places : Nat) (bound : K) : K := (⌈bound * 10 ^ places⌉ - 1) / 10 ^ places

/-- The greatest number of so many places that is not more than a bound. -/
def placeWithin (places : Nat) (bound : K) : K := ⌊bound * 10 ^ places⌋ / 10 ^ places

/-- What is rounded up reaches a bound if it is more than the place below the bound. -/
theorem le_toDecimalPlaces_up_iff (nonneg : 0 ≤ x)
    : y ≤ toDecimalPlaces x places .ROUND_UP ↔ placeBelow places y < x := by
  have power : (0 : K) < 10 ^ places := by positivity
  rw [toDecimalPlaces, placeBelow, Rounding.round,
    if_pos (mul_nonneg nonneg (le_of_lt power)), le_div_iff₀ power, div_lt_iff₀ power,
    ← Int.ceil_le, ← Int.sub_one_lt_iff, Int.lt_ceil]
  push_cast
  rfl

/-- What is rounded up exceeds a bound if it is more than the place within the bound. -/
theorem lt_toDecimalPlaces_up_iff (nonneg : 0 ≤ x)
    : y < toDecimalPlaces x places .ROUND_UP ↔ placeWithin places y < x := by
  have power : (0 : K) < 10 ^ places := by positivity
  rw [toDecimalPlaces, placeWithin, Rounding.round,
    if_pos (mul_nonneg nonneg (le_of_lt power)), lt_div_iff₀ power, div_lt_iff₀ power,
    ← Int.floor_lt, Int.lt_ceil]

theorem toDecimalPlaces_half_up_nonneg (nonneg : 0 ≤ x)
    : 0 ≤ toDecimalPlaces x places .ROUND_HALF_UP := by
  have power : (0 : K) < 10 ^ places := by positivity
  have scaled : 0 ≤ x * 10 ^ places := mul_nonneg nonneg (le_of_lt power)
  rw [toDecimalPlaces, Rounding.round, if_pos scaled]
  have floor : 0 ≤ ⌊x * 10 ^ places + 1 / 2⌋ := Int.floor_nonneg.mpr (by linarith)
  exact div_nonneg (by exact_mod_cast floor) (le_of_lt power)

/-- What is taken together is rounded up to no more than what is taken apart. -/
theorem toDecimalPlaces_up_add_le (left : 0 ≤ x) (right : 0 ≤ y)
    : toDecimalPlaces (x + y) places .ROUND_UP
      ≤ toDecimalPlaces x places .ROUND_UP + toDecimalPlaces y places .ROUND_UP :=
  (toDecimalPlaces_up_le_iff (add_nonneg left right)
    (onGrid_toDecimalPlaces.add onGrid_toDecimalPlaces)).mpr
    (add_le_add (le_toDecimalPlaces_up left) (le_toDecimalPlaces_up right))

/-- What is taken together is rounded down to no less than what is taken apart. -/
theorem add_le_toDecimalPlaces_down (left : 0 ≤ x) (right : 0 ≤ y)
    : toDecimalPlaces x places .ROUND_DOWN + toDecimalPlaces y places .ROUND_DOWN
      ≤ toDecimalPlaces (x + y) places .ROUND_DOWN :=
  (le_toDecimalPlaces_down_iff (add_nonneg left right)
    (onGrid_toDecimalPlaces.add onGrid_toDecimalPlaces)).mpr
    (add_le_add (toDecimalPlaces_down_le left) (toDecimalPlaces_down_le right))

end Arithmetic
