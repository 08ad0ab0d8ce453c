import Mathlib.Data.List.DropRight
import Mathlib.Data.Nat.Digits.Defs
import Mathlib.Data.Rat.Defs
import Mathlib.Tactic.Linarith
import Mathlib.Tactic.Ring

/-! Decimal numbers and the text that they are rendered as. -/

namespace LuminaRail

/-- The decimal number `units * 10^-scale`. -/
structure Decimal where
  units : Int
  scale : Nat
deriving DecidableEq

/-- Division by a positive number, rounded to the nearest integer and away from zero if there
are two.
-/
def roundAway (dividend : Int) (divisor : Nat) : Int :=
  dividend.sign * ((2 * dividend.natAbs + divisor) / (2 * divisor) : Nat)

namespace Decimal

def value (d : Decimal) : ℚ := d.units / 10 ^ d.scale

/-- The value in a column of so many decimal places, in units of its last place. -/
def stored (d : Decimal) (places : Nat) : Int :=
  roundAway (d.units * 10 ^ places) (10 ^ d.scale)

/-- The nearest number of so many significant digits. -/
def toSignificant (d : Decimal) (precision : Nat) : Decimal :=
  let excess := (Nat.toDigits 10 d.units.natAbs).length - precision
  { d with units := roundAway d.units (10 ^ excess) * 10 ^ excess }

/-- The sum, to the 20 significant digits that decimal.js computes with. -/
def plus (d e : Decimal) : Decimal :=
  toSignificant ⟨d.units * 10 ^ e.scale + e.units * 10 ^ d.scale, d.scale + e.scale⟩ 20

/-- `d.gt(e)`. -/
def gt (d e : Decimal) : Prop := e.units * 10 ^ d.scale < d.units * 10 ^ e.scale

instance (d e : Decimal) : Decidable (d.gt e) := inferInstanceAs (Decidable (_ < _))

/-- The digits without trailing zeros. -/
def digits (d : Decimal) : List Char :=
  if d.units = 0 then ['0']
  else (Nat.toDigits 10 d.units.natAbs).rdropWhile (· = '0')

/-- The power of ten of the first digit. -/
def exponent (d : Decimal) : Int :=
  if d.units = 0 then 0 else (Nat.toDigits 10 d.units.natAbs).length - 1 - d.scale

/-- The text of a non-negative number: exponential notation from 10^21 on and up to 10^-7. -/
def render (d : Decimal) : List Char :=
  let digits := d.digits
  if d.exponent ≤ -7 ∨ 21 ≤ d.exponent then
    let fraction := if digits.length ≤ 1 then [] else '.' :: digits.tail
    let sign := if d.exponent < 0 then "e-" else "e+"
    digits.take 1 ++ fraction ++ sign.toList ++ Nat.toDigits 10 d.exponent.natAbs
  else if d.exponent < 0 then
    '0' :: '.' :: (List.replicate (d.exponent.natAbs - 1) '0' ++ digits)
  else
    let places := d.exponent.toNat + 1
    if places < digits.length then digits.take places ++ '.' :: digits.drop places
    else digits ++ List.replicate (places - digits.length) '0'

/-- `d.toString()`. -/
def toString (d : Decimal) : String :=
  String.ofList (if d.units < 0 then '-' :: d.render else d.render)

instance : ToString Decimal := ⟨toString⟩

example : (⟨-1234500, 4⟩ : Decimal).toString = "-123.45" := by decide +kernel

example : (⟨15, 8⟩ : Decimal).toString = "1.5e-7" := by decide +kernel

end Decimal

/-- A column of 4 decimal places. -/
def money (units : Int) : Decimal := ⟨units, 4⟩

/-- A column of 7 decimal places. -/
def stroops (units : Int) : Decimal := ⟨units, 7⟩

theorem roundAway_le_iff {dividend bound : Int} {divisor : Nat} (nonneg : 0 ≤ dividend)
    (bound_nonneg : 0 ≤ bound) (positive : 0 < divisor)
    : roundAway dividend divisor ≤ bound ↔ 2 * dividend < (2 * bound + 1) * divisor := by
  obtain ⟨n, rfl⟩ := Int.eq_ofNat_of_zero_le nonneg
  obtain ⟨k, rfl⟩ := Int.eq_ofNat_of_zero_le bound_nonneg
  have rounded : roundAway n divisor = ((2 * n + divisor) / (2 * divisor) : Nat) := by
    cases n with
    | zero => simp [roundAway, Nat.div_eq_of_lt (show divisor < 2 * divisor by omega)]
    | succ n =>
        have sign := Int.sign_eq_one_of_pos (show (0 : Int) < n + 1 by omega)
        simp only [roundAway, Nat.cast_succ, sign, one_mul]
        rfl
  rw [rounded, Int.ofNat_le, ← Nat.lt_succ_iff, Nat.div_lt_iff_lt_mul (by omega)]
  have same : (k + 1) * (2 * divisor) = (2 * k + 1) * divisor + divisor := by ring
  rw [Nat.succ_eq_add_one, same, Nat.add_lt_add_iff_right, ← Int.ofNat_lt]
  simp

theorem roundAway_nonneg {dividend : Int} (divisor : Nat) (nonneg : 0 ≤ dividend)
    : 0 ≤ roundAway dividend divisor :=
  Int.mul_nonneg (Int.sign_nonneg_iff.mpr nonneg) (Int.natCast_nonneg _)

/-- Rounding takes away less than half a unit. -/
theorem lt_roundAway {dividend : Int} {divisor : Nat} (nonneg : 0 ≤ dividend)
    (positive : 0 < divisor)
    : 2 * dividend < 2 * (roundAway dividend divisor * divisor) + divisor := by
  have bound := (roundAway_le_iff nonneg (roundAway_nonneg divisor nonneg) positive).mp le_rfl
  linarith

/-- Whole multiples of the divisor are not rounded. -/
theorem roundAway_mul (n divisor : Nat) (positive : 0 < divisor)
    : roundAway (n * divisor : Nat) divisor = n := by
  have nonneg : (0 : Int) ≤ (n * divisor : Nat) := Int.natCast_nonneg _
  refine le_antisymm ((roundAway_le_iff nonneg (Int.natCast_nonneg n) positive).mpr ?_) ?_
  · push_cast
    nlinarith
  · by_contra below
    have near := lt_roundAway nonneg positive
    have less : roundAway (n * divisor : Nat) divisor + 1 ≤ n := by omega
    have scaled := mul_le_mul_of_nonneg_right less (Int.natCast_nonneg divisor)
    push_cast at near scaled
    nlinarith

namespace Decimal

theorem stored_nonneg {d : Decimal} {places : Nat} (nonneg : 0 ≤ d.units)
    : 0 ≤ d.stored places :=
  roundAway_nonneg _ (Int.mul_nonneg nonneg (by positivity))

/-- Rounding to so many significant digits takes away less than half a unit of the last of them,
and there is something to round only if the number has more digits.
-/
theorem lt_toSignificant {d : Decimal} {precision : Nat} (positive : 0 < d.units)
    (some_digits : 0 < precision)
    : ∃ excess, 2 * d.units < 2 * (d.toSignificant precision).units + 10 ^ excess
        ∧ (excess ≠ 0 → (10 : Int) ^ (precision + excess - 1) ≤ d.units) := by
  refine ⟨(Nat.toDigits 10 d.units.natAbs).length - precision, ?_, fun more => ?_⟩
  · have near := lt_roundAway (le_of_lt positive)
      (show 0 < 10 ^ ((Nat.toDigits 10 d.units.natAbs).length - precision) by positivity)
    rw [toSignificant]
    exact_mod_cast near
  · by_contra small
    have few : d.units.natAbs < 10 ^ (precision
        + ((Nat.toDigits 10 d.units.natAbs).length - precision) - 1) := by
      rw [← Int.ofNat_lt]
      push_cast
      rw [abs_of_pos positive]
      exact not_le.mp small
    have short := Nat.toDigits_length 10 _ _ (by omega) few
    omega

/-- An amount that does not exceed what remains of another one, as far as 20 significant digits
tell, does not exceed it either when it is stored: whatever the digits do not tell is less than half
of the last decimal place.
-/
theorem add_stored_le {total amount : Int} {d : Decimal} (nonneg : 0 ≤ total)
    (le : total ≤ amount) (fits : amount < 10 ^ 18) (positive : 0 < d.units)
    (within : ¬((money total).plus d).gt (money amount))
    : total + d.stored 4 ≤ amount := by
  set scaled : Int := 10 ^ d.scale with scaled_eq
  have scaled_pos : 0 < scaled := by positivity
  have sum_pos : 0 < total * scaled + d.units * 10 ^ 4 := by positivity
  obtain ⟨excess, near, many⟩ :=
    lt_toSignificant (d := ⟨total * scaled + d.units * 10 ^ 4, 4 + d.scale⟩) sum_pos
      (show 0 < 20 by omega)
  have compared : (toSignificant ⟨total * scaled + d.units * 10 ^ 4, 4 + d.scale⟩ 20).units
      ≤ amount * scaled := by
    have within : _ * (10 : Int) ^ 4 ≤ amount * 10 ^ (4 + d.scale) := not_lt.mp within
    have split : amount * (10 : Int) ^ (4 + d.scale) = amount * scaled * 10 ^ 4 := by
      rw [pow_add]
      ring
    rw [split] at within
    exact le_of_mul_le_mul_right within (by norm_num)
  have excess_le : (10 : Int) ^ excess ≤ scaled := by
    -- otherwise the sum has so many digits that it exceeds every amount
    by_contra more
    have longer : d.scale + 1 ≤ excess := by
      by_contra shorter
      exact more (pow_le_pow_right₀ (by norm_num) (by omega))
    have scaled_le : scaled * 10 ≤ 10 ^ excess := by
      rw [scaled_eq, ← pow_succ]
      exact pow_le_pow_right₀ (by norm_num) longer
    have many := many (by omega)
    have exponent : 20 + excess - 1 = 19 + excess := by omega
    rw [exponent, pow_add] at many
    have bounded : amount * scaled ≤ 10 ^ 18 * scaled :=
      mul_le_mul_of_nonneg_right (le_of_lt fits) (le_of_lt scaled_pos)
    have excess_pos : (0 : Int) < 10 ^ excess := by positivity
    simp only at near many
    linarith
  have stored : roundAway (d.units * 10 ^ 4) (10 ^ d.scale) ≤ amount - total :=
    (roundAway_le_iff (by positivity) (by omega) (by positivity)).mpr (by
      push_cast
      rw [← scaled_eq]
      simp only at near
      linarith)
  rw [Decimal.stored]
  linarith

/-- A number of so many significant digits, and zeros after them, stays as it is. -/
theorem toSignificant_of_mul {n precision : Nat} (fits : n < 10 ^ precision)
    (some_digits : 0 < precision) (places scale : Nat)
    : (⟨(n * 10 ^ places : Nat), scale⟩ : Decimal).toSignificant precision
      = ⟨(n * 10 ^ places : Nat), scale⟩ := by
  have few : n * 10 ^ places < 10 ^ (precision + places) := by
    rw [pow_add]
    exact Nat.mul_lt_mul_of_pos_right fits (by positivity)
  have short := Nat.toDigits_length 10 _ _ (by omega) few
  rw [toSignificant, Int.natAbs_natCast]
  set excess := (Nat.toDigits 10 (n * 10 ^ places)).length - precision with excess_eq
  have split : n * 10 ^ places = n * 10 ^ (places - excess) * 10 ^ excess := by
    rw [mul_assoc, ← pow_add, Nat.sub_add_cancel (by omega)]
  congr 1
  show roundAway ((n * 10 ^ places : Nat) : Int) (10 ^ excess) * 10 ^ excess = (n * 10 ^ places : Nat)
  rw [split, roundAway_mul _ _ (by positivity)]
  push_cast
  rfl

/-- What remains of an amount may be asked for, and is stored as it is, however it is written. -/
theorem remaining_exact {total rest : Int} {d : Decimal} (nonneg : 0 ≤ total) (positive : 0 < rest)
    (fits : total + rest < 10 ^ 18) (same : d.units * 10 ^ 4 = rest * 10 ^ d.scale)
    : 0 < d.units ∧ ¬((money total).plus d).gt (money (total + rest)) ∧ d.stored 4 = rest := by
  obtain ⟨n, sum⟩ := Int.eq_ofNat_of_zero_le (show 0 ≤ total + rest by omega)
  obtain ⟨k, rfl⟩ := Int.eq_ofNat_of_zero_le (le_of_lt positive)
  refine ⟨?_, ?_, ?_⟩
  · have scaled : 0 < (k : Int) * 10 ^ d.scale := by positivity
    omega
  · have units : total * 10 ^ d.scale + d.units * 10 ^ 4 = ((n * 10 ^ d.scale : Nat) : Int) := by
      rw [same, Nat.cast_mul, ← sum]
      push_cast
      ring
    have exact := toSignificant_of_mul (show n < 10 ^ 20 by omega) (by omega) d.scale (4 + d.scale)
    have plus : (money total).plus d = ⟨(n * 10 ^ d.scale : Nat), 4 + d.scale⟩ := by
      rw [← exact, ← units]
      rfl
    rw [plus, sum]
    show ¬(n : Int) * 10 ^ (4 + d.scale) < ((n * 10 ^ d.scale : Nat) : Int) * 10 ^ 4
    push_cast
    rw [pow_add]
    linarith
  · have units : d.units * 10 ^ 4 = ((k * 10 ^ d.scale : Nat) : Int) := by
      push_cast
      exact same
    rw [Decimal.stored, units, roundAway_mul k _ (by positivity)]

end Decimal

end LuminaRail
