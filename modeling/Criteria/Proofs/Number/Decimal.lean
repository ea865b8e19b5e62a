import Mathlib.Data.Rat.Cast.Order
import Mathlib.Tactic.FieldSimp
import Mathlib.Tactic.Ring
import Mathlib.Algebra.Order.Field.Power
import Criteria.Number.Decimal
import Criteria.Proofs.Number.Digits

/-!
# The value of a decimal number

A decimal number is a rational number: its coefficient scaled by a power of ten.  The coefficient's
number of digits bounds it from both sides.  Whether it is an integer can be read off its digits
(`Decimal.isIntegral_iff`), and then it is converted to that integer as far as there is room
(`Decimal.toInteger?_eq_some_iff`).
-/

namespace Criteria

namespace Decimal

/-- The absolute value of the number. -/
def magnitude (number : Decimal) : ℚ :=
  number.coefficient * 10 ^ number.exponent

/-- The number itself; both zeros are `0`. -/
def value (number : Decimal) : ℚ :=
  if number.negative then -number.magnitude else number.magnitude

variable (number : Decimal)

theorem magnitude_nonneg : 0 ≤ number.magnitude := by
  unfold magnitude
  positivity

@[simp]
theorem abs_value : |number.value| = number.magnitude := by
  unfold value
  split
  · rw [abs_neg, abs_of_nonneg number.magnitude_nonneg]
  · rw [abs_of_nonneg number.magnitude_nonneg]

theorem value_eq_signed_mul :
    number.value = number.signed number.coefficient * 10 ^ number.exponent := by
  unfold value signed magnitude
  split
  · push_cast
    ring
  · push_cast
    ring

@[simp]
theorem natAbs_signed (absolute : ℕ) : (number.signed absolute).natAbs = absolute := by
  unfold signed
  split <;> simp

theorem signed_mul (left right : ℕ) :
    number.signed (left * right) = number.signed left * right := by
  unfold signed
  split
  · push_cast
    ring
  · push_cast
    rfl

/-! ## Size -/

/-- A number is less than the power of ten above its leading digit. -/
theorem magnitude_lt : number.magnitude < 10 ^ (number.adjusted + 1) := by
  have bound : (number.coefficient : ℚ) < 10 ^ digitCount number.coefficient := by
    exact_mod_cast lt_pow_digitCount number.coefficient
  have split : number.adjusted + 1 = (digitCount number.coefficient : ℤ) + number.exponent := by
    unfold adjusted
    ring
  rw [split, zpow_add₀ (by norm_num), zpow_natCast, magnitude]
  exact mul_lt_mul_of_pos_right bound (by positivity)

/-- A number is at least the power of ten at its leading digit. -/
theorem le_magnitude {number : Decimal} (positive : number.coefficient ≠ 0) :
    10 ^ number.adjusted ≤ number.magnitude := by
  have bound : (10 : ℚ) ^ digitCount number.coefficient ≤ 10 * number.coefficient := by
    exact_mod_cast pow_digitCount_le positive
  have split : number.adjusted = (digitCount number.coefficient : ℤ) + (number.exponent - 1) := by
    unfold adjusted
    ring
  calc
    (10 : ℚ) ^ number.adjusted
        = 10 ^ digitCount number.coefficient * 10 ^ (number.exponent - 1) := by
          rw [split, zpow_add₀ (by norm_num), zpow_natCast]
    _ ≤ 10 * number.coefficient * 10 ^ (number.exponent - 1) := by
          gcongr
    _ = number.magnitude := by
          rw [zpow_sub_one₀ (by norm_num), magnitude]
          ring

/-! ## Integers -/

theorem value_of_nonneg {number : Decimal} (whole : 0 ≤ number.exponent) :
    number.value = number.signed (number.coefficient * 10 ^ number.exponent.toNat) := by
  have power : (10 : ℚ) ^ number.exponent = 10 ^ number.exponent.toNat := by
    rw [← zpow_natCast, Int.toNat_of_nonneg whole]
  rw [value, magnitude, power, signed]
  split <;> push_cast <;> rfl

theorem value_mul_of_neg {number : Decimal} (fractional : number.exponent < 0) :
    number.value * 10 ^ number.places = number.signed number.coefficient := by
  have power : (10 : ℚ) ^ number.exponent * 10 ^ number.places = 1 := by
    rw [← zpow_natCast, ← zpow_add₀ (by norm_num), places, Int.toNat_of_nonneg (by omega),
      add_neg_cancel, zpow_zero]
  rw [value_eq_signed_mul, mul_assoc, power, mul_one]

/-- A number with places is an integer if all of them are zeros; then it is what is before them. -/
theorem value_eq_iff_of_neg {number : Decimal} (fractional : number.exponent < 0) (whole : ℤ) :
    number.value = whole ↔
      number.coefficient % 10 ^ number.places = 0 ∧
        number.signed (number.coefficient / 10 ^ number.places) = whole := by
  have scaled : number.value = whole ↔
      whole * 10 ^ number.places = number.signed number.coefficient := by
    rw [← mul_left_inj' (by positivity : (10 : ℚ) ^ number.places ≠ 0),
      value_mul_of_neg fractional]
    constructor
    · intro same
      exact_mod_cast same.symm
    · intro same
      exact_mod_cast same.symm
  have kept (divides : number.coefficient % 10 ^ number.places = 0) :
      number.signed (number.coefficient / 10 ^ number.places) * 10 ^ number.places =
        number.signed number.coefficient := by
    have product := number.signed_mul (number.coefficient / 10 ^ number.places)
      (10 ^ number.places)
    rw [Nat.div_mul_cancel (Nat.dvd_of_mod_eq_zero divides)] at product
    rw [product]
    push_cast
    rfl
  rw [scaled]
  constructor
  · intro same
    have absolute : number.coefficient = whole.natAbs * 10 ^ number.places := by
      rw [← number.natAbs_signed number.coefficient, ← same, Int.natAbs_mul]
      rfl
    have divides : number.coefficient % 10 ^ number.places = 0 := by
      rw [absolute, Nat.mul_mod_left]
    exact ⟨divides, mul_right_cancel₀ (by positivity) ((kept divides).trans same.symm)⟩
  · rintro ⟨divides, rfl⟩
    exact kept divides

/-- A number with places after the point is integral exactly if they are all zero. -/
theorem isIntegral_of_neg {number : Decimal} (fractional : number.exponent < 0) :
    number.isIntegral = true ↔ number.coefficient % 10 ^ number.places = 0 := by
  have notWhole : ¬ 0 ≤ number.exponent := by omega
  simp only [isIntegral, notWhole, decide_false, Bool.or_false, Bool.or_eq_true, beq_iff_eq,
    Bool.and_eq_true, decide_eq_true_eq, powerOfTen_eq]
  constructor
  · rintro (zero | ⟨_, divides⟩)
    · rw [zero, Nat.zero_mod]
    · exact divides
  · intro divides
    by_cases zero : number.coefficient = 0
    · exact .inl zero
    · refine .inr ⟨?_, divides⟩
      by_contra short
      -- A number with too few digits is its own remainder.
      have small : number.coefficient < 10 ^ number.places :=
        (lt_pow_digitCount _).trans_le (Nat.pow_le_pow_right (by decide) (not_lt.mp short))
      rw [Nat.mod_eq_of_lt small] at divides
      exact zero divides

/-- The numbers that are recognised as integers are those that have an integer for their value. -/
theorem isIntegral_iff : number.isIntegral = true ↔ ∃ whole : ℤ, number.value = whole := by
  by_cases fractional : number.exponent < 0
  · simp only [isIntegral_of_neg fractional, value_eq_iff_of_neg fractional, exists_and_left,
      exists_eq', and_true]
  · have nonneg : 0 ≤ number.exponent := by omega
    refine iff_of_true ?_ ⟨_, value_of_nonneg nonneg⟩
    rw [isIntegral, decide_eq_true nonneg, Bool.or_true, Bool.true_or]

section Machine

variable [Machine] {number}

/-- There is room for the numbers that have no more digits before the point than the machine has. -/
theorem fits_iff : number.fits = true ↔ number.magnitude < 10 ^ Machine.digits := by
  simp only [fits, Bool.or_eq_true, beq_iff_eq, decide_eq_true_eq]
  by_cases zero : number.coefficient = 0
  · refine iff_of_true (.inl zero) ?_
    rw [magnitude, zero, Nat.cast_zero, zero_mul]
    positivity
  · rw [or_iff_right zero, ← zpow_natCast]
    constructor
    · intro below
      exact number.magnitude_lt.trans_le (zpow_le_zpow_right₀ (by norm_num) below)
    · intro small
      exact (zpow_lt_zpow_iff_right₀ (by norm_num)).mp ((le_magnitude zero).trans_lt small)

/-- No machine has room for more digits than an integer can have. -/
theorem fits_of_greatestDigits_le
    (positive : number.coefficient ≠ 0) (large : greatestDigits ≤ number.adjusted) :
    number.fits = false := by
  have digits := Machine.digits_le
  simp only [fits, Bool.or_eq_false_iff, beq_eq_false_iff_ne, decide_eq_false_iff_not]
  exact ⟨positive, by omega⟩

/-- If there is room, the integer is the number, cut off at its point. -/
theorem toInteger?_of_fits (fits : number.fits = true) :
    number.toInteger? =
      some (number.signed (if 0 ≤ number.exponent then
          number.coefficient * 10 ^ number.exponent.toNat
        else number.coefficient / 10 ^ number.places)) := by
  simp only [toInteger?, fits, powerOfTen_eq]
  by_cases zero : number.coefficient = 0
  · simp [zero, signed]
  · rw [if_neg zero]
    rfl

theorem toInteger?_of_not_fits (large : number.fits = false) : number.toInteger? = none := by
  rw [toInteger?, large]
  rfl

/-- An integral number is converted to the integer that it is, if there is room for it. -/
theorem toInteger?_eq_some_iff (integral : number.isIntegral = true) (whole : ℤ) :
    number.toInteger? = some whole ↔ number.value = whole ∧ number.fits = true := by
  cases fits : number.fits with
  | false => simp [toInteger?_of_not_fits fits]
  | true =>
      rw [toInteger?_of_fits fits, Option.some.injEq]
      by_cases fractional : number.exponent < 0
      · have divides := (isIntegral_of_neg fractional).mp integral
        rw [if_neg (not_le.mpr fractional), value_eq_iff_of_neg fractional]
        simp [divides]
      · have nonneg : 0 ≤ number.exponent := by omega
        rw [if_pos nonneg, value_of_nonneg nonneg, Int.cast_inj]
        simp

/-- A number has no integer exactly if there is no room for it. -/
theorem toInteger?_eq_none_iff : number.toInteger? = none ↔ number.fits = false := by
  cases fits : number.fits with
  | false => simp [toInteger?_of_not_fits fits]
  | true => simp [toInteger?_of_fits fits]

end Machine

end Decimal

end Criteria
