import Mathlib.Algebra.Order.Field.Basic
import Mathlib.Algebra.Order.Field.Power
import Mathlib.Tactic.FieldSimp
import Mathlib.Tactic.Linarith
import Mathlib.Tactic.Positivity
import Mathlib.Tactic.Ring
import Criteria.Number.Double
import Criteria.Proofs.Number.Decimal

/-!
# Rounding to doubles

Rounding counts in units of `2 ^ -1074` and keeps 53 significant bits: what is kept is an integer
nearest to the exact number of places, and an even one if two are equally near (`IsNearest`).
A decimal number is rounded in this way unless it is too large, which it is exactly from halfway
between the largest double and the next power of two on (`rounds_ofDecimal`).
-/

namespace Criteria

namespace Double

/-- The absolute value of a finite double. -/
def absolute (double : Double) : ℚ :=
  unitsOf double.magnitude / unitsPerOne

/-- The rational number that a finite double is; both zeros are `0`. -/
def value (double : Double) : ℚ :=
  if double.negative then -double.absolute else double.absolute

/-- Halfway between the largest double and the next power of two. -/
def overflow : ℚ :=
  2 ^ 1024 - 2 ^ 970

/--
An exact number of units is rounded to `kept` places of `2 ^ shift` units each.  The place is the
smallest one that leaves no more than 53 bits.
-/
structure IsNearest (exact : ℚ) (shift kept : ℕ) : Prop where
  close : |exact / 2 ^ shift - kept| ≤ 1 / 2
  even_of_tie : |exact / 2 ^ shift - kept| = 1 / 2 → Even kept
  lt : exact / 2 ^ shift < 2 ^ 53
  normal : shift ≠ 0 → 2 ^ 52 ≤ exact / 2 ^ shift

/-- Two natural numbers can both be nearest only if they are next to each other. -/
theorem tie_of_near
    {exact : ℚ} {lower upper : ℕ} (less : lower < upper)
    (nearLower : |exact - lower| ≤ 1 / 2) (nearUpper : |exact - upper| ≤ 1 / 2) :
    upper = lower + 1 ∧ |exact - lower| = 1 / 2 ∧ |exact - upper| = 1 / 2 := by
  have step : (lower : ℚ) + 1 ≤ upper := by exact_mod_cast less
  have below := (abs_le.mp nearLower).2
  have above := (abs_le.mp nearUpper).1
  have bound : (upper : ℚ) ≤ lower + 1 := by linarith
  refine ⟨le_antisymm (by exact_mod_cast bound) less, ?_, ?_⟩
  · rw [abs_of_nonneg (by linarith)]
    linarith
  · rw [abs_of_nonpos (by linarith)]
    linarith

namespace IsNearest

variable {exact : ℚ} {shift kept : ℕ} (nearest : IsNearest exact shift kept)

include nearest

/-- At most `2 ^ 53` places are kept. -/
theorem kept_le : kept ≤ 2 ^ 53 := by
  have close := (abs_le.mp nearest.close).1
  have bound := nearest.lt
  have small : (kept : ℚ) < 2 ^ 53 + 1 := by linarith
  exact Nat.lt_succ_iff.mp (by exact_mod_cast small)

/-- All 53 bits are used, unless the places are the smallest that there are. -/
theorem le_kept (notZero : shift ≠ 0) : 2 ^ 52 ≤ kept := by
  have close := (abs_le.mp nearest.close).2
  have bound := nearest.normal notZero
  have large : (2 ^ 52 : ℚ) < kept + 1 := by linarith
  exact Nat.lt_succ_iff.mp (by exact_mod_cast large)

/-- If an even number of places is as near, it is the one that is kept. -/
theorem kept_eq_of_near
    {even : ℕ} (isEven : Even even) (near : |exact / 2 ^ shift - even| ≤ 1 / 2) :
    kept = even := by
  rcases lt_trichotomy kept even with less | same | less
  case inr.inl => exact same
  case inl =>
    rcases tie_of_near less nearest.close near with ⟨next, tie, _⟩
    rw [next, Nat.even_add_one] at isEven
    exact absurd (nearest.even_of_tie tie) isEven
  case inr.inr =>
    rcases tie_of_near less near nearest.close with ⟨next, _, tie⟩
    have keptEven := nearest.even_of_tie tie
    rw [next, Nat.even_add_one] at keptEven
    exact absurd isEven keptEven

/-- An even number of places is what is kept exactly if it is within half a place. -/
theorem kept_eq_iff {even : ℕ} (isEven : Even even) :
    kept = even ↔ |exact / 2 ^ shift - even| ≤ 1 / 2 := by
  constructor
  · rintro rfl
    exact nearest.close
  · exact nearest.kept_eq_of_near isEven

end IsNearest

/-- Up to 53 bits of places make up a magnitude; a carry out of them runs into the exponent. -/
theorem unitsOf_places
    {shift kept : ℕ} (le : kept ≤ 2 ^ 53) (normal : shift ≠ 0 → 2 ^ 52 ≤ kept) :
    unitsOf (shift * powerOfTwo 52 + kept) = kept * 2 ^ shift := by
  have base : powerOfTwo 52 = 4503599627370496 := rfl
  have powers (exponent : ℕ) : powerOfTwo exponent = 2 ^ exponent := rfl
  norm_num at le normal
  by_cases subnormal : kept < 4503599627370496
  · have unscaled : shift = 0 := by
      by_contra notZero
      exact absurd (normal notZero) (by omega)
    have exponent : kept / 4503599627370496 = 0 := Nat.div_eq_of_lt subnormal
    have fraction : kept % 4503599627370496 = kept := Nat.mod_eq_of_lt subnormal
    simp only [unitsOf, unscaled, base, Nat.zero_mul, Nat.zero_add, exponent, fraction, if_true,
      pow_zero, Nat.mul_one]
  · by_cases carries : kept = 9007199254740992
    · have exponent : (shift * 4503599627370496 + kept) / 4503599627370496 = shift + 2 := by
        omega
      have fraction : (shift * 4503599627370496 + kept) % 4503599627370496 = 0 := by
        omega
      simp only [unitsOf, base, exponent, fraction, powers]
      rw [if_neg (by omega), carries, Nat.add_sub_assoc (by decide), pow_succ]
      ring
    · have exponent : (shift * 4503599627370496 + kept) / 4503599627370496 = shift + 1 := by
        omega
      have fraction :
          (shift * 4503599627370496 + kept) % 4503599627370496 = kept - 4503599627370496 := by
        omega
      simp only [unitsOf, base, exponent, fraction, powers]
      rw [if_neg (by omega), Nat.add_sub_cancel, Nat.add_sub_cancel' (by omega)]

section Remainder

variable {remainder place : ℕ} (positive : 0 < place)

include positive

theorem div_le_half_iff : (remainder / place : ℚ) ≤ 1 / 2 ↔ 2 * remainder ≤ place := by
  rw [div_le_div_iff₀ (by exact_mod_cast positive) two_pos, one_mul, mul_comm]
  exact_mod_cast Iff.rfl

theorem half_le_div_iff : 1 / 2 ≤ (remainder / place : ℚ) ↔ place ≤ 2 * remainder := by
  rw [div_le_div_iff₀ two_pos (by exact_mod_cast positive), one_mul, mul_comm]
  exact_mod_cast Iff.rfl

theorem div_eq_half_iff : (remainder / place : ℚ) = 1 / 2 ↔ 2 * remainder = place := by
  rw [le_antisymm_iff, div_le_half_iff positive, half_le_div_iff positive, ← le_antisymm_iff]

/-- Rounding a quotient by its remainder is rounding to the nearest. -/
theorem isNearest_of_remainder
    {exact : ℚ} {shift whole : ℕ}
    (split : exact / 2 ^ shift = whole + remainder / place) (less : remainder < place)
    (lt : exact / 2 ^ shift < 2 ^ 53) (normal : shift ≠ 0 → 2 ^ 52 ≤ exact / 2 ^ shift) :
    IsNearest exact shift (whole +
      if place < 2 * remainder || (place == 2 * remainder && whole % 2 == 1) then 1 else 0) := by
  have lessOne : (remainder / place : ℚ) < 1 := by
    rw [div_lt_one (by exact_mod_cast positive)]
    exact_mod_cast less
  simp only [Bool.or_eq_true, decide_eq_true_eq, Bool.and_eq_true, beq_iff_eq]
  split
  · rename_i up
    have atLeast : 1 / 2 ≤ (remainder / place : ℚ) :=
      (half_le_div_iff positive).mpr (by omega)
    have distance : |exact / 2 ^ shift - ((whole + 1 : ℕ) : ℚ)| = 1 - remainder / place := by
      rw [split, abs_of_nonpos (by push_cast; linarith)]
      push_cast
      ring
    refine ⟨?_, ?_, lt, normal⟩
    · rw [distance]
      linarith
    · rw [distance]
      intro tie
      have half : 2 * remainder = place := (div_eq_half_iff positive).mp (by linarith)
      exact Nat.even_iff.mpr (by omega)
  · rename_i down
    have atMost : (remainder / place : ℚ) ≤ 1 / 2 := (div_le_half_iff positive).mpr (by omega)
    have distance : |exact / 2 ^ shift - ((whole + 0 : ℕ) : ℚ)| = remainder / place := by
      rw [split, Nat.add_zero, add_sub_cancel_left, abs_of_nonneg (by positivity)]
    refine ⟨?_, ?_, lt, normal⟩
    · rw [distance]
      exact atMost
    · rw [distance]
      intro tie
      have half := (div_eq_half_iff positive).mp tie
      exact Nat.even_iff.mpr (by omega)

end Remainder

/-- The place is chosen so that the quotient keeps 53 bits, or all of its units. -/
theorem quotient_bounds (scaled : ℕ) {denominator : ℕ} (positive : 0 < denominator) :
    scaled < 2 ^ 53 * (denominator * 2 ^ ((scaled / denominator).log2 + 1 - 53)) ∧
      ((scaled / denominator).log2 + 1 - 53 ≠ 0 →
        2 ^ 52 * (denominator * 2 ^ ((scaled / denominator).log2 + 1 - 53)) ≤ scaled) := by
  generalize bits : (scaled / denominator).log2 = log
  constructor
  · have upper : scaled / denominator < 2 ^ (53 + (log + 1 - 53)) := by
      refine Nat.lt_log2_self.trans_le (Nat.pow_le_pow_right (by decide) ?_)
      omega
    rw [Nat.div_lt_iff_lt_mul positive, pow_add] at upper
    linarith
  · intro notZero
    have some : scaled / denominator ≠ 0 := by
      intro none
      rw [none, Nat.log2_zero] at bits
      omega
    have lower : 2 ^ (52 + (log + 1 - 53)) ≤ scaled / denominator := by
      have exponent : 52 + (log + 1 - 53) = (scaled / denominator).log2 := by omega
      rw [exponent]
      exact Nat.log2_self_le some
    rw [Nat.le_div_iff_mul_le positive, pow_add] at lower
    linarith

/-- A positive ratio is rounded to the nearest; what is too large for a double is infinite. -/
theorem exists_isNearest (numerator : ℕ) {denominator : ℕ} (positive : 0 < denominator) :
    ∃ shift kept,
      IsNearest (numerator * unitsPerOne / denominator) shift kept ∧
        nearestMagnitude numerator denominator =
          min infiniteMagnitude (shift * powerOfTwo 52 + kept) := by
  let scaled := numerator * unitsPerOne
  let shift := (scaled / denominator).log2 + 1 - 53
  let place := denominator * powerOfTwo shift
  have placePositive : 0 < place := Nat.mul_pos positive (Nat.two_pow_pos shift)
  have placeCast : (0 : ℚ) < place := by exact_mod_cast placePositive
  have ratio : (numerator * unitsPerOne / denominator : ℚ) / 2 ^ shift = scaled / place := by
    have numeratorCast : (scaled : ℚ) = numerator * unitsPerOne := Nat.cast_mul _ _
    have denominatorCast : (place : ℚ) = denominator * 2 ^ shift := by
      rw [← Nat.cast_ofNat, ← Nat.cast_pow, ← Nat.cast_mul]
      rfl
    rw [div_div, numeratorCast, denominatorCast]
  have bounds := quotient_bounds scaled positive
  have split : (numerator * unitsPerOne / denominator : ℚ) / 2 ^ shift =
      (scaled / place : ℕ) + (scaled % place : ℕ) / place := by
    have division : (scaled : ℚ) = place * (scaled / place : ℕ) + (scaled % place : ℕ) := by
      exact_mod_cast (Nat.div_add_mod scaled place).symm
    rw [ratio]
    nth_rewrite 1 [division]
    rw [add_div, mul_div_cancel_left₀ _ placeCast.ne']
  have lt : (numerator * unitsPerOne / denominator : ℚ) / 2 ^ shift < 2 ^ 53 := by
    rw [ratio, div_lt_iff₀ placeCast]
    exact_mod_cast bounds.1
  have normal : shift ≠ 0 →
      2 ^ 52 ≤ (numerator * unitsPerOne / denominator : ℚ) / 2 ^ shift := by
    intro notZero
    rw [ratio, le_div_iff₀ placeCast]
    exact_mod_cast bounds.2 notZero
  refine ⟨shift, _, isNearest_of_remainder placePositive split (Nat.mod_lt _ placePositive) lt
    normal, ?_⟩
  rw [← Nat.add_assoc]
  rfl

/-! ## Overflow -/

theorem unitsPerOne_cast : (unitsPerOne : ℚ) = 2 ^ 1074 := by
  rw [unitsPerOne, powerOfTwo_eq, Nat.cast_pow, Nat.cast_ofNat]

theorem unitsPerOne_pos : (0 : ℚ) < unitsPerOne := by
  rw [unitsPerOne_cast]
  positivity

theorem overflow_units : overflow * unitsPerOne = (2 ^ 54 - 1) * 2 ^ 2044 := by
  rw [unitsPerOne_cast, overflow, sub_mul, sub_mul, one_mul, ← pow_add, ← pow_add, ← pow_add]

namespace IsNearest

variable {exact : ℚ} {shift kept : ℕ} (nearest : IsNearest exact shift kept)

include nearest

/-- What is counted in places short of the largest is below overflow. -/
theorem lt_overflow (small : shift < 2045) : exact < (2 ^ 54 - 1) * 2 ^ 2044 := by
  have scale : (2 : ℚ) ^ shift ≤ 2 ^ 2044 := pow_le_pow_right₀ one_le_two (by omega)
  calc
    exact < 2 ^ 53 * 2 ^ shift := (div_lt_iff₀ (by positivity)).mp nearest.lt
    _ ≤ 2 ^ 53 * 2 ^ 2044 := mul_le_mul_of_nonneg_left scale (by positivity)
    _ ≤ (2 ^ 54 - 1) * 2 ^ 2044 := mul_le_mul_of_nonneg_right (by norm_num) (by positivity)

theorem overflow_le (large : 2045 < shift) : (2 ^ 54 - 1) * 2 ^ 2044 ≤ exact := by
  have scale : (2 : ℚ) ^ 2046 ≤ 2 ^ shift := pow_le_pow_right₀ one_le_two (by omega)
  calc
    ((2 : ℚ) ^ 54 - 1) * 2 ^ 2044 ≤ 2 ^ 54 * 2 ^ 2044 :=
        mul_le_mul_of_nonneg_right (by norm_num) (by positivity)
    _ = 2 ^ 52 * 2 ^ 2046 := by
        rw [← pow_add, ← pow_add]
    _ ≤ 2 ^ 52 * 2 ^ shift := mul_le_mul_of_nonneg_left scale (by positivity)
    _ ≤ exact := (le_div_iff₀ (by positivity)).mp (nearest.normal (by omega))

/-- At the last place of finite numbers, rounding carries exactly from the threshold on. -/
theorem carries_iff (last : shift = 2045) :
    kept = 2 ^ 53 ↔ (2 ^ 54 - 1) * 2 ^ 2044 ≤ exact := by
  have threshold : ((2 : ℚ) ^ 54 - 1) * 2 ^ 2044 = (2 ^ 53 - 1 / 2) * 2 ^ shift := by
    rw [last, pow_succ (2 : ℚ) 2044]
    generalize (2 : ℚ) ^ 2044 = unit
    ring
  have below := nearest.lt
  rw [threshold, ← le_div_iff₀ (by positivity), nearest.kept_eq_iff (by decide), abs_le]
  push_cast
  constructor
  · rintro ⟨near, _⟩
    linarith
  · intro near
    constructor <;> linarith

/-- What is kept runs beyond the finite magnitudes exactly from halfway to the next power of two. -/
theorem infinite_iff :
    infiniteMagnitude ≤ shift * powerOfTwo 52 + kept ↔ overflow * unitsPerOne ≤ exact := by
  have base : powerOfTwo 52 = 4503599627370496 := rfl
  have keptLe := nearest.kept_le
  rw [overflow_units, infiniteMagnitude, base]
  norm_num at keptLe
  rcases lt_trichotomy shift 2045 with less | same | less
  · have small := nearest.lt_overflow less
    constructor
    · intro beyond
      omega
    · intro large
      exact absurd large (not_le.mpr small)
  · rw [← nearest.carries_iff same]
    norm_num
    omega
  · have keptLarge := nearest.le_kept (by omega)
    norm_num at keptLarge
    constructor
    · exact fun _ => nearest.overflow_le less
    · intro _
      omega

end IsNearest

/-- The double is what a number is rounded to, its sign aside. -/
structure Rounds (exact : ℚ) (double : Double) : Prop where
  infinite_iff : double.isInfinite = true ↔ overflow ≤ exact
  nearest : exact < overflow → ∃ shift kept, IsNearest (exact * unitsPerOne) shift kept ∧
    double.absolute * unitsPerOne = kept * 2 ^ shift

theorem absolute_mul (double : Double) :
    double.absolute * unitsPerOne = unitsOf double.magnitude :=
  div_mul_cancel₀ _ unitsPerOne_pos.ne'

/-- A quotient is rounded to the nearest double, and to the even one of two. -/
theorem rounds_nearest
    (negative : Bool) (numerator : ℕ) {denominator : ℕ} (positive : 0 < denominator) :
    Rounds (numerator / denominator) (nearest negative numerator denominator) := by
  rcases exists_isNearest numerator positive with ⟨shift, kept, isNearest, rounded⟩
  have magnitude : (nearest negative numerator denominator).magnitude =
      min infiniteMagnitude (shift * powerOfTwo 52 + kept) :=
    rounded
  rw [mul_div_right_comm] at isNearest
  have infinite := isNearest.infinite_iff
  rw [mul_le_mul_iff_left₀ unitsPerOne_pos] at infinite
  constructor
  case infinite_iff =>
    rw [← infinite, isInfinite, beq_iff_eq, magnitude, min_eq_left_iff]
  case nearest =>
    intro small
    refine ⟨shift, kept, isNearest, ?_⟩
    have finite : shift * powerOfTwo 52 + kept ≤ infiniteMagnitude :=
      le_of_not_ge fun beyond => absurd (infinite.mp beyond) (not_le.mpr small)
    rw [absolute_mul, magnitude, min_eq_right finite,
      unitsOf_places isNearest.kept_le isNearest.le_kept, Nat.cast_mul, Nat.cast_pow,
      Nat.cast_ofNat]

/-- What is at most half the least double is rounded to zero. -/
theorem rounds_zero
    (negative : Bool) {exact : ℚ} (nonneg : 0 ≤ exact) (small : exact * unitsPerOne ≤ 1 / 2) :
    Rounds exact (zero negative) := by
  have unitsNonneg : 0 ≤ exact * unitsPerOne := mul_nonneg nonneg unitsPerOne_pos.le
  constructor
  case infinite_iff =>
    have finite : exact < overflow := by
      rw [← mul_lt_mul_iff_left₀ unitsPerOne_pos, overflow_units]
      have unit : (1 : ℚ) ≤ 2 ^ 2044 := one_le_pow₀ (by norm_num)
      generalize (2 : ℚ) ^ 2044 = place at unit
      linarith
    have notInfinite : (zero negative).isInfinite = false := by
      cases negative <;> decide
    rw [notInfinite]
    exact ⟨fun absurdity => absurd absurdity (by decide), fun large =>
      absurd large (not_le.mpr finite)⟩
  case nearest =>
    intro _
    refine ⟨0, 0, ⟨?_, fun _ => Even.zero, ?_, fun notZero => absurd rfl notZero⟩, ?_⟩
    · rw [pow_zero, div_one, Nat.cast_zero, sub_zero, abs_of_nonneg unitsNonneg]
      exact small
    · rw [pow_zero, div_one]
      exact small.trans_lt (by norm_num)
    · rw [absolute_mul, Nat.cast_zero, zero_mul]
      exact congrArg Nat.cast (rfl : unitsOf 0 = 0)

/-- What is not below overflow is rounded to infinity. -/
theorem rounds_infinity (negative : Bool) {exact : ℚ} (large : overflow ≤ exact) :
    Rounds exact (infinity negative) := by
  constructor
  case infinite_iff => exact ⟨fun _ => large, fun _ => beq_self_eq_true infiniteMagnitude⟩
  case nearest =>
    intro small
    exact absurd large (not_le.mpr small)

/-! ## Decimal numbers -/

theorem overflow_le_pow : overflow ≤ 10 ^ (309 : ℤ) := by
  calc
    overflow ≤ 2 ^ 1024 := by
      rw [overflow]
      exact sub_le_self _ (by positivity)
    _ = (2 ^ 256) ^ 4 := by
      rw [← pow_mul]
    _ ≤ (10 ^ 103) ^ 3 := by
      norm_num
    _ = 10 ^ (309 : ℤ) := by
      rw [← pow_mul]
      exact (zpow_natCast _ _).symm

theorem pow_units_le : (10 : ℚ) ^ (-324 : ℤ) * unitsPerOne ≤ 1 / 2 := by
  have powers : (2 : ℚ) ^ 1075 ≤ 10 ^ 324 := by
    calc
      (2 : ℚ) ^ 1075 = (2 ^ 215) ^ 5 := by
        rw [← pow_mul]
      _ ≤ (10 ^ 64) ^ 5 * 10 ^ 4 := by
        norm_num
      _ = 10 ^ 324 := by
        rw [← pow_mul, ← pow_add]
  have reciprocal : (10 : ℚ) ^ (-324 : ℤ) = 1 / 10 ^ 324 := by
    rw [zpow_neg, one_div]
    rfl
  rw [unitsPerOne_cast, reciprocal, one_div_mul_eq_div, div_le_div_iff₀ (by positivity) two_pos,
    one_mul, ← pow_succ]
  exact powers

theorem negative_ofDecimal (number : Decimal) :
    (ofDecimal number).negative = number.negative := by
  unfold ofDecimal
  split_ifs <;> rfl

/-- A decimal number is rounded; if its exponent is too far off, its digits are not looked at. -/
theorem rounds_ofDecimal (number : Decimal) : Rounds number.magnitude (ofDecimal number) := by
  unfold ofDecimal
  split_ifs with vanishes huge tiny whole
  · have nothing : number.magnitude = 0 := by
      rw [Decimal.magnitude, vanishes, Nat.cast_zero, zero_mul]
    rw [nothing]
    exact rounds_zero number.negative le_rfl (by rw [zero_mul]; norm_num)
  · refine rounds_infinity number.negative ?_
    calc
      overflow ≤ 10 ^ (309 : ℤ) := overflow_le_pow
      _ ≤ 10 ^ number.adjusted := zpow_le_zpow_right₀ (by norm_num) huge
      _ ≤ number.magnitude := Decimal.le_magnitude vanishes
  · refine rounds_zero number.negative number.magnitude_nonneg ?_
    calc
      number.magnitude * unitsPerOne ≤ 10 ^ (-324 : ℤ) * unitsPerOne := by
          refine mul_le_mul_of_nonneg_right ?_ unitsPerOne_pos.le
          exact number.magnitude_lt.le.trans (zpow_le_zpow_right₀ (by norm_num) (by omega))
      _ ≤ 1 / 2 := pow_units_le
  · have ratio : number.magnitude =
        (number.coefficient * powerOfTen number.exponent.toNat : ℕ) / (1 : ℕ) := by
      rw [Nat.cast_one, div_one, powerOfTen_eq, Nat.cast_mul, Nat.cast_pow, Nat.cast_ofNat,
        ← zpow_natCast, Int.toNat_of_nonneg whole]
      rfl
    rw [ratio]
    exact rounds_nearest number.negative _ Nat.one_pos
  · have ratio : number.magnitude =
        number.coefficient / (powerOfTen (-number.exponent).toNat : ℕ) := by
      rw [powerOfTen_eq, Nat.cast_pow, Nat.cast_ofNat, ← zpow_natCast,
        Int.toNat_of_nonneg (by omega), zpow_neg, div_inv_eq_mul]
      rfl
    rw [ratio]
    exact rounds_nearest number.negative _ (Nat.pow_pos (by decide))

end Double

end Criteria
