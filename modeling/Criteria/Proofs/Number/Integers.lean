import Mathlib.Data.Int.Log
import Mathlib.Data.Rat.Floor
import Criteria.Proofs.Number.Rounding

/-!
# Rounding beside integers

A number is moved by at most half the distance between the doubles around it.  So it keeps its place
among the integers if it is farther from all of them than that (`IsClear`).  If it is not, it is
rounded to an integer.  It never passes an integer of up to 53 bits, as these are doubles.
-/

namespace Criteria

namespace Double

/-- Half the distance between the doubles around a number of the given size. -/
def halfSpacing (size : ℚ) : ℚ :=
  (2 : ℚ) ^ max (-1075) (Int.log 2 size - 53)

/-- Between two powers of two the doubles have one spacing. -/
theorem halfSpacing_of_le_of_lt
    {size : ℚ} (exponent : ℤ) (positive : 0 < size) (normal : -1022 ≤ exponent)
    (le : 2 ^ exponent ≤ size) (lt : size < 2 ^ (exponent + 1)) :
    halfSpacing size = 2 ^ (exponent - 53) := by
  have lower : exponent ≤ Int.log 2 size := by
    rwa [← Int.zpow_le_iff_le_log (by decide) positive, Nat.cast_ofNat]
  have upper : Int.log 2 size < exponent + 1 := by
    rwa [← Int.lt_zpow_iff_log_lt (by decide) positive, Nat.cast_ofNat]
  have log : Int.log 2 size = exponent := by omega
  rw [halfSpacing, log, max_eq_right (by omega)]

/-- Whether a number is farther from every integer than rounding may move it. -/
def IsClear (number : ℚ) : Prop :=
  ∀ whole : ℤ, halfSpacing |number| < |number - whole|

/-! ## Places -/

/-- What `2 ^ shift` units amount to. -/
def placeOf (shift : ℕ) : ℚ :=
  2 ^ ((shift : ℤ) - 1074)

theorem placeOf_pos (shift : ℕ) : 0 < placeOf shift := by
  unfold placeOf
  positivity

theorem pow_mul_placeOf (bits shift : ℕ) :
    2 ^ bits * placeOf shift = (2 : ℚ) ^ ((bits : ℤ) + shift - 1074) := by
  rw [placeOf, ← zpow_natCast, ← zpow_add₀ two_ne_zero, add_sub_assoc]

theorem placeOf_mul (shift : ℕ) : placeOf shift * unitsPerOne = 2 ^ shift := by
  rw [unitsPerOne_cast, mul_comm, pow_mul_placeOf, ← zpow_natCast]
  congr 1
  omega

/-- A large place is a number of ones. -/
theorem placeOf_of_le {shift : ℕ} (large : 1074 ≤ shift) :
    placeOf shift = (2 ^ (shift - 1074) : ℕ) := by
  rw [Nat.cast_pow, Nat.cast_ofNat, placeOf, ← zpow_natCast]
  congr 1
  omega

/-- A one is a number of small places. -/
theorem parts_mul_placeOf {shift : ℕ} (small : shift ≤ 1074) :
    ((2 ^ (1074 - shift) : ℕ) : ℚ) * placeOf shift = 1 := by
  rw [Nat.cast_pow, Nat.cast_ofNat, pow_mul_placeOf, ← zpow_zero (2 : ℚ)]
  congr 1
  omega

theorem mul_parts_mul_placeOf {shift : ℕ} (small : shift ≤ 1074) (natural : ℕ) :
    ((natural * 2 ^ (1074 - shift) : ℕ) : ℚ) * placeOf shift = natural := by
  rw [Nat.cast_mul, mul_assoc, parts_mul_placeOf small, mul_one]

theorem placeOf_le_one {shift : ℕ} (small : shift ≤ 1074) : placeOf shift ≤ 1 := by
  have parts : (1 : ℚ) ≤ (2 ^ (1074 - shift) : ℕ) := by
    exact_mod_cast Nat.one_le_two_pow
  exact (le_mul_of_one_le_left (placeOf_pos shift).le parts).trans_eq (parts_mul_placeOf small)

theorem units_div_pow (exact : ℚ) (shift : ℕ) :
    exact * unitsPerOne / 2 ^ shift = exact / placeOf shift := by
  rw [← placeOf_mul, mul_div_mul_right _ _ unitsPerOne_pos.ne']

/-- How far a number is from a number of places, counted in them. -/
theorem abs_sub_mul_placeOf (exact count : ℚ) (shift : ℕ) :
    |exact - count * placeOf shift| =
      |exact * unitsPerOne / 2 ^ shift - count| * placeOf shift := by
  have place := placeOf_pos shift
  rw [units_div_pow, ← abs_of_pos place, ← abs_mul, abs_of_pos place, sub_mul,
    div_mul_cancel₀ _ place.ne']

namespace IsNearest

variable {exact : ℚ} {shift kept : ℕ} (nearest : IsNearest (exact * unitsPerOne) shift kept)

include nearest

theorem lt_mul_placeOf : exact < 2 ^ 53 * placeOf shift := by
  rw [← div_lt_iff₀ (placeOf_pos shift), ← units_div_pow]
  exact nearest.lt

theorem mul_placeOf_le (notZero : shift ≠ 0) : 2 ^ 52 * placeOf shift ≤ exact := by
  rw [← le_div_iff₀ (placeOf_pos shift), ← units_div_pow]
  exact nearest.normal notZero

/-- What is kept is off by half a place at most. -/
theorem abs_sub_kept_le : |exact - kept * placeOf shift| ≤ placeOf shift / 2 := by
  calc
    |exact - kept * placeOf shift|
        = |exact * unitsPerOne / 2 ^ shift - kept| * placeOf shift := abs_sub_mul_placeOf ..
    _ ≤ 1 / 2 * placeOf shift :=
        mul_le_mul_of_nonneg_right nearest.close (placeOf_pos shift).le
    _ = placeOf shift / 2 := one_div_mul_eq_div ..

/-- The distance between the doubles around a number is the place to which it is rounded. -/
theorem halfSpacing_eq (positive : 0 < exact) : halfSpacing exact = placeOf shift / 2 := by
  have upper : Int.log 2 exact < 53 + shift - 1074 := by
    rw [← Int.lt_zpow_iff_log_lt (by decide) positive, Nat.cast_ofNat]
    exact nearest.lt_mul_placeOf.trans_eq (pow_mul_placeOf 53 shift)
  have lower (notZero : shift ≠ 0) : 52 + shift - 1074 ≤ Int.log 2 exact := by
    rw [← Int.zpow_le_iff_le_log (by decide) positive, Nat.cast_ofNat]
    exact (pow_mul_placeOf 52 shift).ge.trans (nearest.mul_placeOf_le notZero)
  have exponent : max (-1075) (Int.log 2 exact - 53) = shift - 1074 - 1 := by
    by_cases subnormal : shift = 0
    · omega
    · have normal := lower subnormal
      omega
  rw [halfSpacing, exponent, zpow_sub_one₀ two_ne_zero, placeOf, div_eq_mul_inv]

/-- What is no farther from an integer than half a place is rounded to an integer. -/
theorem exists_integer
    (positive : 0 < exact) {whole : ℤ} (near : |exact - whole| ≤ placeOf shift / 2) :
    ∃ integer : ℤ, kept * placeOf shift = integer := by
  rcases le_or_gt 1074 shift with large | small
  · refine ⟨kept * 2 ^ (shift - 1074), ?_⟩
    rw [placeOf_of_le large]
    push_cast
    rfl
  · have nonneg : 0 ≤ whole := by
      have above := (abs_le.mp near).2
      have place := placeOf_le_one small.le
      have bound : (-1 : ℚ) < whole := by linarith
      have integral : (-1 : ℤ) < whole := by exact_mod_cast bound
      omega
    obtain ⟨natural, rfl⟩ := Int.eq_ofNat_of_zero_le nonneg
    -- The integer is an even number of places, so it is kept even if another is as near.
    have counted := mul_parts_mul_placeOf small.le natural
    have same : kept = natural * 2 ^ (1074 - shift) := by
      have isEven : Even (2 ^ (1074 - shift)) := Nat.even_pow.mpr ⟨even_two, by omega⟩
      rw [nearest.kept_eq_iff (isEven.mul_left natural)]
      refine le_of_mul_le_mul_right ?_ (placeOf_pos shift)
      rw [← abs_sub_mul_placeOf, counted, one_div_mul_eq_div]
      exact near
    refine ⟨natural, ?_⟩
    rw [same, counted]
    rfl

theorem le_kept_of_le {count : ℕ} (le : count * placeOf shift ≤ exact) : count ≤ kept := by
  have place := placeOf_pos shift
  have close := (abs_le.mp nearest.abs_sub_kept_le).2
  have less : (count : ℚ) * placeOf shift < (kept + 1 : ℕ) * placeOf shift := by
    push_cast
    linarith
  have counted := lt_of_mul_lt_mul_right less place.le
  exact Nat.lt_succ_iff.mp (by exact_mod_cast counted)

theorem kept_le_of_le {count : ℕ} (le : exact ≤ count * placeOf shift) : kept ≤ count := by
  have place := placeOf_pos shift
  have close := (abs_le.mp nearest.abs_sub_kept_le).1
  have less : (kept : ℚ) * placeOf shift < (count + 1 : ℕ) * placeOf shift := by
    push_cast
    linarith
  have counted := lt_of_mul_lt_mul_right less place.le
  exact Nat.lt_succ_iff.mp (by exact_mod_cast counted)

/-- Where a place is more than a one, there are more than 53 bits in front of the point. -/
theorem pow_le_of_lt (large : 1074 < shift) :
    2 ^ 53 ≤ exact ∧ (2 : ℚ) ^ 53 ≤ kept * placeOf shift := by
  have two : 2 ≤ placeOf shift := by
    have pair : 2 ^ 1 ≤ 2 ^ (shift - 1074) := Nat.pow_le_pow_right two_pos (by omega)
    rw [placeOf_of_le large.le]
    exact_mod_cast pair
  have below := nearest.mul_placeOf_le (by omega)
  have bits : (2 : ℚ) ^ 52 ≤ kept := by exact_mod_cast nearest.le_kept (by omega)
  constructor
  · linarith
  · calc
      (2 : ℚ) ^ 53 = 2 ^ 52 * 2 := pow_succ 2 52
      _ ≤ kept * placeOf shift := mul_le_mul bits two zero_le_two (Nat.cast_nonneg kept)

/-- Rounding does not carry a number below an integer of at most 53 bits that it exceeds. -/
theorem le_kept_of_integer_lt
    {whole : ℤ} (bits : whole ≤ 2 ^ 53) (less : whole < exact) : whole ≤ kept * placeOf shift := by
  have place := placeOf_pos shift
  have bitsCast : (whole : ℚ) ≤ 2 ^ 53 := by exact_mod_cast bits
  rcases le_or_gt shift 1074 with small | large
  · rcases le_or_gt whole 0 with negative | positive
    · have below : (whole : ℚ) ≤ 0 := by exact_mod_cast negative
      exact below.trans (by positivity)
    · obtain ⟨natural, rfl⟩ := Int.eq_ofNat_of_zero_le positive.le
      have counted := mul_parts_mul_placeOf small natural
      rw [Int.cast_natCast] at less ⊢
      rw [← counted] at less ⊢
      exact mul_le_mul_of_nonneg_right (by exact_mod_cast nearest.le_kept_of_le less.le) place.le
  · exact bitsCast.trans (nearest.pow_le_of_lt large).2

/-- Rounding does not carry a number above an integer of at most 53 bits that exceeds it. -/
theorem kept_le_of_lt_integer
    (positive : 0 < exact) {whole : ℤ} (bits : whole ≤ 2 ^ 53) (less : exact < whole) :
    kept * placeOf shift ≤ whole := by
  have place := placeOf_pos shift
  have bitsCast : (whole : ℚ) ≤ 2 ^ 53 := by exact_mod_cast bits
  rcases le_or_gt shift 1074 with small | large
  · have above : (0 : ℚ) < whole := positive.trans less
    have nonneg : 0 < whole := by exact_mod_cast above
    obtain ⟨natural, rfl⟩ := Int.eq_ofNat_of_zero_le nonneg.le
    have counted := mul_parts_mul_placeOf small natural
    rw [Int.cast_natCast] at less ⊢
    rw [← counted] at less ⊢
    exact mul_le_mul_of_nonneg_right (by exact_mod_cast nearest.kept_le_of_le less.le) place.le
  · exact absurd (less.trans_le bitsCast) (not_lt.mpr (nearest.pow_le_of_lt large).1)

end IsNearest

/-! ## Signed numbers -/

/-- What rounding keeps of the place of a number among the integers. -/
structure KeepsPlace (exact rounded : ℚ) : Prop where
  abs_sub_le : |exact - rounded| ≤ halfSpacing |exact|
  exists_integer : ∀ whole : ℤ, |exact - whole| ≤ halfSpacing |exact| →
    ∃ integer : ℤ, rounded = integer
  le_of_lt : ∀ whole : ℤ, |whole| ≤ 2 ^ 53 → whole < exact → whole ≤ rounded
  ge_of_lt : ∀ whole : ℤ, |whole| ≤ 2 ^ 53 → exact < whole → rounded ≤ whole

/-- What holds of a number and its rounding holds of their opposites. -/
theorem KeepsPlace.neg
    {exact rounded : ℚ} (keeps : KeepsPlace exact rounded) : KeepsPlace (-exact) (-rounded) := by
  constructor
  case abs_sub_le =>
    rw [abs_neg, neg_sub_neg, abs_sub_comm]
    exact keeps.abs_sub_le
  case exists_integer =>
    intro whole near
    have opposite : |-exact - whole| = |exact - (-whole : ℤ)| := by
      rw [← abs_neg, neg_sub', neg_neg, Int.cast_neg]
    rw [abs_neg, opposite] at near
    obtain ⟨integer, same⟩ := keeps.exists_integer (-whole) near
    exact ⟨-integer, by rw [same, Int.cast_neg]⟩
  case le_of_lt =>
    intro whole bits less
    have opposite := keeps.ge_of_lt (-whole) (by rwa [abs_neg])
    push_cast at opposite
    exact le_neg.mp (opposite (lt_neg.mp less))
  case ge_of_lt =>
    intro whole bits less
    have opposite := keeps.le_of_lt (-whole) (by rwa [abs_neg])
    push_cast at opposite
    exact neg_le.mp (opposite (neg_lt.mp less))

/-- The nearest multiple of a place keeps the number between its integers. -/
theorem IsNearest.keepsPlace
    {exact : ℚ} {shift kept : ℕ} (nearest : IsNearest (exact * unitsPerOne) shift kept)
    (positive : 0 < exact) : KeepsPlace exact (kept * placeOf shift) := by
  have spacing := nearest.halfSpacing_eq positive
  constructor
  case abs_sub_le =>
    rw [abs_of_pos positive, spacing]
    exact nearest.abs_sub_kept_le
  case exists_integer =>
    intro whole near
    rw [abs_of_pos positive, spacing] at near
    exact nearest.exists_integer positive near
  case le_of_lt =>
    intro whole bits less
    exact nearest.le_kept_of_integer_lt (abs_le.mp bits).2 less
  case ge_of_lt =>
    intro whole bits less
    exact nearest.kept_le_of_lt_integer positive (abs_le.mp bits).2 less

/-- A number below overflow is rounded to a double between the same integers. -/
theorem keepsPlace_ofDecimal
    {number : Decimal} (notZero : number.value ≠ 0) (small : |number.value| < overflow) :
    KeepsPlace number.value (ofDecimal number).value := by
  rw [← abs_pos, number.abs_value] at notZero
  rw [number.abs_value] at small
  obtain ⟨shift, kept, nearest, rounded⟩ := (rounds_ofDecimal number).nearest small
  rw [← placeOf_mul, ← mul_assoc, mul_left_inj' unitsPerOne_pos.ne'] at rounded
  have keeps := nearest.keepsPlace notZero
  rw [← rounded] at keeps
  rw [Decimal.value, value, negative_ofDecimal]
  split
  · exact keeps.neg
  · exact keeps

end Double

end Criteria
