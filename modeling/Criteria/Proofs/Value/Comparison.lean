import Criteria.Proofs.Number.Integers
import Criteria.Proofs.Value.Exactness
import Criteria.Proofs.Value.Finiteness

/-!
# What integers compare with

A number that is given for a column of integers is compared with the integers of its rows.  If it is
an integer it is bound as itself, and every integer compares with it as written.  If it is none it
becomes a double, and then every integer compares with it as written exactly if it is farther from
all integers than rounding may move it; otherwise it becomes an integer (`integers_compare`).
-/

namespace Criteria

/-- How an integer compares with a number; an infinity is beyond all integers. -/
def Value.compareInteger? (whole : ℤ) : Value → Option Ordering
  | .integer other => some (cmp whole other)
  | .double rounded =>
      if rounded.isInfinite then some (if rounded.negative then .gt else .lt)
      else some (cmp (whole : ℚ) rounded.value)
  | .decimal number => some (cmp (whole : ℚ) number.value)
  | .text _ | .uuid _ | .date _ | .moment _ => none

/-- What a value keeps of the comparisons with a written number. -/
structure Value.KeepsOrder (written : ℚ) (value : Value) : Prop where
  /-- All integers compare as with what is written if that is an integer or clear of them. -/
  all_iff : (∀ whole : ℤ, value.compareInteger? whole = some (cmp (whole : ℚ) written)) ↔
    (∃ whole : ℤ, written = whole) ∨ Double.IsClear written
  /-- What is written and no integer may still become one. -/
  eq_iff : (¬ ∃ whole : ℤ, written = whole) →
    ((∃ whole : ℤ, value.compareInteger? whole = some .eq) ↔ ¬ Double.IsClear written)
  /-- Integers of up to 53 bits are never passed. -/
  small : ∀ whole : ℤ, |whole| ≤ 2 ^ 53 →
    (whole < written → value.compareInteger? whole ≠ some .gt) ∧
      (written < whole → value.compareInteger? whole ≠ some .lt)

namespace Value.KeepsOrder

theorem ofInteger (whole : ℤ) : KeepsOrder whole (.integer whole) := by
  have agrees (other : ℤ) :
      (Value.integer whole).compareInteger? other = some (cmp (other : ℚ) (whole : ℚ)) := by
    rw [compareInteger?, Int.cast_strictMono.cmp_map_eq]
  constructor
  case all_iff => exact ⟨fun _ => .inl ⟨whole, rfl⟩, fun _ => agrees⟩
  case eq_iff => exact fun fractional => absurd ⟨whole, rfl⟩ fractional
  case small =>
    intro other _
    rw [agrees]
    constructor
    · intro less
      rw [(cmp_eq_lt_iff _ _).mpr less]
      decide
    · intro less
      rw [(cmp_eq_gt_iff _ _).mpr less]
      decide

/-- A number that is moved by less than its distance from another stays on its side. -/
theorem cmp_eq_of_abs_sub_lt
    {other exact rounded : ℚ} (near : |exact - rounded| < |exact - other|) :
    cmp other rounded = cmp other exact := by
  rcases lt_trichotomy other exact with less | rfl | less
  · rw [abs_of_pos (sub_pos.mpr less), abs_lt] at near
    rw [(cmp_eq_lt_iff _ _).mpr less, cmp_eq_lt_iff]
    linarith only [near.2]
  · rw [sub_self, abs_zero] at near
    exact absurd near (not_lt.mpr (abs_nonneg _))
  · rw [abs_of_neg (sub_neg.mpr less), abs_lt] at near
    rw [(cmp_eq_gt_iff _ _).mpr less, cmp_eq_gt_iff]
    linarith only [near.1]

theorem ofDouble
    {written : ℚ} {rounded : Double} (finite : rounded.isInfinite = false)
    (fractional : ¬ ∃ whole : ℤ, written = whole)
    (keeps : Double.KeepsPlace written rounded.value) :
    KeepsOrder written (.double rounded) := by
  have compared (whole : ℤ) : (Value.double rounded).compareInteger? whole =
      some (cmp (whole : ℚ) rounded.value) := by
    rw [compareInteger?, finite]
    rfl
  have clear_iff : (∃ whole : ℤ, rounded.value = whole) ↔ ¬ Double.IsClear written := by
    simp only [Double.IsClear, not_forall, not_lt]
    constructor
    · rintro ⟨whole, same⟩
      exact ⟨whole, same ▸ keeps.abs_sub_le⟩
    · rintro ⟨whole, near⟩
      exact keeps.exists_integer whole near
  constructor
  case all_iff =>
    constructor
    · intro agrees
      refine .inr (not_not.mp ?_)
      rw [← clear_iff]
      rintro ⟨whole, same⟩
      have equal := agrees whole
      rw [compared, Option.some.injEq, same, cmp_self_eq_eq, eq_comm, cmp_eq_eq_iff] at equal
      exact fractional ⟨whole, equal.symm⟩
    · rintro (integral | clear) whole
      · exact absurd integral fractional
      · rw [compared, cmp_eq_of_abs_sub_lt (keeps.abs_sub_le.trans_lt (clear whole))]
  case eq_iff =>
    intro _
    rw [← clear_iff]
    refine exists_congr fun whole => ?_
    rw [compared, Option.some.injEq, cmp_eq_eq_iff, eq_comm]
  case small =>
    intro whole bits
    rw [compared, Ne, Ne, Option.some.injEq, Option.some.injEq, cmp_eq_gt_iff, cmp_eq_lt_iff,
      not_lt, not_lt]
    exact ⟨keeps.le_of_lt whole bits, keeps.ge_of_lt whole bits⟩

theorem ofNumber [Machine]
    {number : Decimal} {value : Value} (converted : Conversion.ofNumber number = .value value)
    (finite : value.isFiniteNumber = true) : KeepsOrder number.value value := by
  rw [Conversion.ofNumber] at converted
  split at converted
  case isTrue integral =>
    split at converted
    case h_1 whole isWhole =>
      cases converted
      rw [((Decimal.toInteger?_eq_some_iff integral whole).mp isWhole).1]
      exact ofInteger whole
    case h_2 => cases converted
  case isFalse notIntegral =>
    cases converted
    have fractional : ¬ ∃ whole : ℤ, number.value = whole :=
      fun isInteger => notIntegral (number.isIntegral_iff.mpr isInteger)
    have small := (Value.isFiniteNumber_ofDecimal_iff number).mp finite
    have notZero : number.value ≠ 0 := by
      intro zero
      exact fractional ⟨0, by rw [zero, Int.cast_zero]⟩
    exact ofDouble (by simpa [isFiniteNumber] using finite) fractional
      (Double.keepsPlace_ofDecimal notZero small)

end Value.KeepsOrder

/--
A finite value that is bound for a number on a column of integers: every integer compares with it as
with the number that is written if that is an integer or clear of them.  Otherwise the value is an
integer, though the number is none.
-/
theorem integers_compare [Machine]
    {text : String} {value : Value} (numeric : isNumeric text = true)
    (bound : Binding.ofText .integer text = .ok (.converted value))
    (finite : value.isFiniteNumber = true) :
    (∃ spelling : Spelling, spelling.text = text) ∧
      ∀ spelling : Spelling, spelling.text = text → value.KeepsOrder spelling.value := by
  refine ⟨exists_spelling numeric, ?_⟩
  rintro spelling rfl
  rw [Binding.ofText_eq_converted_iff, Conversion.ofText,
    Decimal.read?_of_written? spelling.written?_text] at bound
  split at bound
  case h_1 number read =>
    split at read
    · cases read
      rw [← spelling.value_decimal]
      exact Value.KeepsOrder.ofNumber bound finite
    · cases read
  case h_2 => cases bound

/-- A spelling of digits around a point. -/
def Spelling.ofDigits
    (whole fraction : DigitRun) (hasDigit : whole.chars ≠ [] ∨ fraction.chars ≠ []) :
    Spelling where
  before := []
  sign := .absent
  whole := whole
  fraction := fraction
  exponent? := none
  after := []
  blankBefore := isBlank_of_mem_nil
  blankAfter := isBlank_of_mem_nil
  hasDigit := hasDigit

/-- A number for which few bits are left after the point, but enough of them. -/
def clearSpelling : Spelling :=
  .ofDigits (.ofList "2251799813685247".toList (by decide)) (.ofList ['6'] (by decide))
    (.inr (by decide))

theorem integers_compare_clearSpelling :
    isNumeric "2251799813685247.6" = true ∧
      clearSpelling.text = "2251799813685247.6" ∧
        Binding.ofText .integer "2251799813685247.6" =
          .ok (.converted (.double (Double.ofDecimal ⟨false, 22517998136852476, -1⟩))) ∧
          ∀ whole : ℤ,
            (Value.double (Double.ofDecimal ⟨false, 22517998136852476, -1⟩)).compareInteger? whole =
              some (cmp (whole : ℚ) (22517998136852476 / 10)) := by
  have numeric : isNumeric "2251799813685247.6" = true := by decide
  have spelled : clearSpelling.text = "2251799813685247.6" := by decide
  have bound : Binding.ofText .integer "2251799813685247.6" =
      .ok (.converted (.double (Double.ofDecimal ⟨false, 22517998136852476, -1⟩))) :=
    Binding.ofText_eq_converted_iff.mpr (by decide +kernel)
  have value : clearSpelling.value = 22517998136852476 / 10 := by
    have decimal : clearSpelling.decimal = ⟨false, 22517998136852476, -1⟩ := by decide
    rw [← clearSpelling.value_decimal, decimal]
    norm_num [Decimal.value, Decimal.magnitude]
  have spacing : Double.halfSpacing (22517998136852476 / 10) = 1 / 8 := by
    rw [Double.halfSpacing_of_le_of_lt 50] <;> norm_num
  have clear : Double.IsClear clearSpelling.value := by
    intro whole
    rw [value, abs_of_pos (by norm_num), spacing, lt_abs]
    rcases le_or_gt whole 2251799813685247 with below | above
    · have integral : (whole : ℚ) ≤ 2251799813685247 := by exact_mod_cast below
      exact .inl (by linarith)
    · have integral : (2251799813685248 : ℚ) ≤ whole := by exact_mod_cast above
      exact .inr (by linarith)
  have finite :
      (Value.double (Double.ofDecimal ⟨false, 22517998136852476, -1⟩)).isFiniteNumber = true := by
    decide +kernel
  rcases integers_compare numeric bound finite with ⟨_, keeps⟩
  refine ⟨numeric, spelled, bound, ?_⟩
  rw [← value]
  exact (keeps clearSpelling spelled).all_iff.mpr (.inr clear)

/-- A number among doubles that are all integers. -/
def unclearSpelling : Spelling :=
  .ofDigits (.ofList "9007199254740992".toList (by decide)) (.ofList ['5'] (by decide))
    (.inr (by decide))

theorem not_integers_compare :
    ¬ ∀ (spelling : Spelling) (value : Value),
      isNumeric spelling.text = true →
        Binding.ofText .integer spelling.text = .ok (.converted value) →
          ∀ whole : ℤ,
            value.compareInteger? whole = some (cmp (whole : ℚ) spelling.value) := by
  intro compared
  have numeric : isNumeric unclearSpelling.text = true := by decide
  have bound : Binding.ofText .integer unclearSpelling.text =
      .ok (.converted (.double ⟨false, 4845873199050653696, by decide⟩)) :=
    Binding.ofText_eq_converted_iff.mpr (by decide +kernel)
  have equal :
      (Value.double ⟨false, 4845873199050653696, by decide⟩).compareInteger? 9007199254740992 =
        some .eq := by
    decide +kernel
  have above : ((9007199254740992 : ℤ) : ℚ) < unclearSpelling.value := by
    have decimal : unclearSpelling.decimal = ⟨false, 90071992547409925, -1⟩ := by decide
    rw [← unclearSpelling.value_decimal, decimal]
    norm_num [Decimal.value, Decimal.magnitude]
  have written := compared unclearSpelling _ numeric bound 9007199254740992
  rw [equal, (cmp_eq_lt_iff _ _).mpr above] at written
  cases written

end Criteria
