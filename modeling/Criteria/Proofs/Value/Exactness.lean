import Criteria.Proofs.Number.Spelling
import Criteria.Proofs.Value.Conversion

/-!
# Numbers are read for what they say

On a column of decimal numbers a spelling is bound with its sign, its digits and its exponent, and
so as the very rational number that is written.  On a column of integers it is bound as an integer
exactly if that rational number is one that there is room for (`bound_as_written`).  This holds for
every exponent that a decimal number can have.  No machine has room for all integers that can be
written so (`not_bound_as_integer`).
-/

namespace Criteria

/-- An expressible number that is spelled out is read as what it says. -/
theorem Spelling.read?_text
    {spelling : Spelling} (expressible : spelling.decimal.isExpressible = true) :
    Decimal.read? spelling.text = some spelling.decimal := by
  rw [Decimal.read?_of_written? spelling.written?_text, if_pos expressible]

/-- An integer is bound for a number exactly if it is the number and there is room for it. -/
theorem Conversion.ofNumber_eq_integer_iff [Machine] {number : Decimal} {whole : ℤ} :
    ofNumber number = .value (.integer whole) ↔
      number.value = whole ∧ |whole| < 10 ^ Machine.digits := by
  have room (same : number.value = whole) :
      number.fits = true ↔ |whole| < 10 ^ Machine.digits := by
    rw [Decimal.fits_iff, ← number.abs_value, same]
    exact_mod_cast Iff.rfl
  rw [← and_congr_right room, ofNumber]
  cases integral : number.isIntegral with
  | false =>
      have fractional : number.value ≠ whole := fun same => by
        have isInteger := number.isIntegral_iff.mpr ⟨whole, same⟩
        rw [integral] at isInteger
        cases isInteger
      simp [fractional]
  | true =>
      rw [← Decimal.toInteger?_eq_some_iff integral]
      cases number.toInteger? <;> simp

/--
What is bound for a spelling: the number that is written, and on integers an integer if it is one
and there is room for its digits.
-/
structure Spelling.IsBoundAsWritten [Machine] (spelling : Spelling) : Prop where
  /-- The sign, the digits and the exponent are those that are written. -/
  decimal : ∀ type, type = .numeric ∨ type = .decimal →
    Binding.ofText type spelling.text = .ok (.converted (.decimal spelling.decimal))
  /-- The coefficient has the digits that are written, but for leading zeros. -/
  digits : spelling.decimal.coefficient ≠ 0 →
    digitsOf spelling.decimal.coefficient = spelling.digits.dropWhile (· = 0)
  value : spelling.decimal.value = spelling.value
  integer : ∀ whole : ℤ,
    Binding.ofText .integer spelling.text = .ok (.converted (.integer whole)) ↔
      spelling.value = whole ∧ |whole| < 10 ^ Machine.digits

/-- A spelling within the bounds of decimal numbers is bound as it is written. -/
theorem Spelling.isBoundAsWritten [Machine]
    {spelling : Spelling} (expressible : spelling.decimal.isExpressible = true) :
    spelling.IsBoundAsWritten := by
  have read := read?_text expressible
  constructor
  case decimal =>
    rintro type (rfl | rfl) <;>
      rw [Binding.ofText_eq_converted_iff, Conversion.ofText, read, Option.map_some,
        Conversion.ofRead]
  case digits => exact spelling.digitsOf_coefficient
  case value => exact spelling.value_decimal
  case integer =>
    intro whole
    rw [Binding.ofText_eq_converted_iff, Conversion.ofText, read, ← spelling.value_decimal]
    exact Conversion.ofNumber_eq_integer_iff

/--
A text that passes for a number is spelled in some way, and every spelling of it is bound as it is
written, unless its exponent is out of bounds.
-/
theorem bound_as_written [Machine] {text : String} (numeric : isNumeric text = true) :
    (∃ spelling : Spelling, spelling.text = text) ∧
      ∀ spelling : Spelling, spelling.text = text →
        spelling.decimal.isExpressible = true → spelling.IsBoundAsWritten := by
  refine ⟨exists_spelling numeric, ?_⟩
  intro spelling _ expressible
  exact Spelling.isBoundAsWritten expressible

/-- Blanks, digits of another script, a leading and a trailing zero, a fraction and an exponent. -/
def mixedSpelling : Spelling where
  before := [' ']
  sign := .minus
  whole := .ofList ['٠', '٣'] (by decide)
  fraction := .ofList ['٥', '٠'] (by decide)
  exponent? := some ⟨'e', by decide, .plus, .ofList ['1'] (by decide), by decide⟩
  after := [' ']
  blankBefore := List.all_eq_true.mp (by decide)
  blankAfter := List.all_eq_true.mp (by decide)
  hasDigit := by decide

theorem bound_as_written_mixedSpelling :
    isNumeric " -٠٣.٥٠e+1 " = true ∧ mixedSpelling.text = " -٠٣.٥٠e+1 " ∧
      Binding.ofText .decimal " -٠٣.٥٠e+1 " = .ok (.converted (.decimal ⟨true, 350, -1⟩)) ∧
        Binding.ofText .integer " -٠٣.٥٠e+1 " = .ok (.converted (.integer (-35))) := by
  have numeric : isNumeric " -٠٣.٥٠e+1 " = true := by decide
  have spelled : mixedSpelling.text = " -٠٣.٥٠e+1 " := by decide
  have decimal : mixedSpelling.decimal = ⟨true, 350, -1⟩ := by decide
  have value : mixedSpelling.value = (-35 : ℤ) := by
    rw [← mixedSpelling.value_decimal, decimal]
    norm_num [Decimal.value, Decimal.magnitude]
  have room : |(-35 : ℤ)| < 10 ^ Machine.digits :=
    lt_of_lt_of_le (by decide) (pow_le_pow_right₀ (by decide) (by decide : 2 ≤ Machine.digits))
  rcases bound_as_written numeric with ⟨_, boundAs⟩
  have asWritten := boundAs mixedSpelling spelled (by rw [decimal]; decide)
  refine ⟨numeric, spelled, ?_, ?_⟩
  · rw [← spelled, ← decimal]
    exact asWritten.decimal .decimal (.inr rfl)
  · rw [← spelled]
    exact (asWritten.integer (-35)).mpr ⟨value, room⟩

/-- A power of ten that no machine has room for. -/
def hugeSpelling : Spelling where
  before := []
  sign := .absent
  whole := .ofList ['1'] (by decide)
  fraction := .ofList [] (by decide)
  exponent? :=
    some ⟨'e', by decide, .absent, .ofList "999999999999999999".toList (by decide), by decide⟩
  after := []
  blankBefore := isBlank_of_mem_nil
  blankAfter := isBlank_of_mem_nil
  hasDigit := by decide

/-- An integer is written that is bound as none, whatever the machine. -/
theorem not_bound_as_integer :
    ¬ ∃ _ : Machine, ∀ spelling : Spelling, isNumeric spelling.text = true →
      spelling.decimal.isExpressible = true → ∀ whole : ℤ,
        Binding.ofText .integer spelling.text = .ok (.converted (.integer whole)) ↔
          spelling.value = whole := by
  rintro ⟨machine, bound⟩
  have numeric : isNumeric hugeSpelling.text = true := by decide
  have decimal : hugeSpelling.decimal = ⟨false, 1, 999999999999999999⟩ := by decide
  have expressible : hugeSpelling.decimal.isExpressible = true := by
    rw [decimal]
    decide
  obtain ⟨whole, same⟩ : ∃ whole : ℤ, hugeSpelling.value = whole := by
    rw [← hugeSpelling.value_decimal, ← Decimal.isIntegral_iff, decimal]
    decide
  have converted := (bound hugeSpelling numeric expressible whole).mpr same
  have room := Binding.exists_ofText_iff_hasRoom.mp ⟨_, converted⟩
  have fits := room rfl _ (Spelling.read?_text expressible) (by rw [decimal]; decide)
  have large : hugeSpelling.decimal.fits = false :=
    Decimal.fits_of_greatestDigits_le (by rw [decimal]; decide) (by rw [decimal]; decide)
  rw [large] at fits
  cases fits

end Criteria
