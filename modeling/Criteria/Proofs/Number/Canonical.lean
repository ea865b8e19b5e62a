import Criteria.Proofs.Number.Spelling

/-!
# How decimal numbers are written

The canonical text of a number is either positional or scientific.  Both lay the digits of the
coefficient out around a point, the first with zeros in front if the point needs them.  A layout
fixes the digits, the place of the point and the exponent that is written, and so it is a spelling
(`Layout.spelling`).  The layout of a number spells that very number: its sign, its coefficient and
its exponent (`exists_spelling_text`).
-/

namespace Criteria

open Criteria.Text

/-! ## Runs of ASCII digits -/

theorem digitValue?_digitCharacter {digit : ℕ} (small : digit < 10) :
    digitValue? (digitCharacter digit) = some digit := by
  have all : ∀ digit < 10, digitValue? (digitCharacter digit) = some digit := by
    decide
  exact all digit small

namespace DigitRun

/-- Digits as they are written in ASCII. -/
def ofDigits (digits : List ℕ) (proper : ∀ digit ∈ digits, digit < 10) : DigitRun where
  chars := digits.map digitCharacter
  areDigits := by
    intro character member
    rcases List.mem_map.mp member with ⟨digit, inDigits, rfl⟩
    rw [isDigit, digitValue?_digitCharacter (proper digit inDigits)]
    rfl

variable {digits : List ℕ} (proper : ∀ digit ∈ digits, digit < 10)

@[simp]
theorem chars_ofDigits : (ofDigits digits proper).chars = digits.map digitCharacter :=
  rfl

@[simp]
theorem values_ofDigits : (ofDigits digits proper).values = digits := by
  have written : ∀ digit ∈ digits, digitValue? (digitCharacter digit) = some digit :=
    fun digit member => digitValue?_digitCharacter (proper digit member)
  rw [values, chars_ofDigits, List.filterMap_map]
  calc
    digits.filterMap (digitValue? ∘ digitCharacter) = digits.filterMap some :=
      List.filterMap_congr written
    _ = digits := List.filterMap_some

/-- A run that is made of digits writes their number. -/
theorem number_ofDigits : (ofDigits digits proper).number = valueOfDigits digits := by
  rw [number_eq_valueOfDigits, values_ofDigits]

end DigitRun

/-! ## Written exponents -/

namespace ExponentMark

/-- An exponent with its sign, which is never left out. -/
def ofInt (exponent : ℤ) : ExponentMark where
  letter := 'E'
  isLetter := .inr rfl
  sign := if exponent < 0 then .minus else .plus
  digits := .ofDigits (digitsOf exponent.natAbs) fun _ => lt_ten_of_mem_digitsOf
  nonempty := by
    rw [DigitRun.chars_ofDigits, Ne, List.map_eq_nil_iff]
    exact digitsOf_ne_nil _

variable (exponent : ℤ)

theorem chars_ofInt : (ofInt exponent).chars = Decimal.exponentText exponent := by
  rw [chars, Decimal.exponentText, decimalText]
  by_cases negative : exponent < 0
  · simp [ofInt, negative, SignMark.chars]
  · simp [ofInt, negative, SignMark.chars]

@[simp]
theorem value_ofInt : (ofInt exponent).value = exponent := by
  have digits : (ofInt exponent).digits.number = exponent.natAbs := by
    rw [ofInt, DigitRun.number_ofDigits, valueOfDigits_digitsOf]
  rw [value, digits]
  by_cases negative : exponent < 0
  · simp only [ofInt, negative, if_true, SignMark.isMinus]
    omega
  · simp only [ofInt, negative, if_false, SignMark.isMinus, Bool.false_eq_true]
    omega

end ExponentMark

namespace Decimal

/-! ## Layouts -/

/-- How the digits of a number are laid out around a point. -/
structure Layout where
  digits : List ℕ
  proper : ∀ digit ∈ digits, digit < 10
  /-- How many digits stand before the point. -/
  lead : ℕ
  lead_pos : 0 < lead
  lead_le : lead ≤ digits.length
  /-- The exponent that is written after the digits. -/
  exponent : ℤ

namespace Layout

variable (layout : Layout) (negative : Bool)

/-- The digits before the point. -/
def whole : List ℕ :=
  layout.digits.take layout.lead

/-- The digits after the point. -/
def fraction : List ℕ :=
  layout.digits.drop layout.lead

/-- The characters after the sign; the exponent zero is left out. -/
def chars : List Char :=
  layout.whole.map digitCharacter ++
    ((if layout.fraction = [] then [] else '.' :: layout.fraction.map digitCharacter) ++
      if layout.exponent = 0 then [] else exponentText layout.exponent)

theorem whole_ne_nil : layout.whole ≠ [] := by
  have some : 0 < layout.whole.length := by
    rw [whole, List.length_take, min_eq_left layout.lead_le]
    exact layout.lead_pos
  exact List.ne_nil_of_length_pos some

/-- The spelling that has this layout. -/
def spelling : Spelling where
  before := []
  sign := if negative then .minus else .absent
  whole := .ofDigits layout.whole fun _ member => layout.proper _ (List.mem_of_mem_take member)
  fraction := .ofDigits layout.fraction fun _ member =>
    layout.proper _ (List.mem_of_mem_drop member)
  exponent? := if layout.exponent = 0 then none else some (.ofInt layout.exponent)
  after := []
  blankBefore := isBlank_of_mem_nil
  blankAfter := isBlank_of_mem_nil
  hasDigit := .inl (by simpa using layout.whole_ne_nil)

theorem exponentChars_spelling :
    (layout.spelling negative).exponentChars =
      if layout.exponent = 0 then [] else exponentText layout.exponent := by
  by_cases none : layout.exponent = 0
  · simp [Spelling.exponentChars, spelling, none]
  · simp [Spelling.exponentChars, spelling, none, ExponentMark.chars_ofInt]

theorem exponent_spelling : (layout.spelling negative).exponent = layout.exponent := by
  by_cases none : layout.exponent = 0
  · simp [Spelling.exponent, spelling, none]
  · simp [Spelling.exponent, spelling, none]

/-- The spelling of a layout is what the layout writes, after its sign. -/
theorem text_spelling :
    (layout.spelling negative).text =
      String.ofList (if negative then '-' :: layout.chars else layout.chars) := by
  have unsigned : (layout.spelling negative).unsignedChars = layout.chars := by
    rw [Spelling.unsignedChars, exponentChars_spelling, chars, Spelling.pointChars]
    simp [spelling]
  rw [Spelling.text, Spelling.core, unsigned]
  cases negative <;> simp [spelling, SignMark.chars]

/-- The number that is laid out: the digits without the point, and the exponent of the last one. -/
def number : Decimal where
  negative := negative
  coefficient := valueOfDigits layout.digits
  exponent := layout.exponent - layout.fraction.length

/-- The spelling of a layout writes the number of the layout. -/
theorem decimal_spelling : (layout.spelling negative).decimal = layout.number negative := by
  have sign : (layout.spelling negative).sign.isMinus = negative := by
    cases negative <;> rfl
  have digits : (layout.spelling negative).digits = layout.digits := by
    rw [Spelling.digits, spelling, DigitRun.values_ofDigits, DigitRun.values_ofDigits]
    exact List.take_append_drop layout.lead layout.digits
  have places : (layout.spelling negative).places = layout.fraction.length := by
    rw [Spelling.places, spelling, DigitRun.chars_ofDigits, List.length_map]
  rw [Spelling.decimal, sign, exponent_spelling, places, digits, number, valueOfDigits_eq_ofDigits]

end Layout

/-! ## Positional texts -/

variable (coefficient : ℕ)

/-- All digits written out, with zeros in front of them if they are fewer than the places. -/
def positional (places : ℕ) : Layout where
  digits := paddedDigits (places + 1) coefficient
  proper := fun _ => lt_ten_of_mem_paddedDigits
  lead := (paddedDigits (places + 1) coefficient).length - places
  lead_pos := by
    rw [length_paddedDigits]
    omega
  lead_le := Nat.sub_le _ _
  exponent := 0

theorem length_fraction_positional (places : ℕ) :
    (positional coefficient places).fraction.length = places := by
  have dropped : (positional coefficient places).fraction =
      (paddedDigits (places + 1) coefficient).drop
        ((paddedDigits (places + 1) coefficient).length - places) :=
    rfl
  rw [dropped, List.length_drop, length_paddedDigits]
  omega

/-- With places after the point the coefficient is that of the number. -/
theorem number_positional (negative : Bool) (places : ℕ) :
    (positional coefficient places).number negative = ⟨negative, coefficient, -places⟩ := by
  rw [Layout.number, length_fraction_positional, mk.injEq]
  exact ⟨rfl, valueOfDigits_paddedDigits _ _, Int.zero_sub _⟩

/-- Only a zero stands before the point if there are no more digits than places. -/
theorem parts_positional_of_le {places : ℕ} (short : digitCount coefficient ≤ places) :
    (positional coefficient places).whole = [0] ∧
      (positional coefficient places).fraction = paddedDigits places coefficient := by
  have digits : (positional coefficient places).digits = 0 :: paddedDigits places coefficient :=
    paddedDigits_succ short
  have lead : (positional coefficient places).lead = 1 := by
    simp only [positional, length_paddedDigits]
    omega
  rw [Layout.whole, Layout.fraction, digits, lead]
  exact ⟨rfl, rfl⟩

/-- A number with more digits than places is not padded. -/
theorem parts_positional_of_lt {places : ℕ} (long : places < digitCount coefficient) :
    (positional coefficient places).whole =
        (digitsOf coefficient).take (digitCount coefficient - places) ∧
      (positional coefficient places).fraction =
        (digitsOf coefficient).drop (digitCount coefficient - places) := by
  have digits : (positional coefficient places).digits = digitsOf coefficient :=
    paddedDigits_of_le long
  have lead : (positional coefficient places).lead = digitCount coefficient - places := by
    simp only [positional, length_paddedDigits]
    omega
  rw [Layout.whole, Layout.fraction, digits, lead]
  exact ⟨rfl, rfl⟩

theorem chars_positional (places : ℕ) :
    (positional coefficient places).chars = pointedText coefficient places := by
  have fractional : (positional coefficient places).fraction = [] ↔ places = 0 := by
    rw [← List.length_eq_zero_iff, length_fraction_positional]
  have unmarked : (positional coefficient places).exponent = 0 := rfl
  simp only [Layout.chars, pointedText, fractional, unmarked, if_true, List.append_nil,
    length_decimalText]
  rcases Nat.lt_or_ge places (digitCount coefficient) with long | short
  · rcases parts_positional_of_lt coefficient long with ⟨whole, fraction⟩
    rw [if_pos long, whole, fraction, List.map_take, List.map_drop, ← decimalText]
    by_cases none : places = 0
    · rw [if_pos none, if_pos none, none, Nat.sub_zero, ← length_decimalText, List.take_length,
        List.append_nil]
    · rw [if_neg none, if_neg none]
  · rcases parts_positional_of_le coefficient short with ⟨whole, fraction⟩
    have positive : places ≠ 0 := Nat.ne_of_gt ((digitCount_pos coefficient).trans_le short)
    rw [if_neg positive, if_neg positive, if_neg (not_lt.mpr short), whole, fraction,
      ← paddedText_eq, paddedText]
    rfl

/-! ## Scientific texts -/

/-- One digit before the point and the others after it. -/
def scientific (exponent : ℤ) : Layout where
  digits := digitsOf coefficient
  proper := fun _ => lt_ten_of_mem_digitsOf
  lead := 1
  lead_pos := Nat.one_pos
  lead_le := digitCount_pos coefficient
  exponent := exponent

theorem chars_scientific (exponent : ℤ) :
    (scientific coefficient exponent).chars =
      leadingText coefficient ++ if exponent = 0 then [] else exponentText exponent := by
  have written : (scientific coefficient exponent).chars =
      ((digitsOf coefficient).take 1).map digitCharacter ++
        ((if (digitsOf coefficient).drop 1 = [] then []
            else '.' :: ((digitsOf coefficient).drop 1).map digitCharacter) ++
          if exponent = 0 then [] else exponentText exponent) :=
    rfl
  rw [written, leadingText, decimalText, ← List.append_assoc]
  cases digits : digitsOf coefficient with
  | nil => exact absurd digits (digitsOf_ne_nil coefficient)
  | cons first others =>
      cases others with
      | nil => rfl
      | cons second rest => rfl

/-- In scientific notation the exponent is that of the leading digit. -/
theorem number_scientific (negative : Bool) (exponent : ℤ) :
    (scientific coefficient exponent).number negative =
      ⟨negative, coefficient, exponent - (digitCount coefficient - 1)⟩ := by
  have count : (scientific coefficient exponent).fraction.length = digitCount coefficient - 1 :=
    List.length_drop
  rw [Layout.number, count, Nat.cast_sub (digitCount_pos coefficient), mk.injEq]
  exact ⟨rfl, valueOfDigits_digitsOf _, rfl⟩

/-! ## Canonical texts -/

variable (number : Decimal)

/-- The layout of the canonical text. -/
def layout : Layout :=
  if number.exponent ≤ 0 ∧ -6 ≤ number.adjusted then positional number.coefficient number.places
  else scientific number.coefficient number.adjusted

theorem text_eq :
    number.text =
      if number.negative then '-' :: number.layout.chars else number.layout.chars := by
  have unsigned :
      (if number.exponent ≤ 0 ∧ -6 ≤ number.adjusted then
          pointedText number.coefficient number.places
        else
          leadingText number.coefficient ++
            if number.adjusted = 0 then [] else exponentText number.adjusted) =
        number.layout.chars := by
    unfold layout
    split
    · rw [chars_positional]
    · rw [chars_scientific]
  rw [text, unsigned]

/-- The layout that is chosen for a number writes that number. -/
theorem number_layout : number.layout.number number.negative = number := by
  rcases number with ⟨negative, coefficient, exponent⟩
  unfold layout
  split
  · rename_i plain
    rw [number_positional, mk.injEq, places, Int.toNat_of_nonneg (Int.neg_nonneg.mpr plain.1)]
    exact ⟨rfl, rfl, Int.neg_neg exponent⟩
  · rw [number_scientific, mk.injEq, adjusted]
    refine ⟨rfl, rfl, ?_⟩
    dsimp only
    ring

/-- The canonical text spells the number, with its sign, its coefficient and its exponent. -/
theorem exists_spelling_text :
    ∃ spelling : Spelling,
      spelling.text = String.ofList number.text ∧ spelling.decimal = number := by
  refine ⟨number.layout.spelling number.negative, ?_, ?_⟩
  · rw [Layout.text_spelling, text_eq]
  · rw [Layout.decimal_spelling, number_layout]

end Decimal

end Criteria
