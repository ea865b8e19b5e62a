import Criteria.Proofs.Number.Rounding
import Criteria.Proofs.Value.Conversion

/-!
# Which numbers stay finite

Infinities are no numerals, so none is read.  But a finite number may become one: a number that is
bound as a double is infinite from halfway between the largest double and the next power of two on.
This happens on columns of doubles, and on columns of integers to numbers that are no integers
(`bound_finite_iff`).
-/

namespace Criteria

namespace Double

theorem eq_infinity {double : Double} (infinite : double.isInfinite = true) :
    double = infinity double.negative := by
  rcases double with ⟨negative, magnitude, magnitude_le⟩
  have same : magnitude = infiniteMagnitude := eq_of_beq infinite
  subst same
  rfl

/-- A number becomes infinite exactly from overflow on. -/
theorem isInfinite_ofDecimal_iff (number : Decimal) :
    (ofDecimal number).isInfinite = true ↔ overflow ≤ |number.value| := by
  rw [number.abs_value]
  exact (rounds_ofDecimal number).infinite_iff

end Double

/-- Whether a value is a number, and not an infinite one. -/
def Value.isFiniteNumber : Value → Bool
  | .integer _ | .decimal _ => true
  | .double rounded => !rounded.isInfinite
  | .text _ | .uuid _ | .date _ | .moment _ => false

theorem Value.isFiniteNumber_ofDecimal_iff (number : Decimal) :
    (Value.double (Double.ofDecimal number)).isFiniteNumber = true ↔
      |number.value| < Double.overflow := by
  rw [isFiniteNumber, Bool.not_eq_true', ← Bool.not_eq_true, Double.isInfinite_ofDecimal_iff,
    not_le]

/-- Whether a number is bound as a double on the columns of a type. -/
def Decimal.BecomesDouble (number : Decimal) (type : ColumnType) : Prop :=
  type = .float ∨ type = .integer ∧ ¬ ∃ whole : ℤ, number.value = whole

section Machine

variable [Machine] {type : ColumnType} {text : String} {number : Decimal}

/-- A number is bound as a double, or else as itself if there is room for it. -/
theorem Conversion.ofText_of_number
    (isNumber : type.isNumber = true) (read : Decimal.read? text = some number) :
    number.BecomesDouble type ∧
        ofText type text = .value (.double (Double.ofDecimal number)) ∨
      ¬ number.BecomesDouble type ∧
        (ofText type text = .noRoom ∨
          ∃ value, ofText type text = .value value ∧ value.isFiniteNumber = true) := by
  cases type with
  | numeric | decimal =>
      refine .inr ⟨by simp [Decimal.BecomesDouble], .inr ⟨.decimal number, ?_, rfl⟩⟩
      rw [ofText, read, Option.map_some, ofRead]
  | float =>
      refine .inl ⟨.inl rfl, ?_⟩
      rw [ofText, read, Option.map_some, ofRead]
  | integer =>
      have becomes : number.BecomesDouble .integer ↔ number.isIntegral = false := by
        rw [← Bool.not_eq_true, number.isIntegral_iff]
        simp [Decimal.BecomesDouble]
      rw [becomes, ofText, read]
      dsimp only
      rw [ofNumber]
      cases number.isIntegral with
      | false => exact .inl ⟨rfl, rfl⟩
      | true =>
          refine .inr ⟨by decide, ?_⟩
          cases number.toInteger? with
          | none => exact .inl rfl
          | some whole => exact .inr ⟨.integer whole, rfl, rfl⟩
  | uuid | date | datetime | boolean | string | text | time | json | binary | other =>
      cases isNumber

/--
What is bound on a column of numbers is a finite number or the text as a literal, unless there is no
room for it, or a number is read that becomes a double and is too large for one.  Then its infinity
is bound.
-/
theorem bound_finite_iff (isNumber : type.isNumber = true) (text : String) :
    (((∃ value, Binding.ofText type text = .ok (.converted value) ∧
            value.isFiniteNumber = true) ∨
          Binding.ofText type text = .ok (.literal text)) ↔
        Binding.HasRoom type text ∧
          ∀ number, Decimal.read? text = some number → number.BecomesDouble type →
            |number.value| < Double.overflow) ∧
      ∀ number, Decimal.read? text = some number → number.BecomesDouble type →
        Double.overflow ≤ |number.value| →
          Binding.ofText type text =
            .ok (.converted (.double (.infinity number.negative))) := by
  simp only [Binding.ofText_eq_converted_iff, Binding.ofText_eq_literal_iff]
  rw [← not_not (a := Binding.HasRoom type text), ← Binding.ofText_eq_noRoom_iff]
  cases read : Decimal.read? text with
  | none =>
      have unreadable :=
        (Conversion.ofText_eq_unreadable_iff_of_isNumber isNumber).mpr read
      simp [unreadable]
  | some number =>
      rcases Conversion.ofText_of_number isNumber read with
        ⟨becomes, converted⟩ | ⟨stays, noRoom | ⟨value, converted, finite⟩⟩
      · constructor
        · simp [converted, becomes, Value.isFiniteNumber_ofDecimal_iff]
        · intro other same _ large
          rw [← Option.some.inj same] at large ⊢
          have infinite := Double.eq_infinity ((Double.isInfinite_ofDecimal_iff number).mpr large)
          rw [Double.negative_ofDecimal] at infinite
          rw [converted, infinite]
      · simp [noRoom, stays]
      · simp [converted, finite, stays]

end Machine

theorem bound_finite_iff_beyond :
    Decimal.read? "-1e309" = some ⟨true, 1, 309⟩ ∧
      Binding.ofText .float "-1e309" = .ok (.converted (.double (.infinity true))) := by
  have read : Decimal.read? "-1e309" = some ⟨true, 1, 309⟩ := by decide
  have large : Double.overflow ≤ |(⟨true, 1, 309⟩ : Decimal).value| := by
    rw [Decimal.abs_value, Decimal.magnitude, Nat.cast_one, one_mul]
    exact Double.overflow_le_pow
  have isNumber : ColumnType.float.isNumber = true := rfl
  rcases bound_finite_iff isNumber "-1e309" with ⟨_, infinite⟩
  exact ⟨read, infinite _ read (.inl rfl) large⟩

/-- A number that no double is near to. -/
theorem not_bound_finite :
    ¬ ∀ (type : ColumnType) (text : String), type.isNumber = true →
      (∃ value, Binding.ofText type text = .ok (.converted value) ∧ value.isFiniteNumber = true) ∨
        Binding.ofText type text = .ok (.literal text) := by
  intro finite
  have infinite :
      Binding.ofText .float "1e400" = .ok (.converted (.double (.infinity false))) :=
    Binding.ofText_eq_converted_iff.mpr (by decide)
  rcases finite .float "1e400" rfl with ⟨value, converted, isFinite⟩ | literal
  · rw [infinite, Except.ok.injEq, Binding.converted.injEq] at converted
    rw [← converted] at isFinite
    exact absurd isFinite (by decide)
  · rw [infinite] at literal
    cases literal

end Criteria
