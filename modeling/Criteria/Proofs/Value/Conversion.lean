import Criteria.Policy
import Criteria.Proofs.Number.Decimal
import Criteria.Proofs.Number.Numeral
import Criteria.Proofs.Uuid
import Criteria.Value

/-!
# Values that have their format

A format is checked by one reader and a value is converted by another.  A text that has the format
of a column converts, with two exceptions: the format of numbers allows an exponent of any size, but
a number has bounds on its exponents, and there may be no room for an integer.  A numeral beyond the
bounds is bound as a literal; without room nothing is bound (`converts_iff_of_accepts`).
-/

namespace Criteria

/-- Whether the values of a type are numbers. -/
def ColumnType.isNumber : ColumnType → Bool
  | .integer | .numeric | .decimal | .float => true
  | .uuid | .date | .datetime | .boolean | .string | .text | .time | .json | .binary | .other =>
      false

/-- Whether a value is of the kind of a type; columns of integers take a double for a fraction. -/
def Value.isOf (type : ColumnType) (value : Value) : Bool :=
  match type, value with
  | .uuid, .uuid _ => true
  | .date, .date _ => true
  | .datetime, .moment _ => true
  | .integer, .integer _ => true
  | .integer, .double _ => true
  | .numeric, .decimal _ => true
  | .decimal, .decimal _ => true
  | .float, .double _ => true
  | .boolean, .text _ => true
  | .string, .text _ => true
  | .text, .text _ => true
  | .time, .text _ => true
  | .json, .text _ => true
  | .binary, .text _ => true
  | .other, .text _ => true
  | _, _ => false

namespace Conversion

/-! ## What converts -/

section OfRead

variable {read : Option Value}

@[simp]
theorem ofRead_eq_value_iff {value : Value} : ofRead read = .value value ↔ read = some value := by
  cases read <;> simp [ofRead]

@[simp]
theorem ofRead_eq_unreadable_iff : ofRead read = .unreadable ↔ read = none := by
  cases read <;> simp [ofRead]

@[simp]
theorem ofRead_ne_noRoom : ofRead read ≠ .noRoom := by
  cases read <;> exact nofun

end OfRead

variable [Machine]

/-- Only an integral number can lack room. -/
theorem ofNumber_eq_noRoom_iff {number : Decimal} :
    ofNumber number = .noRoom ↔ number.isIntegral = true ∧ number.fits = false := by
  cases integral : number.isIntegral with
  | false => simp [ofNumber, integral]
  | true =>
      rw [← Decimal.toInteger?_eq_none_iff, ofNumber, if_pos integral]
      cases number.toInteger? <;> simp

theorem ofNumber_ne_unreadable {number : Decimal} : ofNumber number ≠ .unreadable := by
  unfold ofNumber
  split
  · cases number.toInteger? <;> exact nofun
  · exact nofun

variable {type : ColumnType} {text : String}

/-- What a text converts to is of the kind of the type. -/
theorem isOf_of_ofText {value : Value} (converted : ofText type text = .value value) :
    value.isOf type = true := by
  cases type with
  | boolean | string | text | time | json | binary | other =>
      cases converted
      rfl
  | integer =>
      simp only [ofText, ofNumber] at converted
      split at converted
      · split at converted
        · split at converted
          · cases converted
            rfl
          · cases converted
        · cases converted
          rfl
      · cases converted
  | uuid | date | datetime | numeric | decimal | float =>
      simp only [ofText, ofRead_eq_value_iff, Option.map_eq_some_iff] at converted
      rcases converted with ⟨_, _, rfl⟩
      rfl

/-- On a column of numbers every number converts, unless there is no room for it. -/
theorem ofText_eq_unreadable_iff_of_isNumber (isNumber : type.isNumber = true) :
    ofText type text = .unreadable ↔ Decimal.read? text = none := by
  cases type with
  | numeric | decimal | float => rw [ofText, ofRead_eq_unreadable_iff, Option.map_eq_none_iff]
  | integer =>
      rw [ofText]
      cases Decimal.read? text with
      | none => simp
      | some number => simp [ofNumber_ne_unreadable]
  | uuid | date | datetime | boolean | string | text | time | json | binary | other =>
      cases isNumber

end Conversion

/-! ## Room -/

/--
Whether there is room for what is bound for a text.  Only integers need it: on the columns of their
type, and only if the text writes one.
-/
def Binding.HasRoom [Machine] (type : ColumnType) (text : String) : Prop :=
  type = .integer →
    ∀ number ∈ Decimal.read? text, number.isIntegral = true → number.fits = true

namespace Binding

variable [Machine] {type : ColumnType} {text : String}

instance : Decidable (HasRoom type text) :=
  inferInstanceAs (Decidable (_ → ∀ _, _ → _))

/-- A conversion fails for want of room exactly if there is none. -/
theorem ofText_eq_noRoom_iff : Conversion.ofText type text = .noRoom ↔ ¬ HasRoom type text := by
  cases type with
  | integer =>
      rw [Conversion.ofText, HasRoom]
      cases Decimal.read? text with
      | none => simp
      | some number => simp [Conversion.ofNumber_eq_noRoom_iff]
  | uuid | date | datetime | numeric | decimal | float => simp [Conversion.ofText, HasRoom]
  | boolean | string | text | time | json | binary | other => simp [Conversion.ofText, HasRoom]

/-! ## What is bound -/

theorem ofText_eq_converted_iff {value : Value} :
    ofText type text = .ok (.converted value) ↔ Conversion.ofText type text = .value value := by
  unfold ofText
  cases Conversion.ofText type text <;> simp

theorem ofText_eq_literal_iff :
    ofText type text = .ok (.literal text) ↔ Conversion.ofText type text = .unreadable := by
  unfold ofText
  cases Conversion.ofText type text <;> simp

/-- Nothing but a lack of room keeps a text from being bound. -/
theorem ofText_eq_error_iff {error : Error} :
    ofText type text = .error error ↔ ¬ HasRoom type text ∧ error = .noRoom := by
  rw [← ofText_eq_noRoom_iff, ofText]
  cases Conversion.ofText type text <;> simp [eq_comm]

/-- Something is bound exactly if there is room. -/
theorem exists_ofText_iff_hasRoom :
    (∃ binding, ofText type text = .ok binding) ↔ HasRoom type text := by
  rw [← not_iff_not, ← ofText_eq_noRoom_iff, ofText]
  cases Conversion.ofText type text <;> simp

/-- What is bound if there is room: a value, or the text that is no value. -/
theorem exists_converted_iff :
    (∃ value, ofText type text = .ok (.converted value) ∧ value.isOf type = true) ↔
      Conversion.ofText type text ≠ .unreadable ∧ HasRoom type text := by
  simp only [ofText_eq_converted_iff]
  rw [← not_not (a := HasRoom type text), ← ofText_eq_noRoom_iff]
  cases converted : Conversion.ofText type text with
  | value value => simp [Conversion.isOf_of_ofText converted]
  | unreadable => simp
  | noRoom => simp

end Binding

/-! ## One format after another -/

section

variable [Machine] {type : ColumnType} {text : String}

theorem ofText_ne_unreadable_of_isUuid (written : isUuid text = true) :
    Conversion.ofText .uuid text ≠ .unreadable := by
  rcases Uuid.read?_of_isUuid written with ⟨uuid, read, _⟩
  simp [Conversion.ofText, read]

/-- On dates and moments exactly the texts convert that the format accepts. -/
theorem ofText_ne_unreadable_iff_isMoment (temporal : type = .date ∨ type = .datetime) :
    Conversion.ofText type text ≠ .unreadable ↔ isMoment text = true := by
  rcases temporal with rfl | rfl <;>
    simp [Conversion.ofText, isMoment, Option.isSome_iff_ne_none]

/-- A numeral can be read exactly if the number that it writes has its exponents within bounds. -/
theorem ofText_ne_unreadable_iff_isExpressible
    (isNumber : type.isNumber = true) {number : Decimal}
    (written : Decimal.written? text = some number) :
    Conversion.ofText type text ≠ .unreadable ↔ number.isExpressible = true := by
  rw [ne_eq, Conversion.ofText_eq_unreadable_iff_of_isNumber isNumber,
    Decimal.read?_of_written? written]
  cases number.isExpressible <;> simp

end

/-! ## All formats -/

section Formats

variable {policy : Policy} (filterable : Policy.ofType? type = some policy)
  {format : ValueFormat} (formatted : policy.format? = some format)

include filterable formatted

/-- Which format the texts of a type are held to. -/
theorem ValueFormat.cases_of_ofType? :
    type = .uuid ∧ format = .uuid ∨
      (type = .date ∨ type = .datetime) ∧ format = .moment ∨
        type.isNumber = true ∧ format = .numeric := by
  cases type with
  | uuid =>
      simp only [Policy.ofType?, Option.some.injEq] at filterable
      rw [← filterable, Policy.uuid, Option.some.injEq] at formatted
      exact .inl ⟨rfl, formatted.symm⟩
  | date | datetime =>
      simp only [Policy.ofType?, Option.some.injEq] at filterable
      rw [← filterable, Policy.date, Option.some.injEq] at formatted
      exact .inr (.inl ⟨by decide, formatted.symm⟩)
  | integer | numeric | decimal | float =>
      simp only [Policy.ofType?, Option.some.injEq] at filterable
      rw [← filterable, Policy.numeric, Option.some.injEq] at formatted
      exact .inr (.inr ⟨rfl, formatted.symm⟩)
  | boolean | string | text =>
      simp only [Policy.ofType?, Option.some.injEq] at filterable
      simp [← filterable, Policy.boolean, Policy.string] at formatted
  | time | json | binary | other => simp [Policy.ofType?] at filterable

/--
A text that has the format of a column is converted to a value of its kind, with two exceptions,
both on columns of numbers.  If the number that the text writes has an exponent out of bounds, the
text is bound as a literal.  If it is an integer that there is no room for, on a column of integers,
nothing is bound.
-/
theorem converts_iff_of_accepts [Machine] (accepted : format.accepts text = true) :
    (type.isNumber = true → ∃ number, Decimal.written? text = some number) ∧
      ((∃ value, Binding.ofText type text = .ok (.converted value) ∧ value.isOf type = true) ↔
        (type.isNumber = true →
          ∀ number, Decimal.written? text = some number → number.isExpressible = true) ∧
          Binding.HasRoom type text) ∧
      (Binding.ofText type text = .ok (.literal text) ↔
        type.isNumber = true ∧
          ∃ number, Decimal.written? text = some number ∧ number.isExpressible = false) ∧
      (Binding.ofText type text = .error .noRoom ↔ ¬ Binding.HasRoom type text) := by
  rw [Binding.exists_converted_iff, Binding.ofText_eq_literal_iff, Binding.ofText_eq_error_iff]
  rcases ValueFormat.cases_of_ofType? filterable formatted with
    ⟨rfl, rfl⟩ | ⟨temporal, rfl⟩ | ⟨isNumber, rfl⟩
  · have readable : Conversion.ofText .uuid text ≠ .unreadable :=
      ofText_ne_unreadable_of_isUuid accepted
    simp [readable, ColumnType.isNumber]
  · have readable : Conversion.ofText type text ≠ .unreadable :=
      (ofText_ne_unreadable_iff_isMoment temporal).mpr accepted
    rcases temporal with rfl | rfl <;> simp [readable, ColumnType.isNumber]
  · rcases exists_written?_of_isNumeric accepted with ⟨number, written⟩
    have readable := ofText_ne_unreadable_iff_isExpressible isNumber written
    have literal : Conversion.ofText type text = .unreadable ↔ number.isExpressible = false := by
      rw [← not_iff_not, ← ne_eq, readable, Bool.not_eq_false]
    simp [readable, literal, written, isNumber]

end Formats

/-- Digits of any script, with blanks around them and a fraction. -/
theorem converts_iff_of_accepts_otherScript :
    isNumeric " -٣.٥e+2 " = true ∧
      ∃ value, Binding.ofText .decimal " -٣.٥e+2 " = .ok (.converted value) ∧
        value.isOf .decimal = true := by
  have filterable : Policy.ofType? .decimal = some .numeric := rfl
  have formatted : Policy.numeric.format? = some .numeric := rfl
  have accepted : ValueFormat.numeric.accepts " -٣.٥e+2 " = true := by decide
  rcases converts_iff_of_accepts filterable formatted accepted with ⟨_, convertsIff, _⟩
  refine ⟨accepted, convertsIff.mpr ⟨fun _ number written => ?_, nofun⟩⟩
  have isThis : Decimal.written? " -٣.٥e+2 " = some ⟨true, 35, 1⟩ := by decide
  rw [isThis] at written
  cases written
  decide

/-- An exponent that no number may have. -/
theorem not_converts_of_accepts :
    ¬ ∀ (type : ColumnType) (policy : Policy) (format : ValueFormat) (text : String),
      Policy.ofType? type = some policy → policy.format? = some format →
        format.accepts text = true →
          ∃ value, Binding.ofText type text = .ok (.converted value) ∧ value.isOf type = true := by
  intro converts
  have accepted : ValueFormat.numeric.accepts "1e1000000000000000000" = true := by decide
  have literal : Binding.ofText .numeric "1e1000000000000000000" =
      .ok (.literal "1e1000000000000000000") :=
    Binding.ofText_eq_literal_iff.mpr (by decide)
  rcases converts .numeric .numeric .numeric "1e1000000000000000000" rfl rfl accepted with
    ⟨value, converted, _⟩
  rw [literal] at converted
  cases converted

end Criteria
