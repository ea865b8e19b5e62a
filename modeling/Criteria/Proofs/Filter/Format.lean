import Criteria.Proofs.Filter.Compilation

/-!
# Which values are held to their format

The value of a comparison is bound whenever it is given, also beside another column.  The rule on
formats, however, leaves out every filter that has another column.  So a valid filter may bind a
value that nothing has looked at: `format_respected_iff` says exactly when, and
`not_format_respected` gives a filter for which it happens.
-/

namespace Criteria

namespace Filter

theorem mem_operations_of_scalar
    {filter : Filter} (valid : filter.IsValid)
    {relation : Relation} (related : filter.criterion.operation.scalarRelation? = some relation) :
    filter.criterion.operation ∈ filter.policy.operations := by
  rcases valid.operation with listed | isTruth
  · exact listed
  · rw [isTruth] at related
    cases related

/--
A filter with a value to relate its column to is valid if another column or the format allows.
-/
theorem isValid_iff_of_value
    {filter : Filter} {format : ValueFormat} (formatted : filter.policy.format? = some format)
    {relation : Relation} (related : filter.criterion.operation.scalarRelation? = some relation)
    {text : String} (given : filter.criterion.value? = some text) :
    filter.IsValid ↔
      filter.criterion.operation ∈ filter.policy.operations ∧
        (filter.criterion.otherColumn?.isSome = true ∨ format.accepts text = true) := by
  have notTruth : filter.criterion.operation ≠ .truth := by
    intro isTruth
    rw [isTruth] at related
    cases related
  have single : filter.criterion.operation ≠ .oneOf := by
    intro several
    rw [several] at related
    cases related
  have heldToFormat : filter.criterion.operation.isUnformatted = false := by
    simp [Operation.isUnformatted, notTruth, single]
  constructor
  · intro valid
    refine ⟨mem_operations_of_scalar valid related, ?_⟩
    cases other : filter.criterion.otherColumn? with
    | some column => exact Or.inl rfl
    | none => exact Or.inr (valid.format format formatted heldToFormat other text given)
  · rintro ⟨listed, excused⟩
    refine ⟨Or.inl listed, fun isTruth => absurd isTruth notTruth,
      fun several => absurd several single, fun _ => Or.inl (by rw [given]; rfl),
      fun _ _ => by rw [given]; rfl, ?_⟩
    intro other otherFormatted _ alone value valueGiven
    rw [formatted] at otherFormatted
    rw [given] at valueGiven
    cases otherFormatted
    cases valueGiven
    simpa [alone] using excused

/--
A filter that relates its column to a given value, under a format.  It is valid exactly if its
operation is one of the policy's and either it has another column or the value has the format.  So
that it is valid ensures the format exactly if it has no other column, or if the value has the
format anyway, or if the operation is none of the policy's.  The value is bound in every case.
-/
theorem format_respected_iff [Machine]
    {criterion : Criterion} {filter : Filter} (made : Filter.ofCriterion criterion = .ok filter)
    {format : ValueFormat} (formatted : filter.policy.format? = some format)
    {relation : Relation} (related : criterion.operation.scalarRelation? = some relation)
    {text : String} (given : criterion.value? = some text) (config : Config) :
    (filter.validate config = [] ↔
        criterion.operation ∈ filter.policy.operations ∧
          (criterion.otherColumn?.isSome = true ∨ format.accepts text = true)) ∧
      ((filter.validate config = [] → format.accepts text = true) ↔
        criterion.otherColumn? = none ∨ format.accepts text = true ∨
          criterion.operation ∉ filter.policy.operations) ∧
      ∀ (table : Table) (position : Nat), table.hasColumn criterion.column.name = true →
        filter.predicate table position =
          (Binding.ofText criterion.column.type text).map fun binding =>
            .leaf position (.value criterion.column.name relation binding) := by
  rcases ofCriterion_eq_ok_iff.mp made with ⟨rfl, _⟩
  rw [validate_eq_nil_iff, isValid_iff_of_value formatted related given]
  refine ⟨Iff.rfl, ?_, fun table position found => predicate_of_value found related given position⟩
  constructor
  · intro respected
    by_cases listed : filter.criterion.operation ∈ filter.policy.operations
    · cases other : filter.criterion.otherColumn? with
      | none => exact Or.inl rfl
      | some column =>
          have accepted := respected ⟨listed, Or.inl (by rw [other]; rfl)⟩
          exact Or.inr (Or.inl accepted)
    · exact Or.inr (Or.inr listed)
  · rintro (alone | accepted | unlisted) ⟨listed, excused⟩
    · simpa [alone] using excused
    · exact accepted
    · exact absurd listed unlisted

/-- A criterion on a column of integers: its value is no number, and another column is given. -/
def uncheckedCriterion : Criterion where
  column := ⟨"age", .integer⟩
  operation := .greaterThan
  isOr := false
  value? := some "zz"
  values? := none
  otherColumn? := some ⟨"score", .decimal⟩

/-- Of the unchecked criterion validation ensures nothing, and its text is bound as a literal. -/
theorem format_respected_iff_uncheckedCriterion :
    ¬ (Filter.validate ⟨uncheckedCriterion, .numeric⟩ ⟨true, false, ⟨2024, 5, 6⟩⟩ = [] →
          isNumeric "zz" = true) ∧
      Filter.predicate ⟨uncheckedCriterion, .numeric⟩
          ⟨"people", [⟨"age", .integer⟩, ⟨"score", .decimal⟩]⟩ 0 =
        .ok (.leaf 0 (.value "age" .greater (.literal "zz"))) := by
  have made : Filter.ofCriterion uncheckedCriterion = .ok ⟨uncheckedCriterion, .numeric⟩ := rfl
  have formatted : Policy.numeric.format? = some .numeric := rfl
  have related : uncheckedCriterion.operation.scalarRelation? = some .greater := rfl
  have given : uncheckedCriterion.value? = some "zz" := rfl
  rcases format_respected_iff made formatted related given _ with ⟨_, respectedIff, bound⟩
  constructor
  · intro respected
    have excuse := respectedIff.mp respected
    exact absurd excuse (by decide)
  · exact bound _ 0 (by decide)

theorem not_format_respected :
    ¬ ∀ (criterion : Criterion) (filter : Filter) (format : ValueFormat) (text : String)
        (config : Config),
      Filter.ofCriterion criterion = .ok filter → filter.validate config = [] →
        criterion.operation ∈
            [Operation.equal, Operation.notEqual, Operation.greaterThan, Operation.lessThan] →
          criterion.value? = some text → filter.policy.format? = some format →
            format.accepts text = true := by
  intro respected
  have accepted : isNumeric "zz" = true :=
    respected uncheckedCriterion ⟨uncheckedCriterion, .numeric⟩ .numeric "zz"
      ⟨true, false, ⟨2024, 5, 6⟩⟩ rfl rfl (by decide) rfl rfl
  exact absurd accepted (by decide)

end Filter

end Criteria
