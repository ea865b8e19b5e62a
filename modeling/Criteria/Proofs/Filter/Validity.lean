import Criteria.Filter

/-!
# Valid filters

A filter without violations has what each rule of its policy asks for.  This module reads every rule
as a condition on the criterion (`passes`), and gathers the conditions of a policy in one structure
(`Filter.IsValid`).  Validation is exact: a filter has no violation exactly if it is valid in this
sense (`validate_eq_nil_iff`), whatever the configuration.
-/

namespace Criteria

namespace Rule

/-- Whether a criterion passes a rule: the rule does not apply to it, or it holds. -/
def passes (rule : Rule) (criterion : Criterion) : Bool :=
  !rule.applies criterion || rule.holds criterion

/-- A criterion that does not pass a rule has the violation that the rule words. -/
theorem evaluate_eq_ite (rule : Rule) (config : Config) (criterion : Criterion) :
    rule.evaluate config criterion =
      if rule.passes criterion then none else some ⟨rule.kind, rule.message config⟩ := by
  unfold evaluate passes
  cases rule.applies criterion <;> cases rule.holds criterion <;> rfl

theorem evaluate_eq_none_iff
    (rule : Rule) (config : Config) (criterion : Criterion) :
    rule.evaluate config criterion = none ↔ rule.passes criterion = true := by
  rw [evaluate_eq_ite]
  simp

/-- Rules find nothing exactly if the criterion passes each of them. -/
theorem evaluateAll_eq_nil_iff
    (rules : List Rule) (config : Config) (criterion : Criterion) :
    evaluateAll rules config criterion = [] ↔
      ∀ rule ∈ rules, rule.passes criterion = true := by
  simp only [evaluateAll, List.filterMap_eq_nil_iff, evaluate_eq_none_iff]

/-! ## What each rule asks for -/

theorem operationAllowed_passes_iff
    (operations : List Operation) (criterion : Criterion) :
    (operationAllowed operations).passes criterion = true ↔
      criterion.operation ∈ operations ∨ criterion.operation = .truth := by
  simp [passes, operationAllowed, List.mem_eraseDups]

/-- Where a truth value is asked for, a word for one has to be given. -/
theorem tokenRecognized_passes_iff (criterion : Criterion) :
    tokenRecognized.passes criterion = true ↔
      (criterion.operation = .truth →
        ∃ value, criterion.value? = some value ∧ isBooleanToken value = true) := by
  by_cases asked : criterion.operation = .truth
  · simp [passes, tokenRecognized, asked, Option.any_eq_true]
  · simp [passes, tokenRecognized, asked]

theorem valuesPresent_passes_iff (criterion : Criterion) :
    valuesPresent.passes criterion = true ↔
      (criterion.operation = .oneOf → criterion.values?.isSome = true) := by
  by_cases asked : criterion.operation = .oneOf
  · simp [passes, valuesPresent, asked]
  · simp [passes, valuesPresent, asked]

/-- An operation on two columns has to have a value or another column. -/
theorem valueOrColumnPresent_passes_iff (criterion : Criterion) :
    valueOrColumnPresent.passes criterion = true ↔
      (criterion.operation.comparesColumns = true →
        criterion.value?.isSome = true ∨ criterion.otherColumn?.isSome = true) := by
  by_cases asked : criterion.operation.comparesColumns = true
  · simp [passes, valueOrColumnPresent, asked]
  · simp [passes, valueOrColumnPresent, asked]

/-- An operation on one value has to have it. -/
theorem valuePresent_passes_iff (criterion : Criterion) :
    valuePresent.passes criterion = true ↔
      (criterion.operation ≠ .oneOf → criterion.operation.comparesColumns = false →
        criterion.value?.isSome = true) := by
  by_cases several : criterion.operation = .oneOf
  · simp [passes, valuePresent, several]
  · by_cases asked : criterion.operation.comparesColumns = true
    · simp [passes, valuePresent, asked]
    · simp [passes, valuePresent, several, asked]

/-- A value has to have the format, unless the operation is exempt or another column is given. -/
theorem valueFormatted_passes_iff
    (accepts : String → Bool) (message : Config → String) (criterion : Criterion) :
    (valueFormatted accepts message).passes criterion = true ↔
      (criterion.operation.isUnformatted = false → criterion.otherColumn? = none →
        ∀ value, criterion.value? = some value → accepts value = true) := by
  cases given : criterion.value? with
  | none => simp [passes, valueFormatted, given]
  | some value =>
      cases other : criterion.otherColumn? with
      | some column => simp [passes, valueFormatted, other]
      | none =>
          by_cases exempt : criterion.operation.isUnformatted = true
          · simp [passes, valueFormatted, exempt]
          · simp [passes, valueFormatted, given, other, exempt]

end Rule

/-- The rules of a policy: on the operation, on what is given, and on the format if it has one. -/
theorem Policy.mem_rules_cases {policy : Policy} {rule : Rule} (member : rule ∈ policy.rules) :
    rule = .operationAllowed policy.allowed ∨ rule = .tokenRecognized ∨ rule = .valuesPresent ∨
      rule = .valueOrColumnPresent ∨ rule = .valuePresent ∨
        ∃ format ∈ policy.format?, rule = .valueFormatted format.accepts format.message := by
  simp only [rules, Rule.common, List.cons_append, List.nil_append, List.mem_cons,
    Option.mem_toList, Option.map_eq_some_iff] at member
  simpa only [eq_comm, Option.mem_def] using member

namespace Filter

/-- What a filter without violations is: one condition for each rule. -/
structure IsValid (filter : Filter) : Prop where
  operation :
    filter.criterion.operation ∈ filter.policy.operations ∨ filter.criterion.operation = .truth
  token :
    filter.criterion.operation = .truth →
      ∃ value, filter.criterion.value? = some value ∧ isBooleanToken value = true
  values : filter.criterion.operation = .oneOf → filter.criterion.values?.isSome = true
  operand :
    filter.criterion.operation.comparesColumns = true →
      filter.criterion.value?.isSome = true ∨ filter.criterion.otherColumn?.isSome = true
  value :
    filter.criterion.operation ≠ .oneOf →
      filter.criterion.operation.comparesColumns = false →
        filter.criterion.value?.isSome = true
  format :
    ∀ format, filter.policy.format? = some format →
      filter.criterion.operation.isUnformatted = false →
        filter.criterion.otherColumn? = none →
          ∀ value, filter.criterion.value? = some value → format.accepts value = true

theorem mem_allowed_iff (policy : Policy) (operation : Operation) :
    operation ∈ policy.allowed ↔ operation ∈ policy.operations ∨ operation = .truth := by
  simp [Policy.allowed]

/-- Validation finds nothing exactly if the filter is valid; the configuration plays no part. -/
theorem validate_eq_nil_iff (filter : Filter) (config : Config) :
    filter.validate config = [] ↔ filter.IsValid := by
  unfold validate
  rw [Rule.evaluateAll_eq_nil_iff]
  simp only [Policy.rules, Rule.common, List.cons_append, List.nil_append,
    List.forall_mem_cons, Option.mem_toList, Option.map_eq_some_iff,
    Rule.operationAllowed_passes_iff, Rule.tokenRecognized_passes_iff,
    Rule.valuesPresent_passes_iff, Rule.valueOrColumnPresent_passes_iff,
    Rule.valuePresent_passes_iff, mem_allowed_iff]
  constructor
  · rintro ⟨operation, token, values, operand, value, format⟩
    have listed := operation.elim id Or.inr
    refine ⟨listed, token, values, operand, value, ?_⟩
    intro given present
    exact (Rule.valueFormatted_passes_iff _ _ _).mp (format _ ⟨given, present, rfl⟩)
  · intro valid
    refine ⟨Or.inl valid.operation, valid.token, valid.values, valid.operand, valid.value, ?_⟩
    rintro rule ⟨format, present, rfl⟩
    exact (Rule.valueFormatted_passes_iff _ _ _).mpr (valid.format format present)

/-! ## Messages -/

/-- What a message about a filter says before it comes to the reasons. -/
def heading (filter : Filter) (config : Config) : String :=
  filter.displayName config ++ " (type: " ++ filter.criterion.column.type.name ++
    ", operation: " ++ filter.criterion.operation.name ++
    ", value: \"" ++ filter.displayValue ++ "\"): "

/-- The message of an invalid filter: a heading, then each reason once. -/
theorem describe_of_ne_nil (filter : Filter) (config : Config) {violations : List Violation}
    (found : violations ≠ []) :
    filter.describe config violations =
      some (filter.heading config ++
        ", ".intercalate (violations.map Violation.message).eraseDups) := by
  rw [describe, if_neg (mt List.isEmpty_iff.mp found)]
  rfl

theorem describe_eq_none_iff (filter : Filter) (config : Config) (violations : List Violation) :
    filter.describe config violations = none ↔ violations = [] := by
  cases violations with
  | nil => exact iff_of_true rfl rfl
  | cons first rest =>
      rw [describe_of_ne_nil filter config (List.cons_ne_nil first rest)]
      simp

/-- A filter has a message exactly if it is invalid. -/
theorem errorMessage_eq_none_iff (filter : Filter) (config : Config) :
    filter.errorMessage config = none ↔ filter.IsValid := by
  rw [errorMessage, describe_eq_none_iff, validate_eq_nil_iff]

end Filter

end Criteria
