import Criteria.Json.Printer
import Criteria.Policy

/-!
# Filters

A filter is a criterion together with the policy of its column.  It can be validated, and it can say
in a message what is wrong with it.
-/

namespace Criteria

/-- A criterion, and the policy that its column's type has for it. -/
structure Filter where
  criterion : Criterion
  policy : Policy

namespace Filter

/-- The filter of a criterion, if its column's type has a policy. -/
def ofCriterion (criterion : Criterion) : Except Error Filter :=
  match Policy.ofType? criterion.column.type with
  | some policy => .ok ⟨criterion, policy⟩
  | none =>
      .error (.unsupportedColumn criterion.column.name criterion.column.type.name)

/-- The violations of a filter, in the order of the rules. -/
def validate (filter : Filter) (config : Config) : List Violation :=
  Rule.evaluateAll filter.policy.rules config filter.criterion

/-- The name of the filter's column as clients know it, or as the table has it. -/
def displayName (filter : Filter) (config : Config) : String :=
  if config.camelize then filter.criterion.column.fieldName else filter.criterion.column.name

/-- What the filter compares with, in messages: the value, else the list, else the other column. -/
def displayValue (filter : Filter) : String :=
  match filter.criterion.value?, filter.criterion.values?, filter.criterion.otherColumn? with
  | some value, _, _ => value
  | none, some values, _ => (Json.array (values.map Json.string)).render
  | none, none, some column => column.name
  | none, none, none => ""

/-- The message about some violations of the filter, each reason once; none without violations. -/
def describe (filter : Filter) (config : Config) (violations : List Violation) : Option String :=
  if violations.isEmpty then none
  else
    let reasons := (violations.map (·.message)).eraseDups
    some <|
      filter.displayName config ++ " (type: " ++ filter.criterion.column.type.name ++
        ", operation: " ++ filter.criterion.operation.name ++
        ", value: \"" ++ filter.displayValue ++ "\"): " ++ ", ".intercalate reasons

/-- The message about the filter, if it is invalid. -/
def errorMessage (filter : Filter) (config : Config) : Option String :=
  filter.describe config (filter.validate config)

end Filter

end Criteria
