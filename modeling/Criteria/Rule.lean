import Criteria.Config
import Criteria.Criterion
import Criteria.Token
import Criteria.Violation

/-!
# Validation rules

A rule says to which criteria it applies, what it asks of them, and what it says if they fall short.
All rules are evaluated; none of them hides another.
-/

namespace Criteria

/-- One thing that a policy asks of a criterion. -/
structure Rule where
  kind : ViolationKind
  /-- Whether the rule has anything to say about the criterion. -/
  applies : Criterion → Bool
  /-- Whether the criterion has what the rule asks for. -/
  holds : Criterion → Bool
  /-- The reason given if it has not. -/
  message : Config → String

namespace Rule

/-- The violation of a rule, if it applies and does not hold. -/
def evaluate (rule : Rule) (config : Config) (criterion : Criterion) : Option Violation :=
  if rule.applies criterion && !rule.holds criterion then
    some ⟨rule.kind, rule.message config⟩
  else none

/-- The violations of all rules, in the order of the rules. -/
def evaluateAll (rules : List Rule) (config : Config) (criterion : Criterion) : List Violation :=
  rules.filterMap fun rule => rule.evaluate config criterion

/-- The operation is one of those listed, or the comparison with a truth value. -/
def operationAllowed (operations : List Operation) : Rule :=
  let allowed := (operations ++ [Operation.truth]).eraseDups
  { kind := .operationNotSupported
    applies := fun _ => true
    holds := fun criterion => allowed.contains criterion.operation
    message := fun _ =>
      "only supports the following operations: " ++ ", ".intercalate (allowed.map Operation.name) }

/-- A comparison with a truth value is given a token for one. -/
def tokenRecognized : Rule where
  kind := .booleanTokenInvalid
  applies := fun criterion => criterion.operation == .truth
  holds := fun criterion => criterion.value?.any isBooleanToken
  message := fun _ =>
    "WITH operation only supports boolean values (" ++ ", ".intercalate booleanTokens ++ ")"

/-- A comparison with several values is given a list of them. -/
def valuesPresent : Rule where
  kind := .valuesRequired
  applies := fun criterion => criterion.operation == .oneOf
  holds := fun criterion => criterion.values?.isSome
  message := fun _ => "array values can't be null"

/-- A comparison that may be with a column is given a value or a column. -/
def valueOrColumnPresent : Rule where
  kind := .valueOrColumnRequired
  applies := fun criterion => criterion.operation.comparesColumns
  holds := fun criterion => criterion.value?.isSome || criterion.otherColumn?.isSome
  message := fun _ => "value or column value must be provided"

/-- Every other comparison is given a value. -/
def valuePresent : Rule where
  kind := .valueRequired
  applies := fun criterion =>
    criterion.operation != .oneOf && !criterion.operation.comparesColumns
  holds := fun criterion => criterion.value?.isSome
  message := fun _ => "value can't be null"

/--
A value has the format of its column.  The rule leaves out the operations whose values have no
format, the comparison with a column, and the missing value, which other rules report.
-/
def valueFormatted (accepts : String → Bool) (message : Config → String) : Rule where
  kind := .valueFormatInvalid
  applies := fun criterion =>
    !criterion.operation.isUnformatted && criterion.otherColumn?.isNone && criterion.value?.isSome
  holds := fun criterion => criterion.value?.all accepts
  message := message

/-- The rules that do not depend on the column. -/
def common : List Rule :=
  [tokenRecognized, valuesPresent, valueOrColumnPresent, valuePresent]

end Rule

end Criteria
