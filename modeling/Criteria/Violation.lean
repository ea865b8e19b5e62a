import Criteria.Schema

/-!
# Violations

What validation finds wrong with a criterion.
-/

namespace Criteria

/-- What a criterion can violate. -/
inductive ViolationKind where
  | operationNotSupported
  | booleanTokenInvalid
  | valueRequired
  | valuesRequired
  | valueOrColumnRequired
  | valueFormatInvalid
deriving DecidableEq, Repr

namespace ViolationKind

/-- All kinds, in the order of the rules. -/
def all : List ViolationKind :=
  [.operationNotSupported, .booleanTokenInvalid, .valueRequired, .valuesRequired,
    .valueOrColumnRequired, .valueFormatInvalid]

/-- The code of a kind. -/
def name : ViolationKind → String
  | .operationNotSupported => "operation_not_supported"
  | .booleanTokenInvalid => "boolean_token_invalid"
  | .valueRequired => "value_required"
  | .valuesRequired => "values_required"
  | .valueOrColumnRequired => "value_or_column_required"
  | .valueFormatInvalid => "value_format_invalid"

end ViolationKind

/-- A kind of violation and the reason given for it. -/
structure Violation where
  kind : ViolationKind
  message : String
deriving DecidableEq, Repr

/-- Reads a violation from a JSON object with its kind and its message. -/
def Violation.ofJson : Json → Checked Violation
  | .object entries =>
      let readKind := Json.readChoice ViolationKind.all ViolationKind.name
      let kind := Json.readField "kind" readKind entries
      let message := Json.readField "message" Json.readString entries
      match kind, message with
      | .ok kind, .ok message => .ok ⟨kind, message⟩
      | kind, message => .error (Checked.failures kind ++ Checked.failures message)
  | _ => Checked.fail (.notRecord "Violation")

end Criteria
