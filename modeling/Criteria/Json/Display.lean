import Criteria.Json.Basic
import Criteria.Text.Printable

/-!
# Showing JSON values

How a JSON value is shown in a message: a string as it is, and every other value as a literal.
Inside a literal strings are quoted.
-/

namespace Criteria

namespace Json

mutual

/-- A value as it is shown in messages. -/
def literal : Json → String
  | .null => "None"
  | .bool value => if value then "True" else "False"
  | .integer value => String.ofList (integerText value)
  | .real value => String.ofList value.text
  | .string value => Text.quoteName value
  | .array items => "[" ++ ", ".intercalate (literals items) ++ "]"
  | .object entries => "\x7b" ++ ", ".intercalate (entryLiterals entries) ++ "\x7d"

def literals : List Json → List String
  | [] => []
  | item :: rest => literal item :: literals rest

def entryLiterals : List (String × Json) → List String
  | [] => []
  | (name, value) :: rest => (Text.quoteName name ++ ": " ++ literal value) :: entryLiterals rest

end

/-- How a value is shown in a message. -/
def display : Json → String
  | .string value => value
  | value => value.literal

/-- Whether a value says nothing: null, false, zero, and whatever is empty. -/
def isVoid : Json → Bool
  | .null => true
  | .bool value => !value
  | .integer value => value == 0
  | .real value => value.magnitude == 0
  | .string value => value == ""
  | .array items => items.isEmpty
  | .object entries => entries.isEmpty

/-- What a value is called in messages about values of the wrong kind. -/
def kindName : Json → String
  | .null => "NoneType"
  | .bool _ => "bool"
  | .integer _ => "int"
  | .real _ => "float"
  | .string _ => "str"
  | .array _ => "list"
  | .object _ => "dict"

@[simp]
theorem display_string (value : String) : display (.string value) = value :=
  rfl

end Json

end Criteria
