import Criteria.Json.Basic

/-!
# Reading records from JSON

A record is read field by field.  Reading never stops at the first failure: every field is looked
at, and what went wrong is reported with the place where it went wrong.
-/

namespace Criteria

/-- One step on the way to a part of a value. -/
inductive Key where
  | name (text : String)
  | index (position : Nat)
deriving DecidableEq, Repr

/-- What is wrong with a value. -/
inductive Cause where
  | missing
  | notString
  | notList
  | notBoolean
  | unreadableBoolean
  | notChoice (choices : List String)
  | notRecord (record : String)
  | unknownLevel (level : String)
deriving DecidableEq, Repr

namespace Cause

/-- The code of a cause. -/
def code : Cause → String
  | .missing => "missing"
  | .notString => "string_type"
  | .notList => "list_type"
  | .notBoolean => "bool_type"
  | .unreadableBoolean => "bool_parsing"
  | .notChoice _ => "enum"
  | .notRecord _ => "model_type"
  | .unknownLevel _ => "value_error"

/-- A list of choices, each between single quotes, the last after the word or. -/
def listChoices : List String → String
  | [] => ""
  | [choice] => "'" ++ choice ++ "'"
  | [choice, last] => "'" ++ choice ++ "' or '" ++ last ++ "'"
  | choice :: next :: rest => "'" ++ choice ++ "', " ++ listChoices (next :: rest)

/-- The message of a cause. -/
def message : Cause → String
  | .missing => "Field required"
  | .notString => "Input should be a valid string"
  | .notList => "Input should be a valid list"
  | .notBoolean => "Input should be a valid boolean"
  | .unreadableBoolean =>
      "Input should be a valid boolean, unable to interpret input"
  | .notChoice choices => "Input should be " ++ listChoices choices
  | .notRecord record => "Input should be a valid dictionary or instance of " ++ record
  | .unknownLevel level => "Value error, Unknown log level: " ++ level

end Cause

/-- What is wrong with a value, and where in it. -/
structure Failure where
  location : List Key
  cause : Cause
deriving DecidableEq, Repr

/-- The failure, seen from one step further out. -/
def Failure.within (key : Key) (failure : Failure) : Failure :=
  ⟨key :: failure.location, failure.cause⟩

/-- The outcome of reading a value: what was read, or everything that went wrong. -/
abbrev Checked (α : Type) := Except (List Failure) α

namespace Checked

/-- Fails with one cause, at the value itself. -/
def fail {α : Type} (cause : Cause) : Checked α :=
  .error [⟨[], cause⟩]

/-- The outcome, seen from one step further out. -/
def within {α : Type} (key : Key) : Checked α → Checked α
  | .ok value => .ok value
  | .error failures => .error (failures.map (Failure.within key))

/-- The failures of a check, if it has any. -/
def failures {α : Type} : Checked α → List Failure
  | .ok _ => []
  | .error failures => failures

/-- Reads all items of a list, each at its index; the failures of all items are kept. -/
def collect {α β : Type} (read : α → Checked β) : Nat → List α → Checked (List β)
  | _, [] => .ok []
  | position, item :: rest =>
      match within (.index position) (read item), collect read (position + 1) rest with
      | .ok value, .ok values => .ok (value :: values)
      | first, others => .error (failures first ++ failures others)

end Checked

namespace Json

/-- Reads a string; nothing else is taken for one. -/
def readString : Json → Checked String
  | .string value => .ok value
  | _ => Checked.fail .notString

/-- Reads one of several named choices. -/
def readChoice {α : Type} (choices : List α) (nameOf : α → String) (value : Json) : Checked α :=
  let refused := Checked.fail (.notChoice (choices.map nameOf))
  match value with
  | .string text =>
      match choices.find? fun choice => nameOf choice == text with
      | some choice => .ok choice
      | none => refused
  | _ => refused

/-- The words for true, in lower case. -/
def trueWords : List String :=
  ["1", "on", "t", "true", "y", "yes"]

/-- The words for false, in lower case. -/
def falseWords : List String :=
  ["0", "off", "f", "false", "n", "no"]

/-- The truth value of a word, ASCII case aside. -/
def wordValue? (text : String) : Option Bool :=
  let word := String.ofList (text.toList.map Char.toLower)
  if trueWords.contains word then some true
  else if falseWords.contains word then some false
  else none

/-- The truth value of an integer: one or zero. -/
def integerValue? (number : Int) : Option Bool :=
  if number = 1 then some true else if number = 0 then some false else none

/-- The bound of the integers of 64 bits. -/
def wordLimit : Int :=
  powerOfTwo 63

/--
Reads a truth value: itself, a word for it, or the number one or zero, which may also be written as
a double.  An integer beyond 64 bits is not even considered.
-/
def readFlag : Json → Checked Bool
  | .bool value => .ok value
  | .string text => orUnreadable (wordValue? text)
  | .integer number =>
      if -wordLimit ≤ number ∧ number < wordLimit then orUnreadable (integerValue? number)
      else Checked.fail .notBoolean
  | .real number =>
      match number.toInteger? with
      | some whole =>
          if -wordLimit < whole ∧ whole < wordLimit then orUnreadable (integerValue? whole)
          else Checked.fail .notBoolean
      | none => Checked.fail .notBoolean
  | _ => Checked.fail .notBoolean
where
  orUnreadable : Option Bool → Checked Bool
    | some value => .ok value
    | none => Checked.fail .unreadableBoolean

/-- Reads a required field of a record. -/
def readField {α : Type} (name : String) (read : Json → Checked α)
    (entries : List (String × Json)) : Checked α :=
  Checked.within (.name name) <|
    match entries.lookup name with
    | some value => read value
    | none => Checked.fail .missing

end Json

end Criteria
