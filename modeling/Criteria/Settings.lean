import Criteria.Assignment
import Criteria.Level
import Criteria.Schema
import Criteria.Text.Uppercase

/-!
# Settings

The settings of an installation.  Each is taken from the first source that has it: what the caller
gives, the environment, a file of assignments, and at last its default.
-/

namespace Criteria

open Criteria.Text

/-- The settings that everything else is configured by. -/
structure Settings where
  environment : String
  debug : Bool
  logLevel : String
  camelize : Bool
  logPredicates : Bool
deriving DecidableEq, Repr

namespace Settings

/-- The spelling of a level that is stored: all in upper case. -/
def canonicalLevel (level : String) : String :=
  String.ofList (uppercaseText level.toList)

/-- Reads a level: a name that is that of a threshold when it is upper-cased. -/
def readLevel (value : Json) : Checked String := do
  let level ← Json.readString value
  match Level.threshold? (canonicalLevel level) with
  | some _ => .ok (canonicalLevel level)
  | none => Checked.fail (.unknownLevel level)

/-- A setting from the first of the sources that has it, or its default. -/
def setting {α : Type} (sources : List (List (String × Json))) (name : String) (absent : α)
    (read : Json → Checked α) : Checked α :=
  match sources.findSome? (·.lookup name) with
  | some value => Checked.within (.name name) (read value)
  | none => .ok absent

/-- The settings of some sources, the first one winning. -/
def ofSources (sources : List (List (String × Json))) : Checked Settings :=
  let environment := setting sources "FILTERSET_ENV" "development" Json.readString
  let debug := setting sources "DEBUG" false Json.readFlag
  let logLevel := setting sources "LOG_LEVEL" "INFO" readLevel
  let camelize := setting sources "FILTER_CAMELIZE_FIELD_NAMES" true Json.readFlag
  let logPredicates := setting sources "FILTER_LOG_PREDICATES" false Json.readFlag
  match environment, debug, logLevel, camelize, logPredicates with
  | .ok environment, .ok debug, .ok logLevel, .ok camelize, .ok logPredicates =>
      .ok { environment, debug, logLevel, camelize, logPredicates }
  | environment, debug, logLevel, camelize, logPredicates =>
      .error (Checked.failures environment ++ Checked.failures debug ++
        Checked.failures logLevel ++ Checked.failures camelize ++ Checked.failures logPredicates)

/-- Assignments as a source: every value is a string. -/
def sourceOf (assignments : List (String × String)) : List (String × Json) :=
  assignments.map fun (name, value) => (name, .string value)

/-- The settings that a caller, an environment and a file of assignments give. -/
def load (given : List (String × Json)) (environment : List (String × String)) (file : String) :
    Checked Settings :=
  ofSources
    [given, sourceOf environment, sourceOf (Assignment.readFile environment file)]

end Settings

end Criteria
