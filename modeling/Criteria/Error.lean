import Criteria.Report
import Criteria.Schema

/-!
# Errors

Everything that can go wrong between a client's request and a restricted statement, by cause.  The
wording of each cause is in one place.
-/

namespace Criteria

/-- A JSON value of several parts. -/
inductive Composite where
  | array
  | object
deriving DecidableEq, Repr

/-- A closed choice that is made by name. -/
inductive Choice where
  | columnType
  | operation
deriving DecidableEq, Repr

/-- What a filter lacks to become a predicate; a valid filter lacks nothing. -/
inductive Defect where
  | operand
  | number
  | moment
  | uuid
  | value
  | token
  | list
deriving DecidableEq, Repr

/-- All ways in which a call can fail. -/
inductive Error where
  /-- A filter was asked for on a column whose type has no filters. -/
  | unsupportedColumn (column type : String)
  /-- A column was named that is not there; the table is given if it was known. -/
  | unknownColumn (column : String) (table? : Option String)
  /-- Some filters are invalid; the messages are those of the filters. -/
  | invalidFilters (messages : List String)
  | malformed (failures : List Failure)
  /-- A list or an object stands where a column has to be named. -/
  | compositeName (composite : Composite)
  /-- A name is not among the choices. -/
  | unknownChoice (name : String) (choice : Choice)
  | duplicateColumn (column table : String)
  | noColumn
  | notSelectable (column : String)
  /-- A filter that was not validated lacks something. -/
  | incompleteFilter (defect : Defect)
  /-- A text that names no level is given as the level itself. -/
  | notLevelName (text : String)
  /-- Something that is no level is given as one. -/
  | notLevel (shown : String)
  /-- The arguments of a call do not fit its signature. -/
  | mismatch (signature : Signature) (fault : Mismatch)
  /-- A report about invalid filters is made of something else than messages. -/
  | notMessages (fault : MessagesFault)
  /-- Something of another kind is given where people are shown a text. -/
  | notText (kind : String)
  /-- Something of a kind that has no name is given where a logger gets its name from. -/
  | nameless (kind : String)
  /-- The name of a logger's owner has a null character. -/
  | nullInName
  /-- A column is written whose table has an empty name. -/
  | unnamedTable
  /-- An integer has more digits than there is room for. -/
  | noRoom

namespace Defect

/--
What is said where compilation meets a defect: it comes from whatever needed the missing part.
-/
def message : Defect → String
  | .operand => "'NoneType' object has no attribute 'name'"
  | .number => "'NoneType' object has no attribute 'strip'"
  | .moment => "fromisoformat: argument must be str"
  | .uuid => "one of the hex, bytes, bytes_le, fields, or int arguments must be given"
  | .value =>
      "Only '=', '!=', 'is_()', 'is_not()', 'is_distinct_from()', 'is_not_distinct_from()' " ++
        "operators can be used with None/True/False"
  | .token => "'NoneType' object has no attribute 'casefold'"
  | .list => "'NoneType' object is not iterable"

end Defect

namespace Error

/-- The report of an error, if it is one that callers are meant to handle. -/
def report? : Error → Option Report
  | .unsupportedColumn column type =>
      some (Report.unsupportedColumn (.string column) (.string type))
  | .unknownColumn column table? =>
      some (Report.unknownColumn (.string column) ((table?.map Json.string).getD .null))
  | .invalidFilters messages => some (Report.invalidFilters messages)
  | _ => none

/-- The message of an error. -/
def message : Error → String
  | .malformed failures => ", ".intercalate (failures.map (·.cause.message))
  | .compositeName .array => "unhashable type: 'list'"
  | .compositeName .object => "unhashable type: 'dict'"
  | .unknownChoice name .columnType => Text.quoteName name ++ " is not a valid ColumnType"
  | .unknownChoice name .operation => Text.quoteName name ++ " is not a valid Operation"
  | .duplicateColumn column table =>
      "A column with name '" ++ column ++ "' is already present in table '" ++ table ++ "'."
  | .noColumn => "list index out of range"
  | .notSelectable column => Text.quoteName column
  | .incompleteFilter defect => defect.message
  | .notLevelName text => "Unknown level: " ++ Text.quoteName text
  | .notLevel shown => "Level not an integer or a valid string: " ++ shown
  | .mismatch signature fault => signature.describe fault
  | .notMessages fault => fault.message
  | .notText kind => "can only concatenate str (not \"" ++ kind ++ "\") to str"
  | .nameless kind => Text.quoteName kind ++ " object has no attribute 'name'"
  | .nullInName => "type name must not contain null characters"
  | .unnamedTable => "string index out of range"
  | .noRoom => ""
  | error => (error.report?.map (·.message)).getD ""

end Error

end Criteria
