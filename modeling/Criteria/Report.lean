import Criteria.Signature

/-!
# Reports

What an error tells whoever has to deal with it: a message, a code, and its particulars.  A report
is made of any values; those that are no strings are shown as literals in its message.
-/

namespace Criteria

/-- What a caller is told about an error. -/
structure Report where
  message : String
  code : Json
  details : Json

/-- The kinds of errors that callers are meant to handle. -/
inductive ReportKind where
  | custom
  | unsupportedColumn
  | unknownColumn
  | invalidFilters
deriving DecidableEq, Repr

namespace ReportKind

/-- All kinds, the most general first. -/
def all : List ReportKind :=
  [.custom, .unsupportedColumn, .unknownColumn, .invalidFilters]

/-- The name of a kind. -/
def name : ReportKind → String
  | .custom => "FilterSetException"
  | .unsupportedColumn => "UnsupportedColumnTypeError"
  | .unknownColumn => "UnknownColumnError"
  | .invalidFilters => "FilterValidationError"

/-- The kind of a name, if there is one. -/
def ofName? (text : String) : Option ReportKind :=
  all.find? fun kind => kind.name == text

/-- What a report of the kind is made of. -/
def parameters : ReportKind → List Parameter
  | .custom => [⟨"message", true⟩, ⟨"code", false⟩, ⟨"details", false⟩]
  | .unsupportedColumn => [⟨"column_name", true⟩, ⟨"column_type", true⟩]
  | .unknownColumn => [⟨"column_name", true⟩, ⟨"table_name", false⟩]
  | .invalidFilters => [⟨"errors", true⟩]

/-- How a report of a kind is made. -/
def signature (kind : ReportKind) : Signature :=
  ⟨kind.name ++ ".__init__", kind.parameters, false⟩

end ReportKind

/-- Why a value is not made of messages. -/
inductive MessagesFault where
  /-- It has no items. -/
  | noItems
  /-- The item at the position is of another kind. -/
  | item (position : Nat) (kind : String)
deriving DecidableEq, Repr

namespace MessagesFault

/-- What is said where the messages of a report cannot be joined. -/
def message : MessagesFault → String
  | .noItems => "can only join an iterable"
  | .item position kind =>
      "sequence item " ++ String.ofList (decimalText position) ++
        ": expected str instance, " ++ kind ++ " found"

end MessagesFault

namespace Report

/-- The report about a column whose type has no filters. -/
def unsupportedColumn (column type : Json) : Report where
  message := "Filtering is not supported on " ++ column.display ++ " (type: " ++ type.display ++ ")"
  code := .string "UNSUPPORTED_COLUMN_TYPE"
  details := .object [("column", column), ("type", type)]

/-- The report about a column that is not there; the table is named if there is one. -/
def unknownColumn (column table : Json) : Report where
  message :=
    (if table.isVoid then "Unknown column: " else "Unknown column on " ++ table.display ++ ": ") ++
      column.display
  code := .string "UNKNOWN_COLUMN"
  details := .object [("column", column), ("table", table)]

/-- The report about invalid filters, with their messages one after another. -/
def invalidFilters (messages : List String) : Report where
  message := ", ".intercalate messages
  code := .string "FILTER_VALIDATION_ERROR"
  details := .object [("errors", .array (messages.map Json.string))]

/-- A report of the caller's own making; particulars that say nothing are none. -/
def custom (message code details : Json) : Report where
  message := message.display
  code := code
  details := if details.isVoid then .object [] else details

/-- The items of a list as messages, counting positions. -/
def messagesFrom (position : Nat) : List Json → Except MessagesFault (List String)
  | [] => .ok []
  | .string text :: rest => (messagesFrom (position + 1) rest).map (text :: ·)
  | item :: _ => .error (.item position item.kindName)

/-- The messages in a value: the strings of a list, the names in an object, a text's characters. -/
def messagesOf : Json → Except MessagesFault (List String)
  | .array items => messagesFrom 0 items
  | .object entries => .ok (entries.map (·.1))
  | .string text => .ok (text.toList.map fun character => String.ofList [character])
  | _ => .error .noItems

/-- The report of a kind that is made of the given arguments. -/
def make (kind : ReportKind) (arguments : List (String × Json)) : Except MessagesFault Report :=
  let argument (name : String) : Json := (arguments.lookup name).getD .null
  match kind with
  | .custom =>
      let code := (arguments.lookup "code").getD (.string "FILTERSET_ERROR")
      .ok (custom (argument "message") code (argument "details"))
  | .unsupportedColumn => .ok (unsupportedColumn (argument "column_name") (argument "column_type"))
  | .unknownColumn => .ok (unknownColumn (argument "column_name") (argument "table_name"))
  | .invalidFilters => (messagesOf (argument "errors")).map invalidFilters

end Report

end Criteria
