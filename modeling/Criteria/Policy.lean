import Criteria.Calendar.Reader
import Criteria.Number.Numeral
import Criteria.Rule
import Criteria.Uuid

/-!
# Policies

A policy is what holds for the criteria on one family of columns: which operations they may ask for
and which format their values have.  Every policy allows the comparison with a truth value.
-/

namespace Criteria

/-- A format of values: which texts have it, and what is said of the others. -/
structure ValueFormat where
  accepts : String → Bool
  message : Config → String

/-- What filters on columns of some types may do, and which format their values have. -/
structure Policy where
  name : String
  operations : List Operation
  format? : Option ValueFormat

namespace ValueFormat

/-- The format of numbers. -/
def numeric : ValueFormat where
  accepts := isNumeric
  message := fun _ => "only supports numerical values"

/-- The examples for dates and moments: the given date, and its midnight in universal time. -/
def momentExamples (today : Date) : List String :=
  [String.ofList today.text, String.ofList (Moment.midnightOf today (some 0)).text]

/-- The format of dates and moments; its message shows today as an example. -/
def moment : ValueFormat where
  accepts := isMoment
  message := fun config =>
    let quoted := (momentExamples config.today).map fun shown => "\"" ++ shown ++ "\""
    "only supports ISO8601 values (" ++ ", ".intercalate quoted ++ ")"

/-- The format of universally unique identifiers. -/
def uuid : ValueFormat where
  accepts := isUuid
  message := fun _ =>
    "only supports UUID values (e.g. 00000000-0000-0000-0000-000000000000)"

end ValueFormat

namespace Policy

/-- The operations that a policy lets through, in the order of all operations. -/
def allowed (policy : Policy) : List Operation :=
  Operation.all.filter fun operation => policy.operations.contains operation || operation == .truth

/-- The rules of the policy: on the operation, on what is given, on its format. -/
def rules (policy : Policy) : List Rule :=
  Rule.operationAllowed policy.allowed :: Rule.common ++
    (policy.format?.map fun format => Rule.valueFormatted format.accepts format.message).toList

/-- Truth values are only compared with truth values. -/
def boolean : Policy :=
  ⟨"boolean", [], none⟩

/-- Dates and moments are compared by order. -/
def date : Policy :=
  ⟨"date", [.greaterThan, .lessThan], some .moment⟩

/-- Numbers are compared in every way but by pattern. -/
def numeric : Policy :=
  ⟨"numeric", [.greaterThan, .lessThan, .equal, .notEqual, .oneOf], some .numeric⟩

/-- Texts are compared in every way but by order. -/
def string : Policy :=
  ⟨"string", [.equal, .notEqual, .like, .notLike, .oneOf], none⟩

/-- Identifiers are the same or not. -/
def uuid : Policy :=
  ⟨"uuid", [.equal, .notEqual, .oneOf], some .uuid⟩

/-- The policy of a semantic type; columns of the other types cannot be filtered on. -/
def ofType? : ColumnType → Option Policy
  | .boolean => some boolean
  | .date | .datetime => some date
  | .numeric | .integer | .decimal | .float => some numeric
  | .string | .text => some string
  | .uuid => some uuid
  | .time | .json | .binary | .other => none

end Policy

/-- Whether the column can be filtered on. -/
def Column.isSupported (column : Column) : Bool :=
  (Policy.ofType? column.type).isSome

end Criteria
