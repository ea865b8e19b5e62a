import Criteria.Calendar.Reader
import Criteria.Column
import Criteria.Error
import Criteria.Number.Numeral
import Criteria.Uuid

/-!
# Values

The values that a statement is run with.  The text that a client gives for a column is converted to
a value of the column's type; if it is not written as one, the text itself stands in for it as a
literal.  There may be no room for an integer that a text writes, and then nothing is bound.
-/

namespace Criteria

/-- A value that can be bound, by its kind. -/
inductive Value where
  | text (value : String)
  | integer (value : Int)
  | double (value : Double)
  | decimal (value : Decimal)
  | uuid (value : Uuid)
  | date (value : Date)
  | moment (value : Moment)
deriving DecidableEq, Repr

/-- What becomes of a text that is to be converted. -/
inductive Conversion where
  | value (value : Value)
  /-- The text is not written as a value of the type. -/
  | unreadable
  /-- The text writes an integer that there is no room for. -/
  | noRoom
deriving DecidableEq, Repr

/-- What is bound for a text: the value it converts to, or the text as a literal. -/
inductive Binding where
  | converted (value : Value)
  | literal (text : String)
deriving DecidableEq, Repr

namespace Conversion

/-- The conversion to a value that was read, or was not. -/
def ofRead : Option Value → Conversion
  | some read => .value read
  | none => .unreadable

/--
An integer as such, if there is room for it, and any other number as the double nearest to it.
-/
def ofNumber [Machine] (number : Decimal) : Conversion :=
  if number.isIntegral then
    match number.toInteger? with
    | some whole => .value (.integer whole)
    | none => .noRoom
  else .value (.double (Double.ofDecimal number))

/-- Converts a text to a value of a type; types without a form of their own take any text. -/
def ofText [Machine] (type : ColumnType) (text : String) : Conversion :=
  match type with
  | .uuid => ofRead ((Uuid.read? text).map .uuid)
  | .date => ofRead ((Moment.read? text).map fun moment => .date moment.date)
  | .datetime => ofRead ((Moment.read? text).map .moment)
  | .integer =>
      match Decimal.read? text with
      | some number => ofNumber number
      | none => .unreadable
  | .numeric | .decimal => ofRead ((Decimal.read? text).map .decimal)
  | .float => ofRead ((Decimal.read? text).map fun number => .double (Double.ofDecimal number))
  | .boolean | .string | .text | .time | .json | .binary | .other => .value (.text text)

end Conversion

namespace Binding

/--
What is bound for a text on a column of the given type.  A text that is no value of the type is
bound as it stands, but nothing stands in for a value that there is no room for.
-/
def ofText [Machine] (type : ColumnType) (text : String) : Except Error Binding :=
  match Conversion.ofText type text with
  | .value value => .ok (.converted value)
  | .unreadable => .ok (.literal text)
  | .noRoom => .error .noRoom

/-- Whether the text did not convert. -/
def isLiteral : Binding → Bool
  | .converted _ => false
  | .literal _ => true

/-- The value that the statement is run with. -/
def value : Binding → Value
  | .converted value => value
  | .literal text => .text text

end Binding

end Criteria
