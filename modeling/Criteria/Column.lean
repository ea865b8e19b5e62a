import Criteria.Schema
import Criteria.Text.Uppercase

/-!
# Columns

A column has a name and a semantic type: what its values are, whatever they are stored as.  Clients
may also call it by its field name, which is its name in camel case.
-/

namespace Criteria

open Criteria.Text

/-- What the values of a column are. -/
inductive ColumnType where
  | boolean
  | date
  | datetime
  | numeric
  | integer
  | decimal
  | float
  | string
  | text
  | uuid
  | time
  | json
  | binary
  | other
deriving DecidableEq, Repr

namespace ColumnType

/-- All types, in the order in which messages list them. -/
def all : List ColumnType :=
  [.boolean, .date, .datetime, .numeric, .integer, .decimal, .float, .string, .text, .uuid, .time,
    .json, .binary, .other]

/-- The name of a type in records and messages. -/
def name : ColumnType → String
  | .boolean => "boolean"
  | .date => "date"
  | .datetime => "datetime"
  | .numeric => "numeric"
  | .integer => "integer"
  | .decimal => "decimal"
  | .float => "float"
  | .string => "string"
  | .text => "text"
  | .uuid => "uuid"
  | .time => "time"
  | .json => "json"
  | .binary => "binary"
  | .other => "other"

/-- The type of a name, if there is one. -/
def ofName? (text : String) : Option ColumnType :=
  all.find? fun type => type.name == text

/-- The storage types that have a semantic type, family by family. -/
def storageFamilies : List (ColumnType × List String) :=
  [(.boolean, ["Boolean", "BOOLEAN"]),
    (.datetime, ["DateTime", "TIMESTAMP", "DATETIME"]),
    (.date, ["Date", "DATE"]),
    (.time, ["Time", "TIME"]),
    (.integer, ["Integer", "BigInteger", "SmallInteger", "INTEGER", "INT", "BIGINT", "SMALLINT"]),
    (.float, ["Float", "Double", "REAL", "FLOAT", "DOUBLE", "DOUBLE_PRECISION"]),
    (.decimal, ["Numeric", "DECIMAL", "NUMERIC"]),
    (.uuid, ["Uuid", "UUID"]),
    (.text, ["Text", "UnicodeText", "CLOB", "TEXT"]),
    (.string, ["String", "VARCHAR", "CHAR", "NCHAR", "NVARCHAR", "Unicode", "Enum"]),
    (.json, ["JSON"]),
    (.binary, ["LargeBinary", "BLOB"])]

/-- The semantic type of a storage type; one that belongs to no family holds other values. -/
def ofStorage (storage : String) : ColumnType :=
  match storageFamilies.find? fun family => family.2.contains storage with
  | some family => family.1
  | none => .other

end ColumnType

/-- A column, with the name that it has in its table. -/
structure Column where
  name : String
  type : ColumnType
deriving DecidableEq, Repr

/--
A name in camel case.  Underscores are dropped, and a character that follows one is upper-cased,
which may make several of it.
-/
def camelCase (afterUnderscore : Bool) : List Char → List Char
  | [] => []
  | character :: rest =>
      if character = '_' then camelCase true rest
      else if afterUnderscore then uppercase character ++ camelCase false rest
      else character :: camelCase false rest

namespace Column

/-- The name by which clients may address the column. -/
def fieldName (column : Column) : String :=
  String.ofList (camelCase false column.name.toList)

/-- Reads a column from a record; both of its fields are read before either failure is reported. -/
def ofJson : Json → Checked Column
  | .object entries =>
      let name := Json.readField "name" Json.readString entries
      let type := Json.readField "type" (Json.readChoice ColumnType.all ColumnType.name) entries
      match name, type with
      | .ok name, .ok type => .ok ⟨name, type⟩
      | name, type => .error (Checked.failures name ++ Checked.failures type)
  | _ => Checked.fail (.notRecord "Column")

/-- The record that a column is read from. -/
def toJson (column : Column) : Json :=
  .object [("name", .string column.name), ("type", .string column.type.name)]

end Column

end Criteria
