import Criteria.Column
import Criteria.Error

/-!
# Tables

A table as filters see it: its name and its columns with their semantic types.
-/

namespace Criteria

/-- A table with its columns, in their order. -/
structure Table where
  name : String
  columns : List Column
deriving DecidableEq, Repr

namespace Table

/-- The first name that occurs among the names before it. -/
def repeatedName? (before : List String) : List String → Option String
  | [] => none
  | name :: rest =>
      if before.contains name then some name else repeatedName? (name :: before) rest

/-- A table whose columns are declared with their storage types, no name twice. -/
def declare (name : String) (columns : List (String × String)) : Except Error Table :=
  match repeatedName? [] (columns.map (·.1)) with
  | some column => .error (.duplicateColumn column name)
  | none =>
      .ok ⟨name, columns.map fun (column, storage) => ⟨column, ColumnType.ofStorage storage⟩⟩

/-- Whether a table has a column of the given name. -/
def hasColumn (table : Table) (name : String) : Bool :=
  table.columns.any fun column => column.name == name

/-- The column that a client means: the one of the name, else the first of that field name. -/
def find? (table : Table) (name : String) : Option Column :=
  (table.columns.find? fun column => column.name == name).or
    (table.columns.find? fun column => column.fieldName == name)

end Table

end Criteria
