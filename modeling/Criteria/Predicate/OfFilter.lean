import Criteria.Filter
import Criteria.Predicate.Basic

/-!
# The predicate of a filter

A filter becomes a comparison of its column, or two of them.  This needs what validation asks for:
a filter that lacks it has a defect instead of a predicate.  It also needs room for what is bound.
-/

namespace Criteria

namespace Filter

/-- The value of the filter, or what it lacks. -/
def value (filter : Filter) (defect : Defect) : Except Error String :=
  match filter.criterion.value? with
  | some value => .ok value
  | none => .error (.incompleteFilter defect)

/-- The list of values of the filter, or the defect that it has none. -/
def values (filter : Filter) : Except Error (List String) :=
  match filter.criterion.values? with
  | some values => .ok values
  | none => .error (.incompleteFilter .list)

/-- What a filter without value lacks that compares by order with values of the type. -/
def unreadable : ColumnType → Defect
  | .uuid => .uuid
  | .date | .datetime => .moment
  | .integer | .numeric | .decimal | .float => .number
  | .boolean | .string | .text | .time | .json | .binary | .other => .value

/-- Looks a column up in the table of the filter. -/
def columnIn (table : Table) (name : String) : Except Error String :=
  if table.hasColumn name then .ok name else .error (.unknownColumn name (some table.name))

/-- The comparison with the value of the filter, or with its other column if it has no value. -/
def equation [Machine] (filter : Filter) (table : Table) (column : String) (relation : Relation) :
    Except Error Comparison :=
  match filter.criterion.value?, filter.criterion.otherColumn? with
  | some value, _ =>
      (Binding.ofText filter.criterion.column.type value).map (.value column relation)
  | none, some other =>
      (columnIn table other.name).map fun other => .column column relation other
  | none, none => .error (.incompleteFilter .operand)

/-- The comparison by order with the value of the filter. -/
def inequality [Machine] (filter : Filter) (column : String) (relation : Relation) :
    Except Error Comparison := do
  let type := filter.criterion.column.type
  let value ← filter.value (unreadable type)
  (Binding.ofText type value).map (.value column relation)

/-- The comparison with the pattern that is the value of the filter, as it stands. -/
def pattern (filter : Filter) (column : String) (relation : Relation) : Except Error Comparison :=
  (filter.value .value).map fun value => .value column relation (.converted (.text value))

/-- The comparison with all values of the filter. -/
def membership [Machine] (filter : Filter) (column : String) : Except Error Comparison := do
  let values ← filter.values
  (values.mapM (Binding.ofText filter.criterion.column.type)).map (.among column)

/--
The predicate of the filter at a position.  A token for true asks for true; any other token asks for
true or false, that is, for a truth value that is not missing.
-/
def predicate [Machine] (filter : Filter) (table : Table) (position : Nat) :
    Except Error Predicate := do
  let column ← columnIn table filter.criterion.column.name
  match filter.criterion.operation with
  | .equal => (filter.equation table column .equal).map (.leaf position)
  | .notEqual => (filter.equation table column .notEqual).map (.leaf position)
  | .greaterThan => (filter.inequality column .greater).map (.leaf position)
  | .lessThan => (filter.inequality column .less).map (.leaf position)
  | .like => (filter.pattern column .like).map (.leaf position)
  | .notLike => (filter.pattern column .notLike).map (.leaf position)
  | .oneOf => (filter.membership column).map (.leaf position)
  | .truth =>
      (filter.value .token).map fun value =>
        if isTrueToken value then .leaf position (.truth column true)
        else
          (Predicate.leaf position (.truth column true)).or
            (.leaf position (.truth column false))

end Filter

end Criteria
