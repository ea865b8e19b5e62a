import Criteria.Sql.Rendering

/-!
# Statements

A selection of columns from one table, restricted by predicates that all have to hold.  The
predicates of a statement are those of one selection: a parameter of a filter that occurs in several
of them is one parameter.
-/

namespace Criteria

/-- A statement that selects columns of a table, and the criteria that restrict it. -/
structure Statement where
  table : String
  columns : List String
  criteria : List Predicate
deriving Repr

namespace Statement

/-- The statement that selects columns from all rows. -/
def select (table : String) (columns : List String) : Statement :=
  ⟨table, columns, []⟩

/-- The statement that selects some columns of a table. -/
def selectColumns (table : Table) (columns : List String) : Except Error Statement :=
  match columns.find? fun column => !table.hasColumn column with
  | some column => .error (.notSelectable column)
  | none => .ok (select table.name columns)

/-- The statement that selects the first column of a table. -/
def selectFirst (table : Table) : Except Error Statement :=
  match table.columns with
  | [] => .error .noColumn
  | column :: _ => .ok (select table.name [column.name])

/-- The statement, restricted by one more predicate. -/
def restrict (statement : Statement) (predicate : Predicate) : Statement :=
  ⟨statement.table, statement.columns, statement.criteria ++ [predicate]⟩

/-- The condition of the statement: all of its predicates. -/
def condition (statement : Statement) : Predicate :=
  statement.criteria.foldl Predicate.and .unrestricted

/-- A further restriction is a further conjunct of the condition. -/
@[simp]
theorem condition_restrict
    (statement : Statement) (predicate : Predicate) :
    (statement.restrict predicate).condition = statement.condition.and predicate := by
  simp [condition, restrict]

/--
The columns as they are selected, given those before them and the bases of the labels before them.
A column that is selected again has a label.
-/
def columnTexts (table : String) (before bases : List String) : List String → List String
  | [] => []
  | column :: rest =>
      if before.contains column then
        let base := Sql.labelBase column
        let label := Sql.numbered base (bases.count base + 1)
        (Sql.qualified table column ++ " AS " ++ Sql.identifier label) ::
          columnTexts table before (base :: bases) rest
      else Sql.qualified table column :: columnTexts table (column :: before) bases rest

/-- Whether the statement has anything to do with its table. -/
def mentionsTable (statement : Statement) : Bool :=
  !statement.columns.isEmpty || !statement.condition.leaves.isEmpty

/-- The text of a statement, with its parameters. -/
def render (statement : Statement) : Sql.Rendered :=
  let columns := columnTexts statement.table [] [] statement.columns
  let head := "SELECT" ++ (if columns.isEmpty then "" else " " ++ ", ".intercalate columns)
  let origin :=
    if statement.mentionsTable then " \nFROM " ++ Sql.identifier statement.table else ""
  if statement.criteria.isEmpty then ⟨head ++ origin, []⟩
  else
    let condition := Sql.render statement.table statement.condition
    ⟨head ++ origin ++ " \nWHERE " ++ condition.sql, condition.parameters⟩

/-- The text of the statement, unless it has to do with a table without a name. -/
def write (statement : Statement) : Except Error Sql.Rendered :=
  if statement.table.isEmpty && statement.mentionsTable then .error .unnamedTable
  else .ok statement.render

end Statement

end Criteria
