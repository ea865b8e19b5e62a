import Criteria.Predicate.Basic
import Criteria.Sql.Identifier
import Criteria.Sql.Naming

/-!
# The text of a predicate

A predicate is written in two steps.  First it becomes a row of tokens: comparisons, connectives and
parentheses.  A disjunction among the operands of a conjunction is put into parentheses; nothing
else is.  Then the tokens are written one after another, and their parameters get their names.
-/

namespace Criteria

namespace Sql

/-- The smallest parts of a text that the grammar tells apart. -/
inductive Token where
  | comparison (position : Nat) (comparison : Comparison)
  | always
  | and
  | or
  | opening
  | closing
deriving DecidableEq, Repr

mutual

/-- The tokens of a predicate that stands alone or among alternatives. -/
def tokens : Predicate → List Token
  | .unrestricted => [.always]
  | .always => [.always]
  | .leaf position comparison => [.comparison position comparison]
  | .all operands => conjunctionTokens operands
  | .any operands => disjunctionTokens operands

/-- The tokens of some operands, with conjunctions between them. -/
def conjunctionTokens : List Predicate → List Token
  | [] => []
  | [operand] => operandTokens operand
  | operand :: next :: rest => operandTokens operand ++ .and :: conjunctionTokens (next :: rest)

/-- The tokens of one operand of a conjunction. -/
def operandTokens : Predicate → List Token
  | .any operands => .opening :: (disjunctionTokens operands ++ [.closing])
  | .unrestricted => [.always]
  | .always => [.always]
  | .leaf position comparison => [.comparison position comparison]
  | .all operands => conjunctionTokens operands

/-- The tokens of some operands, with disjunctions between them. -/
def disjunctionTokens : List Predicate → List Token
  | [] => []
  | [operand] => tokens operand
  | operand :: next :: rest => tokens operand ++ .or :: disjunctionTokens (next :: rest)

end

/-- The sign of a relation, with blanks around it. -/
def relationText : Relation → String
  | .equal => " = "
  | .notEqual => " != "
  | .greater => " > "
  | .less => " < "
  | .like => " LIKE "
  | .notLike => " NOT LIKE "

def truthText (value : Bool) : String :=
  if value then "true" else "false"

/--
A comparison of a column of the table, and the names given so far.  A list of values that all
converted is a single parameter; if any of them is a literal, every value is one of its own.
-/
def comparisonText (table : String) (position : Nat) (naming : Naming) :
    Comparison → String × Naming
  | .value column relation binding =>
      let (name, naming) :=
        naming.name ⟨position, 0⟩ (baseFor column binding) (.single binding.value)
      (qualified table column ++ relationText relation ++ ":" ++ name, naming)
  | .column column relation other =>
      (qualified table column ++ relationText relation ++ qualified table other, naming)
  | .among column bindings =>
      if bindings.any Binding.isLiteral then
        let (names, naming) := naming.nameEach position column 0 bindings
        (qualified table column ++ " IN (" ++
          ", ".intercalate (names.map fun name => ":" ++ name) ++ ")", naming)
      else
        let (name, naming) :=
          naming.name ⟨position, 0⟩ (baseName column) (.many (bindings.map Binding.value))
        (qualified table column ++ " IN (__[POSTCOMPILE_" ++ name ++ "])", naming)
  | .truth column expected =>
      (qualified table column ++ relationText .equal ++ truthText expected, naming)

/-- A token, and the names given so far. -/
def tokenText (table : String) (naming : Naming) : Token → String × Naming
  | .comparison position comparison => comparisonText table position naming comparison
  | .always => (truthText true, naming)
  | .and => (" AND ", naming)
  | .or => (" OR ", naming)
  | .opening => ("(", naming)
  | .closing => (")", naming)

/-- The texts of tokens one after another, and the names given so far. -/
def tokenTexts (table : String) (naming : Naming) : List Token → List String × Naming
  | [] => ([], naming)
  | token :: rest =>
      let (first, naming) := tokenText table naming token
      let (others, naming) := tokenTexts table naming rest
      (first :: others, naming)

/-- A text and the parameters that appear in it, in the order in which they first do. -/
structure Rendered where
  sql : String
  parameters : List (String × Parameter)
deriving DecidableEq, Repr

/--
The text of a predicate, with the parameters in it.  Whether it can be written is left to `write`.
-/
def render (table : String) (predicate : Predicate) : Rendered :=
  let (texts, naming) := tokenTexts table .empty (tokens predicate)
  ⟨String.join texts, naming.parameters⟩

/-- The text of a predicate, unless it has columns of a table without a name. -/
def write (table : String) (predicate : Predicate) : Except Error Rendered :=
  if table.isEmpty && !predicate.leaves.isEmpty then .error .unnamedTable
  else .ok (render table predicate)

end Sql

end Criteria
