import Criteria.Value

/-!
# Names of parameters

Values never stand in the text of a statement.  Each is a parameter, named after its column and
numbered in the order in which the parameters of that base name first appear.  A parameter that
appears again keeps its name.
-/

namespace Criteria

namespace Sql

/-- A parameter: one value, or the list of values of a membership test. -/
inductive Parameter where
  | single (value : Value)
  | many (values : List Value)
deriving DecidableEq, Repr

/-- A name made from a base and a number. -/
def numbered (base : String) (number : Nat) : String :=
  base ++ "_" ++ String.ofList (decimalText number)

/-- Where a parameter comes from: the position of its filter, and its number within the filter. -/
structure Slot where
  position : Nat
  number : Nat
deriving DecidableEq, Repr

/-- The names given so far, how often each base name was used, and the parameters in order. -/
structure Naming where
  names : List (Slot × String)
  uses : List (String × Nat)
  parameters : List (String × Parameter)
deriving Repr

/-- Whether a character is not fit for the name of a parameter. -/
def isUnfit (character : Char) : Bool :=
  ['%', '(', ')', ' ', '$', '.', '[', ']', ':'].contains character

/-- A text with an underscore for each run of unfit characters. -/
def withoutUnfit (afterUnfit : Bool) : List Char → List Char
  | [] => []
  | character :: rest =>
      if isUnfit character then
        if afterUnfit then withoutUnfit true rest else '_' :: withoutUnfit true rest
      else character :: withoutUnfit false rest

/-- The base name for the parameters of a column: what is fit of it, without outer underscores. -/
def baseName (column : String) : String :=
  let fit := withoutUnfit false column.toList
  let isUnderscore : Char → Bool := fun character => character == '_'
  String.ofList ((fit.dropWhile isUnderscore).reverse.dropWhile isUnderscore).reverse

/-- The base name for the labels of a column that is selected again. -/
def labelBase (column : String) : String :=
  String.ofList (withoutUnfit false (column.toList ++ ['_']))

/-- The base name for the parameter of a binding: literals have one of their own. -/
def baseFor (column : String) : Binding → String
  | .converted _ => baseName column
  | .literal _ => "param"

namespace Naming

/-- Nothing is named yet. -/
def empty : Naming :=
  ⟨[], [], []⟩

/-- The name of a parameter: the one it has, or the next one of its base name. -/
def name (naming : Naming) (slot : Slot) (base : String) (parameter : Parameter) :
    String × Naming :=
  match naming.names.lookup slot with
  | some name => (name, naming)
  | none =>
      let number := (naming.uses.lookup base).getD 0 + 1
      let name := numbered base number
      let uses := (base, number) :: naming.uses
      (name, ⟨(slot, name) :: naming.names, uses, naming.parameters ++ [(name, parameter)]⟩)

/-- The names of the parameters of several bindings, one each. -/
def nameEach (naming : Naming) (position : Nat) (column : String) :
    Nat → List Binding → List String × Naming
  | _, [] => ([], naming)
  | number, binding :: rest =>
      let (first, naming) :=
        naming.name ⟨position, number⟩ (baseFor column binding) (.single binding.value)
      let (others, naming) := nameEach naming position column (number + 1) rest
      (first :: others, naming)

end Naming

end Sql

end Criteria
