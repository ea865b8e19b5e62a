import Criteria.Proofs.Predicate.Shape
import Criteria.Sql.Rendering

/-!
# The text of a shape

Values never stand in the text of a predicate.  So the text depends on the shape alone, and so do
the names of the parameters; what a parameter holds is all that the shape leaves open
(`render_shape`).
-/

namespace Criteria

namespace Sql

/-- A token without the values of its comparison. -/
def Token.shape : Token → Token
  | .comparison position compared => .comparison position compared.shape
  | token => token

/-- A parameter without what it holds: one value or a list. -/
def Parameter.shape : Parameter → Parameter
  | .single _ => .single .anonymous
  | .many _ => .many []

/-- Parameters by their names, one value or a list each, whatever they hold. -/
def Parameter.shapes (parameters : List (String × Parameter)) : List (String × Parameter) :=
  parameters.map fun (name, parameter) => (name, parameter.shape)

/-- The names that are given, without what their parameters hold. -/
def Naming.shape (naming : Naming) : Naming :=
  { naming with parameters := Parameter.shapes naming.parameters }

/-- A text with the names of its parameters, without what they hold. -/
def Rendered.shape (rendered : Rendered) : Rendered :=
  { rendered with parameters := Parameter.shapes rendered.parameters }

/-! ## Tokens -/

mutual

/-- Taking the values away before or after a predicate is cut into tokens is the same. -/
theorem tokens_shape (predicate : Predicate) :
    tokens predicate.shape = (tokens predicate).map Token.shape := by
  cases predicate with
  | unrestricted | always | leaf position comparison => rfl
  | all operands => exact conjunctionTokens_shapes operands
  | any operands => exact disjunctionTokens_shapes operands

theorem conjunctionTokens_shapes (operands : List Predicate) :
    conjunctionTokens (Predicate.shapes operands) =
      (conjunctionTokens operands).map Token.shape := by
  match operands with
  | [] => rfl
  | [operand] => exact operandTokens_shape operand
  | operand :: next :: rest =>
      have first := operandTokens_shape operand
      have others := conjunctionTokens_shapes (next :: rest)
      simp only [Predicate.shapes] at others
      simp [Predicate.shapes, conjunctionTokens, first, others, Token.shape]

theorem operandTokens_shape (operand : Predicate) :
    operandTokens operand.shape = (operandTokens operand).map Token.shape := by
  cases operand with
  | unrestricted | always | leaf position comparison => rfl
  | all operands => exact conjunctionTokens_shapes operands
  | any operands =>
      have inner := disjunctionTokens_shapes operands
      simp [Predicate.shape, operandTokens, inner, Token.shape]

theorem disjunctionTokens_shapes (operands : List Predicate) :
    disjunctionTokens (Predicate.shapes operands) =
      (disjunctionTokens operands).map Token.shape := by
  match operands with
  | [] => rfl
  | [operand] => exact tokens_shape operand
  | operand :: next :: rest =>
      have first := tokens_shape operand
      have others := disjunctionTokens_shapes (next :: rest)
      simp only [Predicate.shapes] at others
      simp [Predicate.shapes, disjunctionTokens, first, others, Token.shape]

end

/-! ## Names -/

theorem baseFor_shape (column : String) (binding : Binding) :
    baseFor column binding.shape = baseFor column binding := by
  cases binding <;> rfl

/-- A parameter gets the same name, and leaves the same names to others, whatever it holds. -/
theorem name_shape (naming : Naming) (slot : Slot) (base : String) (parameter : Parameter) :
    naming.shape.name slot base parameter.shape =
      ((naming.name slot base parameter).1, (naming.name slot base parameter).2.shape) := by
  unfold Naming.name
  cases found : naming.names.lookup slot with
  | some name => simp [Naming.shape, found]
  | none => simp [Naming.shape, Parameter.shapes, found]

theorem nameEach_shape
    (naming : Naming) (position : Nat) (column : String) (number : Nat)
    (bindings : List Binding) :
    naming.shape.nameEach position column number (bindings.map Binding.shape) =
      ((naming.nameEach position column number bindings).1,
        (naming.nameEach position column number bindings).2.shape) := by
  induction bindings generalizing naming number with
  | nil => rfl
  | cons binding rest induction =>
      have named := name_shape naming ⟨position, number⟩ (baseFor column binding)
        (.single binding.value)
      simp only [Parameter.shape] at named
      simp [Naming.nameEach, baseFor_shape, named, induction]

/-- A comparison is written alike, whatever its values are. -/
theorem comparisonText_shape
    (table : String) (position : Nat) (naming : Naming) (comparison : Comparison) :
    comparisonText table position naming.shape comparison.shape =
      ((comparisonText table position naming comparison).1,
        (comparisonText table position naming comparison).2.shape) := by
  cases comparison with
  | value column relation binding =>
      have named := name_shape naming ⟨position, 0⟩ (baseFor column binding)
        (.single binding.value)
      simp only [Parameter.shape] at named
      simp [Comparison.shape, comparisonText, baseFor_shape, named]
  | column column relation other => rfl
  | truth column expected => rfl
  | among column bindings =>
      cases someLiteral : bindings.any Binding.isLiteral with
      | true =>
          have shapeLiteral : (bindings.map Binding.shape).any Binding.isLiteral = true := by
            simpa [List.any_map, Function.comp_def] using someLiteral
          simp [Comparison.shape, comparisonText, someLiteral, shapeLiteral, nameEach_shape]
      | false =>
          have named := name_shape naming ⟨position, 0⟩ (baseName column)
            (.many (bindings.map Binding.value))
          simp only [Parameter.shape] at named
          simp [Comparison.shape, comparisonText, someLiteral, named]

/-! ## The whole text -/

theorem tokenTexts_shape (table : String) (naming : Naming) (row : List Token) :
    tokenTexts table naming.shape (row.map Token.shape) =
      ((tokenTexts table naming row).1, (tokenTexts table naming row).2.shape) := by
  induction row generalizing naming with
  | nil => rfl
  | cons token rest induction =>
      have written : tokenText table naming.shape token.shape =
          ((tokenText table naming token).1, (tokenText table naming token).2.shape) := by
        cases token with
        | comparison position comparison =>
            exact comparisonText_shape table position naming comparison
        | always | and | or | opening | closing => rfl
      simp [tokenTexts, written, induction]

/-- The text of a shape is the text, with parameters of the same names. -/
theorem render_shape (table : String) (predicate : Predicate) :
    render table predicate.shape = (render table predicate).shape := by
  have written := tokenTexts_shape table .empty (tokens predicate)
  have silent : Naming.empty.shape = Naming.empty := rfl
  rw [silent] at written
  unfold render
  rw [tokens_shape, written]
  rfl

end Sql

end Criteria
