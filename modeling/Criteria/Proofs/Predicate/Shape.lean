import Criteria.Predicate.Basic

/-!
# Shapes of predicates

The shape of a predicate is what is left of it without the values that clients gave: its columns,
relations and connectives, and whether each value is of the column's type or stands in as a literal.
How many values a membership test has belongs to the shape only if each of them will be a parameter
of its own.  The tree is built in the same way whatever the values are (`shape_join`).
-/

namespace Criteria

/-- A value that stands for any other. -/
def Value.anonymous : Value :=
  .text ""

namespace Binding

/-- What is left of a binding without its value. -/
def shape : Binding → Binding
  | .converted _ => .converted .anonymous
  | .literal _ => .literal ""

@[simp]
theorem isLiteral_shape (binding : Binding) : binding.shape.isLiteral = binding.isLiteral := by
  cases binding <;> rfl

@[simp]
theorem value_shape (binding : Binding) : binding.shape.value = .anonymous := by
  cases binding <;> rfl

end Binding

/--
What is left of a comparison without its values.  A list of values that all convert leaves not even
its length.
-/
def Comparison.shape : Comparison → Comparison
  | .value name relation binding => .value name relation binding.shape
  | .column name relation other => .column name relation other
  | .among name bindings =>
      .among name (if bindings.any Binding.isLiteral then bindings.map Binding.shape else [])
  | .truth name expected => .truth name expected

namespace Predicate

mutual

/-- What is left of a predicate without its values. -/
def shape : Predicate → Predicate
  | .unrestricted => .unrestricted
  | .always => .always
  | .leaf position comparison => .leaf position comparison.shape
  | .all operands => .all (shapes operands)
  | .any operands => .any (shapes operands)

/-- The shapes of some predicates. -/
def shapes : List Predicate → List Predicate
  | [] => []
  | operand :: rest => shape operand :: shapes rest

end

theorem shapes_append (left right : List Predicate) :
    shapes (left ++ right) = shapes left ++ shapes right := by
  induction left with
  | nil => rfl
  | cons operand rest induction => simp only [List.cons_append, shapes, induction]

theorem conjuncts_shape (predicate : Predicate) :
    predicate.shape.conjuncts = shapes predicate.conjuncts := by
  cases predicate <;> rfl

theorem disjuncts_shape (predicate : Predicate) :
    predicate.shape.disjuncts = shapes predicate.disjuncts := by
  cases predicate <;> rfl

/-- Whether anything is restricted shows in the shape. -/
theorem shape_eq_unrestricted_iff {predicate : Predicate} :
    predicate.shape = .unrestricted ↔ predicate = .unrestricted := by
  cases predicate <;> simp [shape]

/-- A conjunction is simplified alike, whatever the values are. -/
theorem shape_and (left right : Predicate) :
    (left.and right).shape = left.shape.and right.shape := by
  fun_cases Predicate.and left right with
  | case1 => rfl
  | case2 => cases left <;> rfl
  | case3 =>
      rename_i leftRestricts rightRestricts
      rw [Predicate.and, conjuncts_shape, conjuncts_shape, ← shapes_append, shape]
      · exact fun none => leftRestricts (shape_eq_unrestricted_iff.mp none)
      · exact fun none => rightRestricts (shape_eq_unrestricted_iff.mp none)

/-- A disjunction is simplified alike, whatever the values are. -/
theorem shape_or (left right : Predicate) :
    (left.or right).shape = left.shape.or right.shape := by
  fun_cases Predicate.or left right with
  | case1 => rfl
  | case2 => cases left <;> rfl
  | case3 =>
      rename_i leftRestricts rightRestricts
      rw [Predicate.or, disjuncts_shape, disjuncts_shape, ← shapes_append, shape]
      · exact fun none => leftRestricts (shape_eq_unrestricted_iff.mp none)
      · exact fun none => rightRestricts (shape_eq_unrestricted_iff.mp none)

/-- Predicates are joined alike, whatever the values are. -/
theorem shape_join (before : Predicate) (isOr : Bool) (predicate : Predicate) :
    (before.join isOr predicate).shape = before.shape.join isOr predicate.shape := by
  cases isOr with
  | false => exact shape_and before predicate
  | true => exact shape_or before predicate

end Predicate

end Criteria
