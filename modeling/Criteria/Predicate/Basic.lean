import Criteria.Truth
import Criteria.Value

/-!
# Predicates

A predicate is a tree of comparisons under conjunctions and disjunctions of any length.  The tree is
simplified while it is built: nested connectives of one kind become one, and the predicate that
restricts nothing leaves no trace in a conjunction.  What a predicate means is defined apart from
how it is built, for any truth values of its comparisons; the simplifications keep the meaning
(`meaning_and`, `meaning_or`).
-/

namespace Criteria

/-- How two sides of a comparison relate. -/
inductive Relation where
  | equal
  | notEqual
  | greater
  | less
  | like
  | notLike
deriving DecidableEq, Repr

/-- A comparison of a column with something else. -/
inductive Comparison where
  | value (column : String) (relation : Relation) (binding : Binding)
  | column (column : String) (relation : Relation) (other : String)
  /-- With several bindings, of which it has to equal one. -/
  | among (column : String) (bindings : List Binding)
  | truth (column : String) (expected : Bool)
deriving DecidableEq, Repr

/-- A condition on the rows of a table. -/
inductive Predicate where
  /-- No restriction so far. -/
  | unrestricted
  /-- A condition that always holds and is written out like any other. -/
  | always
  /-- A comparison, with the position of the filter that it comes from. -/
  | leaf (position : Nat) (comparison : Comparison)
  | all (operands : List Predicate)
  | any (operands : List Predicate)
deriving Repr

namespace Predicate

/-- The operands of a conjunction; any other predicate is its own only operand. -/
def conjuncts : Predicate → List Predicate
  | .all operands => operands
  | predicate => [predicate]

/-- The operands of a disjunction; any other predicate is its own only operand. -/
def disjuncts : Predicate → List Predicate
  | .any operands => operands
  | predicate => [predicate]

/-- Both predicates.  What restricts nothing is left out. -/
def and : Predicate → Predicate → Predicate
  | .unrestricted, right => right
  | left, .unrestricted => left
  | left, right => .all (left.conjuncts ++ right.conjuncts)

/-- Either predicate.  What restricts nothing makes the whole hold always. -/
def or : Predicate → Predicate → Predicate
  | .unrestricted, _ => .always
  | _, .unrestricted => .always
  | left, right => .any (left.disjuncts ++ right.disjuncts)

/-- Joins a predicate to what stands before it, as an alternative or as a further restriction. -/
def join (before : Predicate) (isOr : Bool) (predicate : Predicate) : Predicate :=
  if isOr then before.or predicate else before.and predicate

mutual

/-- The truth value of a predicate, given those of its comparisons. -/
def meaning (assignment : Comparison → Truth) : Predicate → Truth
  | .unrestricted => .true
  | .always => .true
  | .leaf _ comparison => assignment comparison
  | .all operands => meaningAll assignment operands
  | .any operands => meaningAny assignment operands

/-- The conjunction of the truth values of some predicates. -/
def meaningAll (assignment : Comparison → Truth) : List Predicate → Truth
  | [] => .true
  | operand :: rest => (meaning assignment operand).and (meaningAll assignment rest)

/-- The disjunction of the truth values of some predicates. -/
def meaningAny (assignment : Comparison → Truth) : List Predicate → Truth
  | [] => .false
  | operand :: rest => (meaning assignment operand).or (meaningAny assignment rest)

end

mutual

/-- The comparisons of a predicate from left to right, each with its position. -/
def leaves : Predicate → List (Nat × Comparison)
  | .unrestricted => []
  | .always => []
  | .leaf position comparison => [(position, comparison)]
  | .all operands => leavesOf operands
  | .any operands => leavesOf operands

/-- The comparisons of some predicates, one predicate after another. -/
def leavesOf : List Predicate → List (Nat × Comparison)
  | [] => []
  | operand :: rest => leaves operand ++ leavesOf rest

end

/-! ## What the connectives mean -/

theorem meaningAll_append
    (assignment : Comparison → Truth) (left right : List Predicate) :
    meaningAll assignment (left ++ right) =
      (meaningAll assignment left).and (meaningAll assignment right) := by
  induction left with
  | nil => simp [meaningAll]
  | cons operand rest hypothesis =>
      simp only [List.cons_append, meaningAll, hypothesis, Truth.and_assoc]

theorem meaningAny_append
    (assignment : Comparison → Truth) (left right : List Predicate) :
    meaningAny assignment (left ++ right) =
      (meaningAny assignment left).or (meaningAny assignment right) := by
  induction left with
  | nil => simp [meaningAny]
  | cons operand rest hypothesis =>
      simp only [List.cons_append, meaningAny, hypothesis, Truth.or_assoc]

@[simp]
theorem meaningAll_conjuncts
    (assignment : Comparison → Truth) (predicate : Predicate) :
    meaningAll assignment predicate.conjuncts = predicate.meaning assignment := by
  cases predicate <;> simp [conjuncts, meaningAll, meaning]

@[simp]
theorem meaningAny_disjuncts
    (assignment : Comparison → Truth) (predicate : Predicate) :
    meaningAny assignment predicate.disjuncts = predicate.meaning assignment := by
  cases predicate <;> simp [disjuncts, meaningAny, meaning]

/-- However a conjunction is simplified, it means the conjunction of its two sides. -/
@[simp]
theorem meaning_and
    (assignment : Comparison → Truth) (left right : Predicate) :
    (left.and right).meaning assignment =
      (left.meaning assignment).and (right.meaning assignment) := by
  fun_cases Predicate.and left right with
  | case1 => simp [meaning]
  | case2 => simp [meaning]
  | case3 => simp [meaning, meaningAll_append]

/-- However a disjunction is simplified, it means the disjunction of its two sides. -/
@[simp]
theorem meaning_or
    (assignment : Comparison → Truth) (left right : Predicate) :
    (left.or right).meaning assignment =
      (left.meaning assignment).or (right.meaning assignment) := by
  fun_cases Predicate.or left right with
  | case1 => simp [meaning]
  | case2 => simp [meaning]
  | case3 => simp [meaning, meaningAny_append]

end Predicate

end Criteria
