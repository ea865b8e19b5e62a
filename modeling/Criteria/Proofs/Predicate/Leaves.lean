import Criteria.Proofs.Selection.Compilation

/-!
# Comparisons of a tree

Joining two predicates flattens connectives of one kind into one, and keeps the comparisons of both
sides from left to right.  Comparisons are lost in one place only: an alternative to the predicate
that restricts nothing leaves a condition that always holds (`leaves_joinAll`).
-/

namespace Criteria

namespace Predicate

/-- The comparisons of a predicate from left to right, wherever they come from. -/
def comparisons (predicate : Predicate) : List Comparison :=
  predicate.leaves.map Prod.snd

theorem leavesOf_append (left right : List Predicate) :
    leavesOf (left ++ right) = leavesOf left ++ leavesOf right := by
  induction left with
  | nil => rfl
  | cons operand rest induction =>
      simp only [List.cons_append, leavesOf, induction, List.append_assoc]

@[simp]
theorem leavesOf_conjuncts (predicate : Predicate) :
    leavesOf predicate.conjuncts = predicate.leaves := by
  cases predicate <;> simp [conjuncts, leavesOf, leaves]

@[simp]
theorem leavesOf_disjuncts (predicate : Predicate) :
    leavesOf predicate.disjuncts = predicate.leaves := by
  cases predicate <;> simp [disjuncts, leavesOf, leaves]

/-- A conjunction keeps the comparisons of both sides. -/
theorem leaves_and (left right : Predicate) :
    (left.and right).leaves = left.leaves ++ right.leaves := by
  fun_cases Predicate.and left right with
  | case1 => simp [leaves]
  | case2 => simp [leaves]
  | case3 => simp [leaves, leavesOf_append]

variable {left right : Predicate}

/-- A disjunction keeps the comparisons of both sides, if both restrict something. -/
theorem leaves_or (leftRestricts : left ≠ .unrestricted) (rightRestricts : right ≠ .unrestricted) :
    (left.or right).leaves = left.leaves ++ right.leaves := by
  simp [Predicate.or, leaves, leavesOf_append]

theorem leaves_join
    (leftRestricts : left ≠ .unrestricted) (isOr : Bool) (rightRestricts : right ≠ .unrestricted) :
    (left.join isOr right).leaves = left.leaves ++ right.leaves := by
  cases isOr with
  | false => exact leaves_and left right
  | true => exact leaves_or leftRestricts rightRestricts

/-- Joining a restriction leaves one. -/
theorem join_ne_unrestricted
    (isOr : Bool) (rightRestricts : right ≠ .unrestricted) :
    left.join isOr right ≠ .unrestricted := by
  cases isOr with
  | false =>
      change left.and right ≠ .unrestricted
      fun_cases Predicate.and left right with
      | case1 => exact rightRestricts
      | case2 => exact absurd rfl rightRestricts
      | case3 => simp
  | true =>
      change left.or right ≠ .unrestricted
      fun_cases Predicate.or left right <;> simp

/-- Once something has been joined, no comparison of what follows is lost. -/
theorem leaves_joinAll
    {steps : List (Bool × Predicate)} (restrict : ∀ step ∈ steps, step.2 ≠ .unrestricted)
    (leftRestricts : left ≠ .unrestricted) :
    (left.joinAll steps).leaves = left.leaves ++ steps.flatMap fun step => step.2.leaves := by
  induction steps generalizing left with
  | nil => simp [joinAll]
  | cons step rest induction =>
      rcases List.forall_mem_cons.mp restrict with ⟨stepRestricts, restRestrict⟩
      have joined := leaves_join leftRestricts step.1 stepRestricts
      have joinedRestricts : left.join step.1 step.2 ≠ .unrestricted :=
        join_ne_unrestricted step.1 stepRestricts
      calc
        (left.joinAll (step :: rest)).leaves =
            ((left.join step.1 step.2).joinAll rest).leaves := rfl
        _ = (left.join step.1 step.2).leaves ++ rest.flatMap fun step => step.2.leaves :=
            induction restRestrict joinedRestricts
        _ = left.leaves ++ (step :: rest).flatMap fun step => step.2.leaves := by
            rw [joined, List.flatMap_cons, List.append_assoc]

end Predicate

end Criteria
