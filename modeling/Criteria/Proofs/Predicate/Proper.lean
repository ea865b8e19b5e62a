import Criteria.Proofs.Filter.Compilation

/-!
# Predicates without empty connectives

A conjunction or a disjunction of nothing has a meaning but no text.  None is ever built: the
predicates of filters are proper, and joining proper predicates gives proper ones.
-/

namespace Criteria

namespace Predicate

mutual

/-- No conjunction and no disjunction in the predicate is without operands. -/
def IsProper : Predicate → Prop
  | .unrestricted => True
  | .always => True
  | .leaf _ _ => True
  | .all operands => operands ≠ [] ∧ AreProper operands
  | .any operands => operands ≠ [] ∧ AreProper operands

/-- All of some predicates are proper. -/
def AreProper : List Predicate → Prop
  | [] => True
  | operand :: rest => IsProper operand ∧ AreProper rest

end

theorem areProper_append {left right : List Predicate} :
    AreProper (left ++ right) ↔ AreProper left ∧ AreProper right := by
  induction left with
  | nil => simp [AreProper]
  | cons operand rest induction => simp only [List.cons_append, AreProper, induction, and_assoc]

variable {left right : Predicate}

theorem IsProper.conjuncts (proper : left.IsProper) :
    left.conjuncts ≠ [] ∧ AreProper left.conjuncts := by
  cases left with
  | all operands => simpa [Predicate.conjuncts, IsProper] using proper
  | unrestricted | always | leaf position comparison | any operands =>
      exact ⟨by simp [Predicate.conjuncts], proper, trivial⟩

theorem IsProper.disjuncts (proper : left.IsProper) :
    left.disjuncts ≠ [] ∧ AreProper left.disjuncts := by
  cases left with
  | any operands => simpa [Predicate.disjuncts, IsProper] using proper
  | unrestricted | always | leaf position comparison | all operands =>
      exact ⟨by simp [Predicate.disjuncts], proper, trivial⟩

theorem IsProper.and (leftProper : left.IsProper) (rightProper : right.IsProper) :
    (left.and right).IsProper := by
  fun_cases Predicate.and left right with
  | case1 => exact rightProper
  | case2 => exact leftProper
  | case3 =>
      refine ⟨?_, areProper_append.mpr ⟨leftProper.conjuncts.2, rightProper.conjuncts.2⟩⟩
      exact List.append_ne_nil_of_left_ne_nil leftProper.conjuncts.1 _

theorem IsProper.or (leftProper : left.IsProper) (rightProper : right.IsProper) :
    (left.or right).IsProper := by
  fun_cases Predicate.or left right with
  | case1 => trivial
  | case2 => trivial
  | case3 =>
      refine ⟨?_, areProper_append.mpr ⟨leftProper.disjuncts.2, rightProper.disjuncts.2⟩⟩
      exact List.append_ne_nil_of_left_ne_nil leftProper.disjuncts.1 _

/-- Joining proper predicates gives a proper one. -/
theorem IsProper.join (leftProper : left.IsProper) (rightProper : right.IsProper)
    (isOr : Bool) : (left.join isOr right).IsProper := by
  cases isOr with
  | false => exact leftProper.and rightProper
  | true => exact leftProper.or rightProper

theorem isProper_foldl_and
    {predicates : List Predicate} (proper : ∀ predicate ∈ predicates, predicate.IsProper)
    (before : left.IsProper) : (predicates.foldl Predicate.and left).IsProper := by
  induction predicates generalizing left with
  | nil => exact before
  | cons predicate rest induction =>
      rcases List.forall_mem_cons.mp proper with ⟨predicateProper, restProper⟩
      exact induction restProper (before.and predicateProper)

end Predicate

/-- The predicate of a filter is proper. -/
theorem Filter.predicate_isProper [Machine]
    {filter : Filter} {table : Table} {position : Nat} {predicate : Predicate}
    (compiled : filter.predicate table position = .ok predicate) : predicate.IsProper := by
  rcases Filter.predicate_cases compiled with ⟨comparison, rfl⟩ | ⟨column, rfl⟩
  · trivial
  · simp [Predicate.IsProper, Predicate.AreProper]

end Criteria
