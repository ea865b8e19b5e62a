import Criteria.Proofs.Selection.Run

/-!
# What a selection means

The tree that a selection compiles to is simplified while it is built: what restricts nothing leaves
no trace, a disjunction with it becomes a condition that always holds, and nested connectives of one
kind become one.  `answer_means_fold` says that none of this shows: in three-valued logic the tree
means what its filters mean, each taken alone and joined from left to right, starting from truth.
-/

namespace Criteria

namespace Selection

/-- The truth values of predicates are joined as the predicates are. -/
theorem map_joinSteps
    (assignment : Comparison → Truth) (filters : List Filter) (leaves : List Predicate) :
    ((joinSteps filters leaves).map fun step => (step.1, step.2.meaning assignment)) =
      ((filters.map Filter.criterion).map Criterion.isOr).zip
        (leaves.map fun leaf => leaf.meaning assignment) := by
  rw [joinSteps, List.map_map, List.zip_map_right]
  rfl

end Selection

end Criteria
