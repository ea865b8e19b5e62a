import Criteria.Proofs.Sql.Parameters

/-!
# Comparisons of a filter

The predicate of a filter makes the same comparisons wherever the filter stands, and what they are
bound to can be read off the criterion (`bindings_predicate`): its value, or its list of values item
by item.  A comparison with another column or with a truth value is bound to nothing.
-/

namespace Criteria

/--
What a criterion binds: its value or each text of its list, as they convert, and a pattern as it
stands.  Nothing is bound if there is no room for one of them.
-/
def Criterion.bindings [Machine] (criterion : Criterion) : Except Error (List Binding) :=
  match criterion.operation with
  | .equal | .notEqual | .greaterThan | .lessThan =>
      criterion.value?.toList.mapM (Binding.ofText criterion.column.type)
  | .like | .notLike => .ok (criterion.value?.toList.map fun text => .converted (.text text))
  | .oneOf => (criterion.values?.getD []).mapM (Binding.ofText criterion.column.type)
  | .truth => .ok []

/-- A predicate that is made of comparisons makes these, and in their order. -/
theorem Predicate.comparisons_ofComparisons (position : Nat) (comparisons : List Comparison) :
    (ofComparisons position comparisons).comparisons = comparisons := by
  have several :
      (leavesOf (comparisons.map (.leaf position))).map Prod.snd = comparisons := by
    induction comparisons with
    | nil => rfl
    | cons comparison rest induction =>
        simp only [List.map_cons, leavesOf, leaves, List.singleton_append, induction]
  cases comparisons with
  | nil => exact several
  | cons comparison rest =>
      cases rest with
      | nil => rfl
      | cons next others => exact several

namespace Filter

variable [Machine] {filter : Filter} {table : Table}

/-- The value that an equation compares with is converted; another column is bound to nothing. -/
theorem bindings_equation
    {column : String} {relation : Relation} {comparison : Comparison}
    (made : filter.equation table column relation = .ok comparison) :
    filter.criterion.value?.toList.mapM (Binding.ofText filter.criterion.column.type) =
      .ok comparison.bindings := by
  unfold equation at made
  cases given : filter.criterion.value? with
  | some text =>
      rw [given] at made
      rcases map_eq_ok_iff.mp made with ⟨binding, bound, rfl⟩
      exact mapM_eq_ok_iff.mpr (.cons bound .nil)
  | none =>
      rw [given] at made
      cases other : filter.criterion.otherColumn? with
      | none => simp [other] at made
      | some column =>
          rw [other] at made
          rcases map_eq_ok_iff.mp made with ⟨_, _, rfl⟩
          rfl

/-- The value that is compared with by order is converted. -/
theorem bindings_inequality
    {column : String} {relation : Relation} {comparison : Comparison}
    (made : filter.inequality column relation = .ok comparison) :
    filter.criterion.value?.toList.mapM (Binding.ofText filter.criterion.column.type) =
      .ok comparison.bindings := by
  rcases bind_eq_ok_iff.mp made with ⟨text, given, made⟩
  rcases map_eq_ok_iff.mp made with ⟨binding, bound, rfl⟩
  rw [value_eq_ok_iff.mp given]
  exact mapM_eq_ok_iff.mpr (.cons bound .nil)

variable {position : Nat} {predicate : Predicate}
  (compiled : filter.predicate table position = .ok predicate)

include compiled

/-- Whatever a filter compiles to binds what its criterion says, in that order. -/
theorem bindings_predicate :
    filter.criterion.bindings = .ok (predicate.comparisons.flatMap Comparison.bindings) := by
  have single (comparison : Comparison) :
      (Predicate.leaf position comparison).comparisons.flatMap Comparison.bindings =
        comparison.bindings := by
    simp [Predicate.comparisons, Predicate.leaves]
  unfold Criterion.bindings
  rcases bind_eq_ok_iff.mp compiled with ⟨column, _, compiled⟩
  cases operation : filter.criterion.operation with
  | equal | notEqual =>
      simp only [operation, map_eq_ok_iff] at compiled
      rcases compiled with ⟨comparison, made, rfl⟩
      rw [single]
      exact bindings_equation made
  | greaterThan | lessThan =>
      simp only [operation, map_eq_ok_iff] at compiled
      rcases compiled with ⟨comparison, made, rfl⟩
      rw [single]
      exact bindings_inequality made
  | like | notLike =>
      simp only [operation, map_eq_ok_iff, pattern, value_eq_ok_iff] at compiled
      rcases compiled with ⟨_, ⟨text, given, rfl⟩, rfl⟩
      rw [single, given]
      rfl
  | oneOf =>
      simp only [operation, map_eq_ok_iff, membership, bind_eq_ok_iff, values_eq_ok_iff]
        at compiled
      rcases compiled with ⟨_, ⟨texts, given, bindings, bound, rfl⟩, rfl⟩
      rw [single, given]
      exact bound
  | truth =>
      simp only [operation, map_eq_ok_iff] at compiled
      rcases compiled with ⟨token, _, rfl⟩
      cases isTrueToken token <;> rfl

/-- Every filter restricts something. -/
theorem predicate_ne_unrestricted : predicate ≠ .unrestricted := by
  rcases predicate_cases compiled with ⟨comparison, rfl⟩ | ⟨column, rfl⟩ <;> simp

/-- Every filter compares something. -/
theorem leaves_ne_nil : predicate.leaves ≠ [] := by
  rcases predicate_cases compiled with ⟨comparison, rfl⟩ | ⟨column, rfl⟩ <;>
    simp [Predicate.leaves, Predicate.leavesOf]

/-- Where every comparison is false, so is the predicate of every filter. -/
theorem meaning_predicate_of_false : predicate.meaning (fun _ => .false) = .false := by
  rcases predicate_cases compiled with ⟨comparison, rfl⟩ | ⟨column, rfl⟩ <;> rfl

/-- Of the comparisons of a filter one at most is bound; the two with a truth value are not. -/
theorem boundPositions_sublist :
    (Predicate.boundPositions predicate.leaves).Sublist [position] := by
  rcases predicate_cases compiled with ⟨comparison, rfl⟩ | ⟨column, rfl⟩
  · exact List.filter_sublist.map Prod.fst
  · exact List.nil_sublist [position]

end Filter

end Criteria
