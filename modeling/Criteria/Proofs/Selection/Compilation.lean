import Criteria.Proofs.Predicate.Proper

/-!
# Compilation as a fold

The predicate of a list of filters is the left fold of the predicates of its filters, joined as
alternatives or as further restrictions (`compileOnto_eq_ok_iff`).  Since joining keeps the meaning
however the tree is simplified, the fold of the trees means the fold of the truth values
(`Predicate.meaning_joinAll`).  Valid filters that fit their table compile exactly if there is room
for the integers that their values write (`exists_compile_iff`).
-/

namespace Criteria

/-- Joins a truth value to what stands before it, as an alternative or as a further restriction. -/
def Truth.join (before : Truth) (isOr : Bool) (value : Truth) : Truth :=
  if isOr then before.or value else before.and value

/-- Joins truth values one after another to what stands before them, from left to right. -/
def Truth.joinAll (before : Truth) (steps : List (Bool × Truth)) : Truth :=
  steps.foldl (fun before step => before.join step.1 step.2) before

namespace Predicate

/-- Joins predicates one after another to what stands before them, from left to right. -/
def joinAll (before : Predicate) (steps : List (Bool × Predicate)) : Predicate :=
  steps.foldl (fun before step => before.join step.1 step.2) before

/-- Joining predicates joins what they mean, however the tree is simplified. -/
@[simp]
theorem meaning_join
    (assignment : Comparison → Truth) (before : Predicate) (isOr : Bool) (predicate : Predicate) :
    (before.join isOr predicate).meaning assignment =
      (before.meaning assignment).join isOr (predicate.meaning assignment) := by
  cases isOr with
  | false => exact meaning_and assignment before predicate
  | true => exact meaning_or assignment before predicate

/-- The fold of predicates means the fold of what they mean. -/
theorem meaning_joinAll
    (assignment : Comparison → Truth) (before : Predicate) (steps : List (Bool × Predicate)) :
    (before.joinAll steps).meaning assignment =
      (before.meaning assignment).joinAll
        (steps.map fun step => (step.1, step.2.meaning assignment)) := by
  induction steps generalizing before with
  | nil => rfl
  | cons step rest induction =>
      calc
        (before.joinAll (step :: rest)).meaning assignment =
            ((before.join step.1 step.2).joinAll rest).meaning assignment := rfl
        _ = ((before.join step.1 step.2).meaning assignment).joinAll
              (rest.map fun step => (step.1, step.2.meaning assignment)) := induction _
        _ = (before.meaning assignment).joinAll
              ((step :: rest).map fun step => (step.1, step.2.meaning assignment)) := by
            rw [meaning_join]
            rfl

end Predicate

namespace Selection

variable [Machine] {table : Table} {filters : List Filter} {leaves : List Predicate}

/-- The predicates are those of the filters, which stand from a position on. -/
def LeavesFrom
    (table : Table) (position : Nat) (filters : List Filter) (leaves : List Predicate) : Prop :=
  List.Forall₂ (fun entry leaf => entry.1.predicate table entry.2 = .ok leaf)
    (filters.zipIdx position) leaves

theorem leavesFrom_nil_iff {position : Nat} :
    LeavesFrom table position [] leaves ↔ leaves = [] :=
  List.forall₂_nil_left_iff

theorem leavesFrom_cons_iff {position : Nat} {filter : Filter} :
    LeavesFrom table position (filter :: filters) leaves ↔
      ∃ leaf others, filter.predicate table position = .ok leaf ∧
        LeavesFrom table (position + 1) filters others ∧ leaves = leaf :: others := by
  unfold LeavesFrom
  rw [List.zipIdx_cons, List.forall₂_cons_left_iff]

/-- How the predicates of some filters are joined: each as its criterion says. -/
def joinSteps (filters : List Filter) (leaves : List Predicate) : List (Bool × Predicate) :=
  (filters.map fun filter => filter.criterion.isOr).zip leaves

/-- Compilation succeeds exactly on the fold of the predicates of all filters. -/
theorem compileOnto_eq_ok_iff {before result : Predicate} {position : Nat} :
    compileOnto table before position filters = .ok result ↔
      ∃ leaves, LeavesFrom table position filters leaves ∧
        result = before.joinAll (joinSteps filters leaves) := by
  induction filters generalizing before position with
  | nil =>
      simp only [leavesFrom_nil_iff, exists_eq_left, compileOnto]
      constructor
      · intro equal
        cases equal
        rfl
      · rintro rfl
        rfl
  | cons filter rest induction =>
      simp only [compileOnto, bind_eq_ok_iff, leavesFrom_cons_iff]
      constructor
      · rintro ⟨leaf, leafOk, compiled⟩
        rcases induction.mp compiled with ⟨others, othersFrom, rfl⟩
        exact ⟨leaf :: others, ⟨leaf, others, leafOk, othersFrom, rfl⟩, rfl⟩
      · rintro ⟨_, ⟨leaf, others, leafOk, othersFrom, rfl⟩, rfl⟩
        exact ⟨leaf, leafOk, induction.mpr ⟨others, othersFrom, rfl⟩⟩

theorem compile_eq_ok_iff {result : Predicate} :
    compile table filters = .ok result ↔
      ∃ leaves, LeavesFrom table 0 filters leaves ∧
        result = Predicate.joinAll .unrestricted (joinSteps filters leaves) :=
  compileOnto_eq_ok_iff

/-- Compiling some filters and then one more is joining the predicate of that one to the rest. -/
theorem compileOnto_concat
    {before joined predicate : Predicate} {position : Nat} {last : Filter}
    (compiled : compileOnto table before position filters = .ok joined)
    (lastCompiled : last.predicate table (position + filters.length) = .ok predicate) :
    compileOnto table before position (filters ++ [last]) =
      .ok (joined.join last.criterion.isOr predicate) := by
  induction filters generalizing before position with
  | nil =>
      cases compiled
      exact bind_eq_ok_iff.mpr ⟨predicate, lastCompiled, rfl⟩
  | cons filter rest induction =>
      rcases bind_eq_ok_iff.mp compiled with ⟨leaf, leafOk, restCompiled⟩
      refine bind_eq_ok_iff.mpr ⟨leaf, leafOk, induction restCompiled ?_⟩
      rw [List.length_cons, ← Nat.add_assoc] at lastCompiled
      rwa [Nat.add_right_comm]

/-- Compiling some filters and then others is joining the others to what the first give. -/
theorem compileOnto_append
    {before result : Predicate} {position : Nat} {first second : List Filter}
    (compiled : compileOnto table before position (first ++ second) = .ok result) :
    ∃ middle, compileOnto table before position first = .ok middle ∧
      compileOnto table middle (position + first.length) second = .ok result := by
  induction first generalizing before position with
  | nil => exact ⟨before, rfl, compiled⟩
  | cons filter rest induction =>
      rcases bind_eq_ok_iff.mp compiled with ⟨leaf, leafOk, restCompiled⟩
      rcases induction restCompiled with ⟨middle, middleOk, secondOk⟩
      refine ⟨middle, bind_eq_ok_iff.mpr ⟨leaf, leafOk, middleOk⟩, ?_⟩
      rwa [List.length_cons, Nat.add_comm rest.length, ← Nat.add_assoc]

/-- Compilation makes proper predicates out of proper ones. -/
theorem compileOnto_isProper {before result : Predicate} {position : Nat}
    (proper : before.IsProper)
    (compiled : compileOnto table before position filters = .ok result) : result.IsProper := by
  induction filters generalizing before position with
  | nil =>
      cases compiled
      exact proper
  | cons filter rest induction =>
      rcases bind_eq_ok_iff.mp compiled with ⟨leaf, leafOk, restCompiled⟩
      exact induction (proper.join (Filter.predicate_isProper leafOk) _) restCompiled

theorem compile_isProper {result : Predicate} (compiled : compile table filters = .ok result) :
    result.IsProper := by
  have empty : Predicate.unrestricted.IsProper := trivial
  exact compileOnto_isProper empty compiled

/-! ## Valid filters -/

section Valid

variable (fits : ∀ filter ∈ filters, filter.Fits table)
  (valid : ∀ filter ∈ filters, filter.IsValid)

include fits valid

/-- What is missing for some valid filters is always the room for a value. -/
theorem compileOnto_of_not_hasRoom
    (lack : ¬ ∀ filter ∈ filters, filter.criterion.HasRoom) (before : Predicate)
    (position : Nat) : compileOnto table before position filters = .error .noRoom := by
  induction filters generalizing before position with
  | nil => exact absurd (List.forall_mem_nil _) lack
  | cons filter rest induction =>
      rcases List.forall_mem_cons.mp fits with ⟨filterFits, restFit⟩
      rcases List.forall_mem_cons.mp valid with ⟨filterValid, restValid⟩
      cases filterValid.compiles filterFits with
      | noRoom _ failed => exact bind_eq_error_iff.mpr (.inl (failed position))
      | room comparisons hasRoom compiled =>
          refine bind_eq_error_iff.mpr (.inr ⟨_, compiled position, ?_⟩)
          refine induction restFit restValid (fun restRoom => lack ?_) _ _
          exact List.forall_mem_cons.mpr ⟨hasRoom, restRoom⟩

/-- Valid filters have predicates, if there is room for what they have converted. -/
theorem exists_leavesFrom
    (room : ∀ filter ∈ filters, filter.criterion.HasRoom) (position : Nat) :
    ∃ leaves, LeavesFrom table position filters leaves := by
  induction filters generalizing position with
  | nil => exact ⟨[], leavesFrom_nil_iff.mpr rfl⟩
  | cons filter rest induction =>
      rcases List.forall_mem_cons.mp fits with ⟨filterFits, restFit⟩
      rcases List.forall_mem_cons.mp valid with ⟨filterValid, restValid⟩
      rcases List.forall_mem_cons.mp room with ⟨filterRoom, restRoom⟩
      cases filterValid.compiles filterFits with
      | noRoom lack _ => exact absurd filterRoom lack
      | room comparisons _ compiled =>
          rcases induction restFit restValid restRoom (position + 1) with ⟨others, othersFrom⟩
          exact ⟨_, leavesFrom_cons_iff.mpr ⟨_, others, compiled position, othersFrom, rfl⟩⟩

/-- Valid filters compile exactly if there is room for what they have converted. -/
theorem exists_compile_iff :
    (∃ predicate, compile table filters = .ok predicate) ↔
      ∀ filter ∈ filters, filter.criterion.HasRoom := by
  constructor
  · rintro ⟨predicate, compiled⟩
    by_contra lack
    have failed : compile table filters = .error .noRoom :=
      compileOnto_of_not_hasRoom fits valid lack .unrestricted 0
    rw [failed] at compiled
    cases compiled
  · intro room
    rcases exists_leavesFrom fits valid room 0 with ⟨leaves, placed⟩
    exact ⟨_, compile_eq_ok_iff.mpr ⟨leaves, placed, rfl⟩⟩

end Valid

/-- Each filter, made again from its criterion, has alone a predicate of the same meaning. -/
theorem exists_alone
    (fits : ∀ filter ∈ filters, filter.Fits table) {position : Nat}
    (placed : LeavesFrom table position filters leaves) :
    ∃ alone,
      List.Forall₂
          (fun filter leaf => Filter.ofCriterion filter.criterion = .ok filter ∧
            filter.predicate table 0 = .ok leaf)
          filters alone ∧
        ∀ assignment,
          (joinSteps filters leaves).map (fun step => (step.1, step.2.meaning assignment)) =
            (joinSteps filters alone).map (fun step => (step.1, step.2.meaning assignment)) := by
  induction filters generalizing position leaves with
  | nil =>
      refine ⟨[], .nil, fun assignment => ?_⟩
      rw [leavesFrom_nil_iff.mp placed]
  | cons filter rest induction =>
      rcases List.forall_mem_cons.mp fits with ⟨filterFits, restFit⟩
      rcases leavesFrom_cons_iff.mp placed with ⟨leaf, others, leafOk, othersPlaced, rfl⟩
      rcases Filter.exists_comparisons leafOk with ⟨comparisons, _, rfl, compiled⟩
      rcases induction restFit othersPlaced with ⟨alone, aloneOk, same⟩
      have made : Filter.ofCriterion filter.criterion = .ok filter :=
        Filter.ofCriterion_eq_ok_iff.mpr ⟨rfl, filterFits.policy⟩
      refine ⟨.ofComparisons 0 comparisons :: alone, .cons ⟨made, compiled 0⟩ aloneOk, ?_⟩
      intro assignment
      have sameLeaf := Predicate.meaning_ofComparisons assignment position 0 comparisons
      simpa [joinSteps, sameLeaf] using same assignment

end Selection

end Criteria
