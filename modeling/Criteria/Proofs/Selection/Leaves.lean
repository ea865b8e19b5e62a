import Criteria.Proofs.Filter.Leaves
import Criteria.Proofs.Selection.Messages

/-!
# Which comparisons a selection keeps

A selection keeps the comparisons of its filters in their order, each once, and binds their values
in the same order.  Only a filter that comes first as an alternative leaves none: it is an
alternative to everything, and a condition that always holds stands for it.  Further alternatives
right after it are written out, although they change nothing in what the predicate means
(`keeps_comparisons`).
-/

namespace Criteria

/-- The criteria that leave a trace: all of them but a first one that is an alternative. -/
def Criterion.traced : List Criterion → List Criterion
  | [] => []
  | first :: rest => if first.isOr then rest else first :: rest

namespace Selection

/-! ## Truth values under joining -/

/-- Joining what is false keeps a truth value only as an alternative to it. -/
theorem joinAll_of_false
    (before : Truth) {steps : List (Bool × Truth)} (allFalse : ∀ step ∈ steps, step.2 = .false) :
    before.joinAll steps = if steps.all Prod.fst then before else .false := by
  induction steps generalizing before with
  | nil => rfl
  | cons step rest induction =>
      rcases List.forall_mem_cons.mp allFalse with ⟨stepFalse, restFalse⟩
      change (before.join step.1 step.2).joinAll rest = _
      rw [induction _ restFalse, stepFalse, List.all_cons]
      cases step.1 with
      | false =>
          have joined : before.join false .false = .false := by cases before <;> rfl
          rw [joined, ite_self, Bool.false_and, if_neg Bool.false_ne_true]
      | true =>
          have joined : before.join true .false = before := by cases before <;> rfl
          rw [joined, Bool.true_and]

/-- What always holds goes on to hold as long as only alternatives follow. -/
theorem joinAll_of_isOr
    {steps : List (Bool × Truth)} (alternatives : ∀ step ∈ steps, step.1 = true) :
    Truth.joinAll .true steps = .true := by
  induction steps with
  | nil => rfl
  | cons step rest induction =>
      rcases List.forall_mem_cons.mp alternatives with ⟨alternative, restAlternatives⟩
      calc
        Truth.joinAll .true (step :: rest) = (Truth.join .true step.1 step.2).joinAll rest := rfl
        _ = Truth.joinAll .true rest := by rw [alternative, Truth.join, if_pos rfl, Truth.true_or]
        _ = .true := induction restAlternatives

section Machine

variable [Machine] {table : Table} {filters : List Filter} {position : Nat}
  {leaves : List Predicate}

/-! ## The predicates of some filters -/

theorem LeavesFrom.length_eq (placed : LeavesFrom table position filters leaves) :
    filters.length = leaves.length := by
  simpa using List.Forall₂.length_eq placed

/-- Each of the predicates is that of one of the filters. -/
theorem LeavesFrom.exists_of_mem
    (placed : LeavesFrom table position filters leaves)
    {leaf : Predicate} (member : leaf ∈ leaves) :
    ∃ filter ∈ filters, ∃ place, filter.predicate table place = .ok leaf := by
  induction filters generalizing position leaves with
  | nil =>
      rw [leavesFrom_nil_iff.mp placed] at member
      exact absurd member List.not_mem_nil
  | cons filter rest induction =>
      rcases leavesFrom_cons_iff.mp placed with ⟨first, others, firstOk, othersPlaced, rfl⟩
      rcases List.mem_cons.mp member with rfl | inOthers
      · exact ⟨filter, List.mem_cons_self, position, firstOk⟩
      · rcases induction othersPlaced inOthers with ⟨found, foundMember, compiled⟩
        exact ⟨found, List.mem_cons_of_mem _ foundMember, compiled⟩

theorem LeavesFrom.map_fst_joinSteps
    (placed : LeavesFrom table position filters leaves) :
    (joinSteps filters leaves).map Prod.fst = filters.map fun filter => filter.criterion.isOr := by
  apply List.map_fst_zip
  simp [placed.length_eq]

theorem LeavesFrom.map_snd_joinSteps (placed : LeavesFrom table position filters leaves) :
    (joinSteps filters leaves).map Prod.snd = leaves := by
  apply List.map_snd_zip
  simp [placed.length_eq]

/-- Each of the predicates restricts something. -/
theorem LeavesFrom.restrict (placed : LeavesFrom table position filters leaves) :
    ∀ step ∈ joinSteps filters leaves, step.2 ≠ .unrestricted := by
  intro step member
  have inLeaves : step.2 ∈ leaves := by
    rw [← placed.map_snd_joinSteps]
    exact List.mem_map_of_mem member
  rcases placed.exists_of_mem inLeaves with ⟨filter, _, place, compiled⟩
  exact Filter.predicate_ne_unrestricted compiled

/-- Each filter binds values at its own position, and in one comparison at most. -/
theorem LeavesFrom.boundPositions_sublist (placed : LeavesFrom table position filters leaves) :
    (Predicate.boundPositions (leaves.flatMap Predicate.leaves)).Sublist
      (List.range' position filters.length) := by
  induction filters generalizing position leaves with
  | nil =>
      rw [leavesFrom_nil_iff.mp placed]
      exact List.nil_sublist _
  | cons filter rest induction =>
      rcases leavesFrom_cons_iff.mp placed with ⟨first, others, firstOk, othersPlaced, rfl⟩
      rw [Predicate.boundPositions, List.flatMap_cons, List.filter_append, List.map_append]
      exact (Filter.boundPositions_sublist firstOk).append (induction othersPlaced)

/-- What is bound by the predicates of some filters is what the criteria say, one by one. -/
theorem LeavesFrom.mapM_bindings (placed : LeavesFrom table position filters leaves) :
    (filters.map Filter.criterion).mapM Criterion.bindings =
      .ok (leaves.map fun leaf => leaf.comparisons.flatMap Comparison.bindings) := by
  rw [mapM_eq_ok_iff, List.forall₂_map_left_iff, List.forall₂_map_right_iff]
  induction filters generalizing position leaves with
  | nil =>
      rw [leavesFrom_nil_iff.mp placed]
      exact .nil
  | cons filter rest induction =>
      rcases leavesFrom_cons_iff.mp placed with ⟨first, others, firstOk, othersPlaced, rfl⟩
      exact .cons (Filter.bindings_predicate firstOk) (induction othersPlaced)

/-! ## What the fold keeps -/

/-- The comparisons of the fold are those of the filters that leave a trace. -/
theorem exists_kept_of_compile
    {predicate : Predicate} (compiled : compile table filters = .ok predicate) :
    ∃ kept place parts,
      kept <:+ filters ∧
        kept.map Filter.criterion = Criterion.traced (filters.map Filter.criterion) ∧
        LeavesFrom table place kept parts ∧
        predicate.leaves = parts.flatMap Predicate.leaves ∧
        (kept = [] → predicate = .unrestricted ∨ predicate = .always) := by
  rcases compile_eq_ok_iff.mp compiled with ⟨leaves, placed, rfl⟩
  cases filters with
  | nil =>
      rw [leavesFrom_nil_iff.mp placed]
      exact ⟨[], 0, [], List.suffix_rfl, rfl, leavesFrom_nil_iff.mpr rfl, rfl, fun _ => .inl rfl⟩
  | cons first rest =>
      rcases leavesFrom_cons_iff.mp placed with ⟨leaf, others, leafOk, othersPlaced, rfl⟩
      have othersRestrict := othersPlaced.restrict
      have othersLeaves :
          (joinSteps rest others).flatMap (fun step => step.2.leaves) =
            others.flatMap Predicate.leaves := by
        rw [← List.flatMap_map Prod.snd Predicate.leaves, othersPlaced.map_snd_joinSteps]
      -- What the first filter gives is no longer `unrestricted`, so that nothing is lost after it.
      cases isOr : first.criterion.isOr with
      | true =>
          have folded :
              Predicate.joinAll .unrestricted (joinSteps (first :: rest) (leaf :: others)) =
                Predicate.joinAll .always (joinSteps rest others) := by
            simp [joinSteps, Predicate.joinAll, isOr, Predicate.join, Predicate.or]
          have alwaysRestricts : Predicate.always ≠ .unrestricted := by simp
          refine ⟨rest, 1, others, List.suffix_cons first rest, ?_, othersPlaced, ?_, ?_⟩
          · simp [Criterion.traced, isOr]
          · rw [folded, Predicate.leaves_joinAll othersRestrict alwaysRestricts, othersLeaves]
            rfl
          · rintro rfl
            rw [folded, leavesFrom_nil_iff.mp othersPlaced]
            exact .inr rfl
      | false =>
          have folded :
              Predicate.joinAll .unrestricted (joinSteps (first :: rest) (leaf :: others)) =
                leaf.joinAll (joinSteps rest others) := by
            simp [joinSteps, Predicate.joinAll, isOr, Predicate.join, Predicate.and]
          have leafRestricts := Filter.predicate_ne_unrestricted leafOk
          refine ⟨first :: rest, 0, leaf :: others, List.suffix_rfl, ?_, placed, ?_, ?_⟩
          · simp [Criterion.traced, isOr]
          · rw [folded, Predicate.leaves_joinAll othersRestrict leafRestricts, othersLeaves,
              List.flatMap_cons]
          · exact fun none => absurd none (List.cons_ne_nil _ _)

/-! ## Filters compiled alone -/

/-- That a predicate is the one of a criterion alone; a token for false asks for two comparisons. -/
structure CompilesAlone (table : Table) (criterion : Criterion) (leaf : Predicate) : Prop where
  compiled :
    ∃ filter, Filter.ofCriterion criterion = .ok filter ∧ filter.predicate table 0 = .ok leaf
  token :
    criterion.operation = .truth →
      ∃ token, criterion.value? = some token ∧
        leaf.comparisons = Filter.tokenComparisons criterion.column.name token

/-- Wherever valid filters stand, each makes the comparisons that it makes alone. -/
theorem LeavesFrom.exists_compilesAlone
    (fits : ∀ filter ∈ filters, filter.Fits table) (valid : ∀ filter ∈ filters, filter.IsValid)
    (placed : LeavesFrom table position filters leaves) :
    ∃ alone,
      List.Forall₂ (CompilesAlone table) (filters.map Filter.criterion) alone ∧
        leaves.flatMap Predicate.comparisons = alone.flatMap Predicate.comparisons := by
  induction filters generalizing position leaves with
  | nil =>
      rw [leavesFrom_nil_iff.mp placed]
      exact ⟨[], .nil, rfl⟩
  | cons filter rest induction =>
      rcases List.forall_mem_cons.mp fits with ⟨filterFits, restFit⟩
      rcases List.forall_mem_cons.mp valid with ⟨filterValid, restValid⟩
      rcases leavesFrom_cons_iff.mp placed with ⟨leaf, others, leafOk, othersPlaced, rfl⟩
      rcases induction restFit restValid othersPlaced with ⟨alone, aloneOk, same⟩
      rcases Filter.exists_comparisons leafOk with ⟨comparisons, _, rfl, compiled⟩
      have made : Filter.ofCriterion filter.criterion = .ok filter :=
        Filter.ofCriterion_eq_ok_iff.mpr ⟨rfl, filterFits.policy⟩
      have compilesAlone :
          CompilesAlone table filter.criterion (.ofComparisons 0 comparisons) := by
        refine ⟨⟨filter, made, compiled 0⟩, fun operation => ?_⟩
        rcases filterValid.token operation with ⟨token, given, _⟩
        have asked := Filter.predicate_of_token filterFits.column operation given 0
        rw [compiled 0, Except.ok.injEq] at asked
        exact ⟨token, given, by rw [asked, Predicate.comparisons_ofComparisons]⟩
      refine ⟨.ofComparisons 0 comparisons :: alone, .cons compilesAlone aloneOk, ?_⟩
      rw [List.flatMap_cons, List.flatMap_cons, same,
        Predicate.comparisons_ofComparisons, Predicate.comparisons_ofComparisons]

/-- Filters that are joined to predicates of one meaning give predicates of one meaning. -/
theorem meaning_compileOnto_eq
    {firstBefore secondBefore firstResult secondResult : Predicate} {firstPlace secondPlace : Nat}
    {assignment : Comparison → Truth}
    (same : firstBefore.meaning assignment = secondBefore.meaning assignment)
    (firstOk : compileOnto table firstBefore firstPlace filters = .ok firstResult)
    (secondOk : compileOnto table secondBefore secondPlace filters = .ok secondResult) :
    firstResult.meaning assignment = secondResult.meaning assignment := by
  induction filters generalizing firstBefore secondBefore firstPlace secondPlace with
  | nil =>
      cases firstOk
      cases secondOk
      exact same
  | cons filter rest induction =>
      rcases bind_eq_ok_iff.mp firstOk with ⟨firstLeaf, firstLeafOk, firstOk⟩
      rcases Filter.exists_comparisons firstLeafOk with ⟨comparisons, _, rfl, compiled⟩
      rw [compileOnto, compiled secondPlace] at secondOk
      refine induction ?_ firstOk secondOk
      rw [Predicate.meaning_join, Predicate.meaning_join, same,
        Predicate.meaning_ofComparisons assignment firstPlace secondPlace]

/-! ## Predicates that always hold -/

/-- Alternatives to everything hold always. -/
theorem meaning_compile_of_isOr
    {predicate : Predicate} (compiled : compile table filters = .ok predicate)
    (alternatives : ∀ filter ∈ filters, filter.criterion.isOr = true)
    (assignment : Comparison → Truth) :
    predicate.meaning assignment = .true := by
  rcases compile_eq_ok_iff.mp compiled with ⟨leaves, placed, rfl⟩
  rw [Predicate.meaning_joinAll]
  apply joinAll_of_isOr
  rw [List.forall_mem_map]
  intro step member
  have flag : step.1 ∈ (joinSteps filters leaves).map Prod.fst := List.mem_map_of_mem member
  rw [placed.map_fst_joinSteps] at flag
  rcases List.mem_map.mp flag with ⟨filter, inFilters, same⟩
  rw [← same]
  exact alternatives filter inFilters

/-- Where every comparison is false, a predicate holds only if all filters are alternatives. -/
theorem isOr_of_meaning_compile
    {predicate : Predicate} (compiled : compile table filters = .ok predicate)
    (holds : predicate.meaning (fun _ => .false) = .true) :
    ∀ filter ∈ filters, filter.criterion.isOr = true := by
  rcases compile_eq_ok_iff.mp compiled with ⟨leaves, placed, rfl⟩
  rw [Predicate.meaning_joinAll, joinAll_of_false] at holds
  · split at holds
    · rename_i allFlags
      rw [List.all_map, List.all_eq_true] at allFlags
      have flags : ∀ flag ∈ (joinSteps filters leaves).map Prod.fst, flag = true := by
        rw [List.forall_mem_map]
        exact allFlags
      rw [placed.map_fst_joinSteps, List.forall_mem_map] at flags
      exact flags
    · cases holds
  · rw [List.forall_mem_map]
    intro step member
    have inLeaves : step.2 ∈ (joinSteps filters leaves).map Prod.snd := List.mem_map_of_mem member
    rw [placed.map_snd_joinSteps] at inLeaves
    rcases placed.exists_of_mem inLeaves with ⟨filter, _, place, leafOk⟩
    exact Filter.meaning_predicate_of_false leafOk

/-! ## What a selection keeps -/

/-- What a predicate has kept of the criteria that it comes from. -/
structure KeepsComparisons
    (table : Table) (criteria : List Criterion) (predicate : Predicate) : Prop where
  comparisons :
    ∃ alone, List.Forall₂ (CompilesAlone table) (Criterion.traced criteria) alone ∧
      predicate.comparisons = alone.flatMap Predicate.comparisons
  values :
    ∃ bindings, (Criterion.traced criteria).mapM Criterion.bindings = .ok bindings ∧
      Sql.parameterValues (Sql.render table.name predicate).parameters =
        bindings.flatten.map Binding.value
  /-- The predicate is the mere truth value exactly if no criterion leaves a trace. -/
  constant :
    (predicate = .unrestricted ∨ predicate = .always) ↔ Criterion.traced criteria = []
  /-- Whatever is compared with, the predicate holds exactly if there are only alternatives. -/
  holds :
    (∀ assignment : Comparison → Truth, predicate.meaning assignment = .true) ↔
      ∀ criterion ∈ criteria, criterion.isOr = true

/-- What valid filters compile to keeps their comparisons. -/
theorem compile_keepsComparisons
    {predicate : Predicate} (fits : ∀ filter ∈ filters, filter.Fits table)
    (valid : ∀ filter ∈ filters, filter.IsValid)
    (compiled : compile table filters = .ok predicate) :
    KeepsComparisons table (filters.map Filter.criterion) predicate := by
  rcases exists_kept_of_compile compiled with
    ⟨kept, place, parts, suffix, traced, placed, leavesEq, constant⟩
  have comparisonsEq : predicate.comparisons = parts.flatMap Predicate.comparisons := by
    rw [Predicate.comparisons, leavesEq, List.map_flatMap]
    rfl
  have keptFit : ∀ filter ∈ kept, filter.Fits table :=
    fun filter member => fits filter (suffix.subset member)
  have keptValid : ∀ filter ∈ kept, filter.IsValid :=
    fun filter member => valid filter (suffix.subset member)
  refine ⟨?_, ?_, ?_, ?_⟩
  · rcases placed.exists_compilesAlone keptFit keptValid with ⟨alone, aloneOk, same⟩
    exact ⟨alone, traced ▸ aloneOk, comparisonsEq.trans same⟩
  · have distinct : (Predicate.boundPositions predicate.leaves).Nodup := by
      rw [leavesEq]
      exact placed.boundPositions_sublist.nodup List.nodup_range'
    refine ⟨_, traced ▸ placed.mapM_bindings, ?_⟩
    rw [Sql.values_render table.name distinct, comparisonsEq, List.flatMap_assoc,
      List.flatMap_def]
  · rw [← traced, List.map_eq_nil_iff]
    refine ⟨fun isConstant => ?_, constant⟩
    have silent : predicate.leaves = [] := by
      rcases isConstant with rfl | rfl <;> rfl
    rw [leavesEq, List.flatMap_eq_nil_iff] at silent
    cases parts with
    | nil => exact List.length_eq_zero_iff.mp placed.length_eq
    | cons part others =>
        rcases placed.exists_of_mem List.mem_cons_self with ⟨filter, _, _, leafOk⟩
        exact absurd (silent part List.mem_cons_self) (Filter.leaves_ne_nil leafOk)
  · rw [List.forall_mem_map]
    constructor
    · exact fun holds => isOr_of_meaning_compile compiled (holds _)
    · exact fun alternatives => meaning_compile_of_isOr compiled alternatives

end Machine

/-- Two alternatives, with nothing before them. -/
def leadingCriteria : List Criterion :=
  [⟨⟨"age", .integer⟩, .greaterThan, true, some "30", none, none⟩,
    ⟨⟨"active", .boolean⟩, .truth, true, some "T", none, none⟩]

/-- The selection that is built from the two alternatives. -/
def leadingSelection : Selection :=
  ⟨people, List.zipWith Filter.mk leadingCriteria [.numeric, .boolean], .unvalidated⟩

end Selection

end Criteria
