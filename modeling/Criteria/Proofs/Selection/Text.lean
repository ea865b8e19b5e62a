import Criteria.Proofs.Selection.Meaning
import Criteria.Proofs.Sql.Reading

/-!
# What the text of a selection says

The filters of a selection are joined one after another, but their text is flat.  `text_means_fold`
says that nothing is lost: whoever reads the text as conditions are read, conjunctions before
disjunctions, reads what the filters mean when they are joined from left to right.  This takes
parentheses wherever a filter restricts alternatives that stand before it.
-/

namespace Criteria

/-- A restriction of alternatives is written after the alternatives, which stand in parentheses. -/
theorem Sql.tokens_and_of_any (alternatives : List Predicate) {right : Predicate}
    (restricts : right ≠ .unrestricted) (single : right.conjuncts = [right]) :
    tokens ((Predicate.any alternatives).and right) =
      .opening :: (tokens (.any alternatives) ++ .closing :: .and :: operandTokens right) := by
  have joined : (Predicate.any alternatives).and right =
      .all ((Predicate.any alternatives).conjuncts ++ right.conjuncts) := by
    cases right with
    | unrestricted => exact absurd rfl restricts
    | always | leaf position comparison | all operands | any operands => rfl
  rw [joined, single]
  simp [tokens, conjunctionTokens, operandTokens, Predicate.conjuncts]

/-- An alternative to anything makes alternatives, unless the whole holds always. -/
theorem Predicate.or_cases (left right : Predicate) :
    left.or right = .always ∨ ∃ alternatives, left.or right = .any alternatives := by
  fun_cases Predicate.or left right with
  | case1 => exact Or.inl rfl
  | case2 => exact Or.inl rfl
  | case3 => exact Or.inr ⟨_, rfl⟩

namespace Selection

section Machine

variable [Machine] {table : Table} {filters : List Filter}

/-- After an alternative there are alternatives, or the whole holds always. -/
theorem compileOnto_cases_of_isOr
    {before result : Predicate} {position : Nat}
    (alternative : filters.getLast?.any (fun last => last.criterion.isOr) = true)
    (compiled : compileOnto table before position filters = .ok result) :
    result = .always ∨ ∃ alternatives, result = .any alternatives := by
  induction filters generalizing before position with
  | nil => simp at alternative
  | cons filter rest induction =>
      rcases bind_eq_ok_iff.mp compiled with ⟨leaf, _, restCompiled⟩
      cases rest with
      | nil =>
          have isOr : filter.criterion.isOr = true := by simpa using alternative
          cases restCompiled
          rw [Predicate.join, if_pos isOr]
          exact Predicate.or_cases before leaf
      | cons next others =>
          rw [List.getLast?_cons_cons] at alternative
          exact induction alternative restCompiled

/-- What filters compile to means the fold of their predicates. -/
theorem exists_leaves_of_compile
    {predicate : Predicate} (compiled : compile table filters = .ok predicate) :
    ∃ leaves, LeavesFrom table 0 filters leaves ∧
      ∀ assignment, predicate.meaning assignment =
        Truth.joinAll .true
          (((filters.map Filter.criterion).map Criterion.isOr).zip
            (leaves.map fun leaf => leaf.meaning assignment)) := by
  rcases compile_eq_ok_iff.mp compiled with ⟨leaves, placed, rfl⟩
  refine ⟨leaves, placed, ?_⟩
  intro assignment
  rw [Predicate.meaning_joinAll, map_joinSteps]
  rfl

/--
What a filter restricts is in parentheses if it is made of alternatives.  It is after a filter that
is an alternative, unless that one made it hold always.
-/
theorem exists_restriction
    {first : List Filter} {filter : Filter} (restricts : filter.criterion.isOr = false)
    {earlier : Predicate} (compiled : compile table first = .ok earlier)
    {leaf : Predicate} (leafOk : filter.predicate table first.length = .ok leaf) (name : String) :
    ∃ joined, compile table (first ++ [filter]) = .ok joined ∧
      (first.getLast?.any (fun last => last.criterion.isOr) = true →
        earlier = .always ∨ ∃ alternatives, earlier = .any alternatives) ∧
      ∀ alternatives, earlier = .any alternatives →
        ∃ last, Sql.signs name joined =
          .opening :: (Sql.signs name earlier ++ .closing :: .connective .and :: last) := by
  have joinedOk : compile table (first ++ [filter]) =
      .ok (earlier.join filter.criterion.isOr leaf) :=
    compileOnto_concat compiled (by rwa [Nat.zero_add])
  rw [restricts] at joinedOk
  refine ⟨_, joinedOk, fun alternative => compileOnto_cases_of_isOr alternative compiled, ?_⟩
  rintro alternatives rfl
  refine ⟨(Sql.operandTokens leaf).map Sql.Token.sign, ?_⟩
  have shape : leaf ≠ .unrestricted ∧ leaf.conjuncts = [leaf] := by
    rcases Filter.predicate_cases leafOk with ⟨comparison, rfl⟩ | ⟨column, rfl⟩
    · exact ⟨by simp, rfl⟩
    · exact ⟨by simp, rfl⟩
  have written := Sql.tokens_and_of_any alternatives shape.1 shape.2
  rw [Sql.signs_eq, Sql.signs_eq]
  simp only [Predicate.join, Bool.false_eq_true, if_false, written]
  simp [Sql.Token.sign]

end Machine

/-- Two alternatives, and a token for false that restricts them. -/
def groupedCriteria : List Criterion :=
  [⟨⟨"age", .integer⟩, .greaterThan, false, some "30", none, none⟩,
    ⟨⟨"name", .string⟩, .like, true, some "%a%", none, none⟩,
    ⟨⟨"active", .boolean⟩, .truth, false, some "F", none, none⟩]

/-- The selection that is built from these criteria. -/
def groupedSelection : Selection :=
  ⟨people, List.zipWith Filter.mk groupedCriteria [.numeric, .string, .boolean], .unvalidated⟩

/-- A conjunction among alternatives needs no parentheses. -/
example :
    ((compile people peopleSelection.filters).toOption.map fun predicate =>
        (Sql.render "people" predicate).sql) =
      some ("true AND (people.active = true OR people.active = false) OR " ++
        "people.name LIKE :name_1") := by
  decide

end Selection

end Criteria
