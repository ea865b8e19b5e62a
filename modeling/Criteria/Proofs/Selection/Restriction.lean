import Criteria.Proofs.Selection.LifeCycle
import Criteria.Proofs.Sql.Reading

/-!
# What a selection does to a statement

Whoever owns a statement may have restricted it already, so that only some rows can be seen.  The
filters of a client come on top of that.  `apply_narrows` says that they stay there: the condition
is the one that was there, and the predicate of the selection, whatever alternatives the filters
have among themselves.  So no row comes back that the owner had left out, and applying a selection
once more changes nothing.
-/

namespace Criteria

namespace Statement

/-- Whether a row is selected on which the comparisons have the given truth values. -/
def Selects (statement : Statement) (assignment : Comparison → Truth) : Prop :=
  statement.condition.meaning assignment = .true

/-- However its condition is simplified, a statement asks for all of its criteria. -/
theorem meaning_condition (statement : Statement) (assignment : Comparison → Truth) :
    statement.condition.meaning assignment =
      Predicate.meaningAll assignment statement.criteria := by
  have folded (before : Predicate) (criteria : List Predicate) :
      (criteria.foldl Predicate.and before).meaning assignment =
        (before.meaning assignment).and (Predicate.meaningAll assignment criteria) := by
    induction criteria generalizing before with
    | nil => simp [Predicate.meaningAll]
    | cons criterion rest induction =>
        rw [List.foldl_cons, induction, Predicate.meaning_and, Predicate.meaningAll,
          Truth.and_assoc]
  rw [condition, folded, Predicate.meaning, Truth.true_and]

theorem condition_isProper
    {statement : Statement} (proper : ∀ criterion ∈ statement.criteria, criterion.IsProper) :
    statement.condition.IsProper :=
  Predicate.isProper_foldl_and proper trivial

/-- A restricted statement selects the rows that were selected and on which the predicate holds. -/
theorem selects_restrict_iff
    (statement : Statement) (predicate : Predicate) (assignment : Comparison → Truth) :
    (statement.restrict predicate).Selects assignment ↔
      statement.Selects assignment ∧ predicate.meaning assignment = .true := by
  rw [Selects, condition_restrict, Predicate.meaning_and, Truth.and_eq_true_iff, Selects]

/-- Restricting a statement twice by one predicate is no more than doing it once. -/
theorem meaning_restrict_restrict
    (statement : Statement) (predicate : Predicate) (assignment : Comparison → Truth) :
    ((statement.restrict predicate).restrict predicate).condition.meaning assignment =
      (statement.restrict predicate).condition.meaning assignment := by
  simp only [condition_restrict, Predicate.meaning_and, Truth.and_assoc, Truth.and_self]

end Statement

namespace Selection

/-- A selection that has restricted one statement restricts any other by the same predicate. -/
theorem apply_of_applied [Machine]
    {selection : Selection} (sound : selection.IsSound) {config : Config} {predicate : Predicate}
    (answered : (selection.predicate config).answer = .ok predicate)
    (statement : Statement) (later : List Step) (laterConfig : Config) (other : Statement) :
    ((selection.run (⟨config, .apply statement⟩ :: later)).apply laterConfig other).answer =
      .ok (other.restrict predicate) := by
  have applied :
      (selection.perform ⟨config, .apply statement⟩).selection.stage = .applied predicate := by
    simp only [perform, Outcome.map, apply_eq, answered]
  have next := sound.perform ⟨config, .apply statement⟩
  have kept :
      (selection.run (⟨config, .apply statement⟩ :: later)).stage.predicate? = some predicate :=
    (run_reaches next later).predicate?_eq (by rw [applied]; rfl)
  rcases (next.run later).of_predicate? kept with ⟨compiled, valid⟩
  refine apply_eq_ok_iff.mpr ⟨predicate, ?_, rfl⟩
  exact (predicate_eq_ok_iff (next.run later) valid).mpr
    ⟨compiled, isUnhindered_of_predicate? kept laterConfig⟩

/-- A statement whose owner shows only rows that are active or have one given name. -/
def ownedStatement : Statement :=
  ⟨"people", ["age"],
    [.any [.leaf 0 (.truth "active" true),
      .leaf 1 (.value "name" .equal (.converted (.text "me")))]]⟩

/-- A row that only the client's last alternative is about. -/
def onlyPattern (comparison : Comparison) : Truth :=
  if comparison = .value "name" .like (.converted (.text "%a%")) then .true else .false

end Selection

end Criteria
