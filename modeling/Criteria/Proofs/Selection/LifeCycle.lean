import Mathlib.Logic.Relation
import Criteria.Proofs.Selection.Run

/-!
# The life of a selection

A selection moves from unvalidated over validated and compiled to applied, or from unvalidated to
invalid; a call may take several of these steps at once, or none.  Nothing leads back
(`Stage.Reaches.eq_or_rank_lt`), and what a stage has stored, an error or a predicate, is in every
stage that comes after it.  `run_reaches` carries this over from one call to any number of calls,
each under a configuration of its own.
-/

namespace Criteria

namespace Stage

/-- The error that a stage has stored, if it has one. -/
def error? : Stage → Option Error
  | .invalid messages => some (.invalidFilters messages)
  | _ => none

/-- One step forward, from a stage to the next. -/
inductive Advance : Stage → Stage → Prop where
  | validated : Advance .unvalidated .validated
  | invalid (messages : List String) : Advance .unvalidated (.invalid messages)
  | compiled (predicate : Predicate) : Advance .validated (.compiled predicate)
  | applied (predicate : Predicate) : Advance (.compiled predicate) (.applied predicate)

/-- Any number of steps forward. -/
def Reaches : Stage → Stage → Prop :=
  Relation.ReflTransGen Advance

/-- How many steps lead to a stage. -/
def rank : Stage → Nat
  | .unvalidated => 0
  | .validated | .invalid _ => 1
  | .compiled _ => 2
  | .applied _ => 3

variable {first last : Stage}

theorem Advance.rank_lt (advance : Advance first last) : first.rank < last.rank := by
  cases advance with
  | validated | invalid messages | compiled predicate | applied predicate => simp [rank]

/-- There is no way back: a later stage is the same or of a higher rank. -/
theorem Reaches.eq_or_rank_lt (reaches : Reaches first last) :
    first = last ∨ first.rank < last.rank := by
  induction reaches with
  | refl => exact Or.inl rfl
  | tail _ advance induction =>
      right
      rcases induction with rfl | earlier
      · exact advance.rank_lt
      · exact Nat.lt_trans earlier advance.rank_lt

/-- A predicate that is stored is stored for good. -/
theorem Reaches.predicate?_eq
    (reaches : Reaches first last) {predicate : Predicate}
    (stored : first.predicate? = some predicate) :
    last.predicate? = some predicate := by
  induction reaches with
  | refl => exact stored
  | tail _ advance induction =>
      cases advance with
      | validated | invalid messages | compiled other => simp [predicate?] at induction
      | applied other => exact induction

theorem error?_eq_some_iff {stage : Stage} {error : Error} :
    stage.error? = some error ↔
      ∃ messages, stage = .invalid messages ∧ error = .invalidFilters messages := by
  cases stage <;> simp [error?, eq_comm]

theorem isSome_error?_iff (stage : Stage) :
    stage.error?.isSome ↔ stage.name = "invalid" := by
  cases stage <;> simp [error?, name]

theorem isSome_predicate?_iff (stage : Stage) :
    stage.predicate?.isSome ↔ stage.name = "compiled" ∨ stage.name = "applied" := by
  cases stage <;> simp [predicate?, name]

end Stage

namespace Selection

section Machine

variable [Machine] {selection : Selection}

/-! ## One call -/

omit [Machine] in
theorem checked_reaches (stage : Stage) : stage.Reaches stage.checked := by
  cases stage with
  | unvalidated => exact .single .validated
  | validated | invalid messages | compiled stored | applied stored => exact .refl

omit [Machine] in
/-- A call moves a selection of valid filters forward, if anywhere. -/
theorem advance_reaches
    {stage : Stage} {predicate : Predicate}
    (proper : ∀ messages, stage ≠ .invalid messages)
    (same : ∀ stored, stage.predicate? = some stored → stored = predicate) (call : Call) :
    stage.Reaches (call.advance predicate stage) := by
  have validated : Stage.Reaches .unvalidated .validated := .single .validated
  have compiled : Stage.Reaches .validated (.compiled predicate) := .single (.compiled predicate)
  have applied : Stage.Reaches (.compiled predicate) (.applied predicate) :=
    .single (.applied predicate)
  cases stage with
  | invalid messages => exact absurd rfl (proper messages)
  | unvalidated =>
      cases call with
      | validate => exact validated
      | predicate => exact validated.trans compiled
      | apply statement => exact (validated.trans compiled).trans applied
  | validated =>
      cases call with
      | validate => exact .refl
      | predicate => exact compiled
      | apply statement => exact compiled.trans applied
  | compiled stored =>
      rcases same stored rfl with rfl
      cases call with
      | validate | predicate => exact .refl
      | apply statement => exact applied
  | applied stored =>
      rcases same stored rfl with rfl
      cases call <;> exact .refl

omit [Machine] in
/-- A stage that has stored nothing is on the way to being validated, and then compiled. -/
theorem reaches_of_nothing_stored
    {stage : Stage} (missing : stage.predicate? = none)
    (proper : ∀ messages, stage ≠ .invalid messages) (predicate : Predicate) :
    stage.Reaches .validated ∧ stage.Reaches (.compiled predicate) := by
  have compiled : Stage.Reaches .validated (.compiled predicate) := .single (.compiled predicate)
  cases stage with
  | unvalidated => exact ⟨.single .validated, .head .validated compiled⟩
  | validated => exact ⟨.refl, compiled⟩
  | invalid messages => exact absurd rfl (proper messages)
  | compiled stored | applied stored => cases missing

omit [Machine] in
/-- A call that answers with a predicate leaves it stored. -/
theorem predicate?_advance
    {stage : Stage} {predicate : Predicate}
    (same : ∀ stored, stage.predicate? = some stored → stored = predicate)
    {call : Call} (asked : call ≠ .validate) :
    (call.advance predicate stage).predicate? = some predicate := by
  cases call with
  | validate => exact absurd rfl asked
  | apply statement => rfl
  | predicate =>
      cases stage with
      | unvalidated | validated | invalid messages | compiled stored => rfl
      | applied stored => exact congrArg some (same stored rfl)

/-- A call moves a selection forward, if anywhere. -/
theorem perform_reaches (sound : selection.IsSound) (step : Step) :
    selection.stage.Reaches (selection.perform step).selection.stage := by
  cases sound.ending step with
  | validated _ _ performed =>
      rw [performed]
      exact checked_reaches selection.stage
  | answered predicate _ valid compiled _ _ performed =>
      rw [performed]
      exact advance_reaches (sound.stage_ne_invalid valid)
        (fun stored found => sound.stored_eq compiled found) step.call
  | unreported predicate valid _ missing _ _ performed =>
      rw [performed]
      exact (reaches_of_nothing_stored missing (sound.stage_ne_invalid valid) predicate).2
  | noRoom valid _ missing _ performed =>
      rw [performed]
      exact (reaches_of_nothing_stored missing (sound.stage_ne_invalid valid) .unrestricted).1
  | rejected messages _ _ stage performed =>
      rw [performed, stage]
      exact .single (.invalid messages)
  | refused messages _ performed =>
      rw [performed]
      exact .refl

/-- The error that a call ends in is stored, unless it is about room or about a report. -/
theorem error?_of_perform_error
    (sound : selection.IsSound) {step : Step} {error : Error}
    (failed : (selection.perform step).answer = .error error) :
    (selection.perform step).selection.stage.error? = some error ∨
      (error = .noRoom ∧ (selection.perform step).selection.stage.name = "validated") ∨
        error = .unnamedTable ∧ (selection.perform step).selection.stage.name = "compiled" := by
  cases sound.ending step with
  | validated _ _ performed =>
      rw [performed] at failed
      cases failed
  | answered predicate _ _ _ _ _ performed =>
      rw [performed] at failed
      cases failed
  | unreported predicate _ _ _ _ _ performed =>
      rw [performed] at failed ⊢
      cases failed
      exact .inr (.inr ⟨rfl, rfl⟩)
  | noRoom _ _ _ _ performed =>
      rw [performed] at failed ⊢
      cases failed
      exact .inr (.inl ⟨rfl, rfl⟩)
  | rejected messages _ _ _ performed =>
      rw [performed] at failed ⊢
      cases failed
      exact .inl rfl
  | refused messages stage performed =>
      rw [performed] at failed ⊢
      cases failed
      rw [stage]
      exact .inl rfl

/-- The predicate that a call answers with, or restricts its statement by, is stored. -/
theorem predicate?_of_perform_ok
    (sound : selection.IsSound) {step : Step} {reply : Reply}
    (answered : (selection.perform step).answer = .ok reply) :
    step.call = .validate ∨
      ∃ predicate, (selection.perform step).selection.stage.predicate? = some predicate ∧
        reply = step.call.reply predicate := by
  cases sound.ending step with
  | validated _ call _ => exact .inl call
  | answered predicate _ _ compiled _ call performed =>
      rw [performed] at answered ⊢
      cases answered
      exact .inr ⟨predicate, predicate?_advance (fun _ => sound.stored_eq compiled) call, rfl⟩
  | unreported predicate _ _ _ _ _ performed =>
      rw [performed] at answered
      cases answered
  | noRoom _ _ _ _ performed =>
      rw [performed] at answered
      cases answered
  | rejected messages _ _ _ performed =>
      rw [performed] at answered
      cases answered
  | refused messages _ performed =>
      rw [performed] at answered
      cases answered

/-- The first call finds a selection invalid exactly if it has an invalid filter. -/
theorem perform_invalid_iff
    (sound : selection.IsSound) (stage : selection.stage = .unvalidated)
    (step : Step) (checked : Config) :
    (selection.perform step).selection.stage.name = "invalid" ↔
      ∃ filter ∈ selection.filters, filter.validate checked ≠ [] := by
  have invalid_iff :
      (∃ filter ∈ selection.filters, filter.validate checked ≠ []) ↔
        ¬ ∀ filter ∈ selection.filters, filter.IsValid := by
    rw [← validate_eq_nil_iff _ checked]
    simp
  rw [invalid_iff]
  cases sound.ending step with
  | validated valid _ performed =>
      rw [performed, stage]
      exact iff_of_false (by simp [Stage.checked, Stage.name]) (not_not.mpr valid)
  | answered predicate _ valid _ _ _ performed =>
      rw [performed, stage]
      refine iff_of_false ?_ (not_not.mpr valid)
      cases step.call <;> simp [Call.advance, Stage.checked, Stage.name]
  | unreported predicate valid _ _ _ _ performed =>
      rw [performed]
      exact iff_of_false (by simp [Stage.name]) (not_not.mpr valid)
  | noRoom valid _ _ _ performed =>
      rw [performed]
      exact iff_of_false (by simp [Stage.name]) (not_not.mpr valid)
  | rejected messages found messages_eq _ performed =>
      rw [performed]
      refine iff_of_true rfl fun valid => ?_
      exact found (messages_eq.trans ((errorMessages_eq_nil_iff _ _).mpr valid))
  | refused messages already _ =>
      rw [stage] at already
      cases already

/-! ## Runs -/

/-- Any calls move a selection forward, if anywhere. -/
theorem run_reaches (sound : selection.IsSound) (steps : List Step) :
    selection.stage.Reaches (selection.run steps).stage := by
  induction steps generalizing selection with
  | nil => exact .refl
  | cons step rest induction =>
      have first := perform_reaches sound step
      have others := induction (sound.run [step])
      exact first.trans others

/-- A selection that is found invalid is the same after any calls. -/
theorem run_of_invalid
    {messages : List String} (stage : selection.stage = .invalid messages) (steps : List Step) :
    selection.run steps = selection := by
  induction steps with
  | nil => rfl
  | cons step rest induction =>
      calc
        selection.run (step :: rest) = (selection.perform step).selection.run rest := rfl
        _ = selection.run rest := by rw [perform_of_invalid stage]
        _ = selection := induction

end Machine

/--
What holds of a selection after some calls, and again after some more calls: it only moves forward,
an error is for good, and a predicate is the fold of the filters and for good.
-/
structure LifeCycle [Machine] (selection : Selection) (before later : List Step) : Prop where
  table_eq : (selection.run before).table = selection.table
  filters_eq : (selection.run before).filters = selection.filters
  forward : (selection.run before).stage.Reaches (selection.run (before ++ later)).stage
  no_return :
    ∀ more, (selection.run (before ++ later ++ more)).stage = (selection.run before).stage →
      (selection.run (before ++ later)).stage = (selection.run before).stage
  first_call :
    ∀ step checked, (selection.perform step).selection.stage.name = "invalid" ↔
      ∃ filter ∈ selection.filters, filter.validate checked ≠ []
  error_iff :
    (selection.run before).stage.error?.isSome ↔ (selection.run before).stage.name = "invalid"
  /-- An error is stored, unless it is about the room for a value or about a report. -/
  error_stored :
    ∀ step error, ((selection.run before).perform step).answer = .error error →
      ((selection.run before).perform step).selection.stage.error? = some error ∨
        (error = .noRoom ∧
          ((selection.run before).perform step).selection.stage.name = "validated") ∨
        error = .unnamedTable ∧
          ((selection.run before).perform step).selection.stage.name = "compiled"
  error_kept :
    ∀ error, (selection.run before).stage.error? = some error →
      ∀ step, (selection.run (before ++ later)).perform step =
        ⟨.error error, selection.run before, []⟩
  predicate_iff :
    (selection.run before).stage.predicate?.isSome ↔
      (selection.run before).stage.name = "compiled" ∨
        (selection.run before).stage.name = "applied"
  predicate_fold :
    ∀ predicate, (selection.run before).stage.predicate? = some predicate →
      ∃ leaves, LeavesFrom selection.table 0 selection.filters leaves ∧
        predicate = Predicate.joinAll .unrestricted (joinSteps selection.filters leaves)
  predicate_stored :
    ∀ step reply, ((selection.run before).perform step).answer = .ok reply →
      step.call = .validate ∨
        ∃ predicate,
          ((selection.run before).perform step).selection.stage.predicate? = some predicate ∧
          reply = step.call.reply predicate
  predicate_kept :
    ∀ predicate, (selection.run before).stage.predicate? = some predicate →
      (selection.run (before ++ later)).stage.predicate? = some predicate ∧
        ∀ step, ((selection.run (before ++ later)).perform step).answer =
          .ok (step.call.reply predicate)

/-- Every selection that is built keeps to the life cycle, whatever calls come before and after. -/
theorem run_lifeCycle [Machine]
    {table : Table} {criteria : List Criterion} {selection : Selection} {events : List Event}
    (built : build table criteria = .ok (selection, events)) (before later : List Step) :
    selection.LifeCycle before later := by
  have isBuilt := (build_eq_ok_iff.mp built).1
  have sound := isBuilt.isSound
  have reached := sound.run before
  have ended := sound.run (before ++ later)
  have forward : (selection.run before).stage.Reaches (selection.run (before ++ later)).stage := by
    rw [run_append]
    exact run_reaches reached later
  constructor
  case table_eq => exact run_table sound before
  case filters_eq => exact run_filters sound before
  case forward => exact forward
  case no_return =>
    intro more returned
    have onward := run_reaches ended more
    rw [← run_append, returned] at onward
    rcases forward.eq_or_rank_lt with same | earlier
    · exact same.symm
    · rcases onward.eq_or_rank_lt with same | later
      · exact same
      · exact absurd later (Nat.lt_asymm earlier)
  case first_call => exact perform_invalid_iff sound isBuilt.stage_eq
  case error_iff => exact Stage.isSome_error?_iff _
  case error_stored =>
    intro step error failed
    exact error?_of_perform_error reached failed
  case error_kept =>
    intro error stored step
    rcases Stage.error?_eq_some_iff.mp stored with ⟨messages, stage, rfl⟩
    rw [run_append, run_of_invalid stage, perform_of_invalid stage]
  case predicate_iff => exact Stage.isSome_predicate?_iff _
  case predicate_fold =>
    intro predicate stored
    have compiled := (reached.of_predicate? stored).1
    rw [run_table sound, run_filters sound] at compiled
    exact compile_eq_ok_iff.mp compiled
  case predicate_stored =>
    intro step reply answered
    exact predicate?_of_perform_ok reached answered
  case predicate_kept =>
    intro predicate stored
    have kept := forward.predicate?_eq stored
    refine ⟨kept, ?_⟩
    intro step
    rw [perform_of_stored ended kept]

/-- A selection that is compiled by the second of two calls, and applied by a third. -/
theorem run_lifeCycle_people :
    (peopleSelection.run
        [⟨⟨false, true, ⟨2024, 5, 6⟩⟩, .validate⟩,
          ⟨⟨true, false, ⟨2024, 5, 7⟩⟩, .predicate⟩]).stage.name = "compiled" ∧
      peopleSelection.LifeCycle
        [⟨⟨false, true, ⟨2024, 5, 6⟩⟩, .validate⟩, ⟨⟨true, false, ⟨2024, 5, 7⟩⟩, .predicate⟩]
        [⟨⟨true, true, ⟨2025, 1, 1⟩⟩, .apply (.select "people" ["name"])⟩] := by
  refine ⟨?_, ?_⟩
  · rfl
  · exact run_lifeCycle build_peopleCriteria _ _

end Selection

end Criteria
