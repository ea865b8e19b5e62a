import Criteria.Proofs.Filter.Violations
import Criteria.Proofs.Selection.LifeCycle

/-!
# What the configuration can change

The configuration of the moment is read where messages are worded and events
are reported, which is in the middle of validation and compilation.  An
observation holds all that a call shows beside the wording: which kinds of
violations each filter has, the answer with its text and parameters, and the
stage.

Two runs of the same calls from the same criteria show the same, whatever the
configurations were, as long as the predicate can be written
(`transcript_eq_iff_of_sameCalls`).  If it cannot be, then the call that makes
it fails where its report is asked for, and answers where it is not.  Nothing
else that differs can be seen (`Observation.Resembles`).
-/

namespace Criteria

/-! ## What is left without the wording -/

/-- The error without the messages of filters. -/
def Error.unworded : Error → Error
  | .invalidFilters _ => .invalidFilters []
  | error => error

/-- The stage without the messages of filters. -/
def Stage.unworded : Stage → Stage
  | .invalid _ => .invalid []
  | stage => stage

/-- The text and the parameters of what a call gives, if it can be written. -/
def Reply.written? (table : String) : Reply → Option (Except Error Sql.Rendered)
  | .valid => none
  | .predicate answered => some (Sql.write table answered)
  | .statement restricted => some restricted.write

theorem Stage.predicate?_unworded (stage : Stage) :
    stage.unworded.predicate? = stage.predicate? := by
  cases stage <;> rfl

/-- All that a call shows, but for the wording of messages and for reports. -/
structure Observation where
  /-- The kinds of violations of each filter. -/
  kinds : List (List ViolationKind)
  answer : Except Error Reply
  written? : Option (Except Error Sql.Rendered)
  stage : Stage

/-- Two stages that differ in wording, or in that one is already applied. -/
inductive Stage.Resembles (first second : Stage) : Prop where
  | unworded (same : first.unworded = second.unworded)
  | stored (predicate : Predicate)
      (first : first.predicate? = some predicate)
      (second : second.predicate? = some predicate)

/-- Two observations that differ only where the report of a predicate failed. -/
structure Observation.Resembles (first second : Observation) : Prop where
  kinds : first.kinds = second.kinds
  answer : (first.answer = second.answer ∧ first.written? = second.written?) ∨
    first.answer = .error .unnamedTable ∨
    second.answer = .error .unnamedTable
  stage : first.stage.Resembles second.stage

theorem Observation.Resembles.of_eq
    {first second : Observation} (same : first = second) : first.Resembles second :=
  same ▸ ⟨rfl, .inl ⟨rfl, rfl⟩, .unworded rfl⟩

/-- Whether a call asks for the predicate. -/
def Call.asksPredicate : Call → Bool
  | .validate => false
  | .predicate | .apply _ => true

theorem Call.asksPredicate_iff {call : Call} :
    call.asksPredicate = true ↔ call ≠ .validate := by
  cases call <;> simp [asksPredicate]

/-- Two runs of the same calls, each call under a configuration of its own in each run. -/
inductive SameCalls : List Step → List Step → Prop where
  | nil : SameCalls [] []
  | cons (call : Call) (firstConfig secondConfig : Config) {first second : List Step}
      (rest : SameCalls first second) :
      SameCalls (⟨firstConfig, call⟩ :: first) (⟨secondConfig, call⟩ :: second)

theorem SameCalls.of_map_eq
    {first second : List Step} (same : first.map Step.call = second.map Step.call) :
    SameCalls first second := by
  induction first generalizing second with
  | nil =>
      rw [List.map_eq_nil_iff.mp same.symm]
      exact .nil
  | cons firstStep rest induction =>
      cases second with
      | nil => cases same
      | cons secondStep others =>
          rcases firstStep with ⟨firstConfig, call⟩
          rcases secondStep with ⟨secondConfig, secondCall⟩
          rw [List.map_cons, List.map_cons, List.cons.injEq] at same
          rcases same with ⟨rfl, restSame⟩
          exact .cons call firstConfig secondConfig (induction restSame)

theorem SameCalls.length_eq {first second : List Step} (same : SameCalls first second) :
    first.length = second.length := by
  induction same with
  | nil => rfl
  | cons call firstConfig secondConfig rest induction =>
      rw [List.length_cons, List.length_cons, induction]

/-- Whether the first call that asks for the predicate asks for its report. -/
def reportAsked? : List Step → Option Bool
  | [] => none
  | step :: rest =>
      if step.call.asksPredicate then some step.config.logPredicates
      else reportAsked? rest

namespace Selection

section Machine

variable [Machine]

/-- What is observed of a call. -/
def observe (selection : Selection) (step : Step) : Observation :=
  let outcome := selection.perform step
  { kinds := selection.filters.map fun filter =>
      filter.violationKinds step.config
    answer := outcome.answer.mapError Error.unworded
    written? := outcome.answer.toOption.bind fun reply =>
      reply.written? selection.table.name
    stage := outcome.selection.stage.unworded }

/-- What is observed of one call after another. -/
def observations (selection : Selection) : List Step → List Observation
  | [] => []
  | step :: rest =>
      selection.observe step ::
        observations (selection.perform step).selection rest

/-- What is observed of a construction and of the calls after it. -/
def transcript (table : Table) (criteria : List Criterion) (steps : List Step) :
    Except Error (List Observation) :=
  (build table criteria).map fun built => built.1.observations steps

/-! ## One call -/

variable {selection : Selection}

/-- What is observed of a call is what comes of it, whatever the configuration. -/
theorem observe_congr
    {call : Call} {firstConfig secondConfig : Config}
    (answer : (selection.perform ⟨firstConfig, call⟩).answer =
      (selection.perform ⟨secondConfig, call⟩).answer)
    (after : (selection.perform ⟨firstConfig, call⟩).selection =
      (selection.perform ⟨secondConfig, call⟩).selection) :
    selection.observe ⟨firstConfig, call⟩ =
      selection.observe ⟨secondConfig, call⟩ := by
  have kinds :
      (selection.filters.map fun filter => filter.violationKinds firstConfig) =
        selection.filters.map fun filter => filter.violationKinds secondConfig :=
    List.map_congr_left fun filter _ => filter.violationKinds_eq _ _
  simp only [observe, answer, after, kinds]

/-- All that a call on an invalid selection shows is the same refusal. -/
theorem observe_of_not_valid
    (sound : selection.IsSound)
    (notValid : ¬ ∀ filter ∈ selection.filters, filter.IsValid) (step : Step) :
    selection.observe step =
      ⟨selection.filters.map fun filter => filter.violationKinds step.config,
        .error (.invalidFilters []), none, .invalid []⟩ := by
  cases sound.ending step with
  | validated valid _ _ => exact absurd valid notValid
  | answered _ _ valid _ _ _ _ => exact absurd valid notValid
  | unreported _ valid _ _ _ _ _ => exact absurd valid notValid
  | noRoom valid _ _ _ _ => exact absurd valid notValid
  | rejected messages _ _ _ performed =>
      rw [observe, performed]
      rfl
  | refused messages stage performed =>
      rw [observe, performed]
      simp only [stage]
      rfl

/-! ## Valid filters -/

section Valid

variable (sound : selection.IsSound)
  (valid : ∀ filter ∈ selection.filters, filter.IsValid)

include sound valid

/-- Under configurations that hinder a selection alike, a call comes to the same. -/
theorem perform_eq_of_valid
    {call : Call} {firstConfig secondConfig : Config}
    (alike : call ≠ .validate →
      (selection.IsUnhindered firstConfig ↔ selection.IsUnhindered secondConfig)) :
    (selection.perform ⟨firstConfig, call⟩).answer =
        (selection.perform ⟨secondConfig, call⟩).answer ∧
      (selection.perform ⟨firstConfig, call⟩).selection =
        (selection.perform ⟨secondConfig, call⟩).selection := by
  by_cases isValidate : call = .validate
  · rw [perform_of_validate sound valid isValidate, perform_of_validate sound valid isValidate]
    exact ⟨rfl, rfl⟩
  · cases compiled : compile selection.table selection.filters with
    | error error =>
        rw [perform_of_not_compiled sound valid compiled isValidate,
          perform_of_not_compiled sound valid compiled isValidate]
        exact ⟨rfl, rfl⟩
    | ok predicate =>
        have both := alike isValidate
        rw [← exists_newsOf_iff sound valid compiled,
          ← exists_newsOf_iff sound valid compiled] at both
        cases first : selection.newsOf firstConfig predicate with
        | ok firstEvents =>
            rcases both.mp ⟨_, first⟩ with ⟨secondEvents, second⟩
            rw [perform_of_reported sound valid compiled first isValidate,
              perform_of_reported sound valid compiled second isValidate]
            exact ⟨rfl, rfl⟩
        | error firstError =>
            have none : ¬ ∃ events, selection.newsOf secondConfig predicate = .ok events := by
              rw [← both, first]
              exact nofun
            rcases exists_eq_error_iff.mpr none with ⟨secondError, second⟩
            have sameError : firstError = secondError := by
              rw [(newsOf_eq_error_iff.mp first).2.2.2, (newsOf_eq_error_iff.mp second).2.2.2]
            rw [perform_of_unreported sound valid compiled first isValidate,
              perform_of_unreported sound valid compiled second isValidate, sameError]
            exact ⟨rfl, rfl⟩

/-- A call that asks for the predicate stores it, also if it cannot report it. -/
theorem predicate?_perform
    {predicate : Predicate}
    (compiled : compile selection.table selection.filters = .ok predicate)
    {step : Step} (call : step.call ≠ .validate) :
    (selection.perform step).selection.stage.predicate? = some predicate := by
  cases reported : selection.newsOf step.config predicate with
  | ok events =>
      rw [perform_of_reported sound valid compiled reported call]
      exact predicate?_advance (fun _ => sound.stored_eq compiled) call
  | error error =>
      rw [perform_of_unreported sound valid compiled reported call]
      rfl

/-- A call that is hindered fails for want of a name, once the filters compile. -/
theorem answer_perform_of_hindered
    {predicate : Predicate}
    (compiled : compile selection.table selection.filters = .ok predicate)
    {step : Step} (call : step.call ≠ .validate)
    (hindered : ¬ selection.IsUnhindered step.config) :
    (selection.perform step).answer = .error .unnamedTable := by
  rw [← exists_newsOf_iff sound valid compiled, ← exists_eq_error_iff] at hindered
  rcases hindered with ⟨error, reported⟩
  rw [perform_of_unreported sound valid compiled reported call,
    (newsOf_eq_error_iff.mp reported).2.2.2]

end Valid

/-! ## The same in spite of the configuration -/

/-- That a selection has its predicate, or will have none but one that can be written. -/
def IsDecided (selection : Selection) : Prop :=
  (∃ predicate, selection.stage.predicate? = some predicate) ∨
    ∀ predicate, compile selection.table selection.filters = .ok predicate →
      predicate.IsWritable selection.table.name

/-- Once it is decided, no configuration hinders a selection that another one does not. -/
theorem IsDecided.isUnhindered_iff
    (decided : selection.IsDecided) (firstConfig secondConfig : Config) :
    selection.IsUnhindered firstConfig ↔ selection.IsUnhindered secondConfig := by
  have onward {config other : Config} (unhindered : selection.IsUnhindered config) :
      selection.IsUnhindered other := by
    refine ⟨unhindered.room, fun missing _ => ?_⟩
    rcases decided with ⟨predicate, stored⟩ | writable
    · cases stored.symm.trans missing
    · exact writable
  exact ⟨onward, onward⟩

/-- What is decided stays so. -/
theorem IsDecided.perform
    (decided : selection.IsDecided) (sound : selection.IsSound) (step : Step) :
    (selection.perform step).selection.IsDecided := by
  rcases decided with ⟨predicate, stored⟩ | writable
  · exact .inl ⟨predicate, (perform_reaches sound step).predicate?_eq stored⟩
  · right
    rw [perform_table sound, perform_filters sound]
    exact writable

/-- Once its predicate was asked for, a selection is decided. -/
theorem isDecided_perform
    (sound : selection.IsSound)
    (valid : ∀ filter ∈ selection.filters, filter.IsValid)
    {step : Step} (call : step.call ≠ .validate) :
    (selection.perform step).selection.IsDecided := by
  cases compiled : compile selection.table selection.filters with
  | ok predicate => exact .inl ⟨predicate, predicate?_perform sound valid compiled call⟩
  | error error =>
      right
      rw [perform_table sound, perform_filters sound, compiled]
      exact nofun

/-- Configurations that ask for the same reports hinder a selection alike. -/
theorem isUnhindered_iff_of_logPredicates_eq
    {firstConfig secondConfig : Config}
    (same : firstConfig.logPredicates = secondConfig.logPredicates) :
    selection.IsUnhindered firstConfig ↔ selection.IsUnhindered secondConfig := by
  constructor
  · exact fun unhindered =>
      ⟨unhindered.room, fun missing asked => unhindered.writable missing (same.trans asked)⟩
  · exact fun unhindered =>
      ⟨unhindered.room, fun missing asked => unhindered.writable missing (same.symm.trans asked)⟩

/-! ## Runs of calls -/

/-- An invalid selection shows the same at every call. -/
theorem observations_of_not_valid
    (sound : selection.IsSound)
    (notValid : ¬ ∀ filter ∈ selection.filters, filter.IsValid)
    (config : Config) (steps : List Step) :
    selection.observations steps =
      List.replicate steps.length
        ⟨selection.filters.map fun filter => filter.violationKinds config,
          .error (.invalidFilters []), none, .invalid []⟩ := by
  induction steps generalizing selection with
  | nil => rfl
  | cons step rest induction =>
      have kinds :
          (selection.filters.map fun filter => filter.violationKinds step.config) =
            selection.filters.map fun filter => filter.violationKinds config :=
        List.map_congr_left fun filter _ => filter.violationKinds_eq _ _
      have later := induction (sound.perform step) (by rwa [perform_filters sound])
      rw [observations, later, observe_of_not_valid sound notValid, kinds, perform_filters sound,
        List.length_cons, List.replicate_succ]

/-- A selection with an invalid filter shows its violations, and that it refuses every call. -/
theorem observations_eq_of_not_valid
    (sound : selection.IsSound)
    (notValid : ¬ ∀ filter ∈ selection.filters, filter.IsValid)
    {first second : List Step} (same : SameCalls first second) :
    selection.observations first = selection.observations second := by
  have shown := observations_of_not_valid sound notValid ⟨true, false, ⟨1, 1, 1⟩⟩
  rw [shown, shown, same.length_eq]

/-- Where the reports are asked for alike, the same calls on a valid selection show the same. -/
theorem observations_eq_of_valid
    (sound : selection.IsSound)
    (valid : ∀ filter ∈ selection.filters, filter.IsValid)
    {first second : List Step} (same : SameCalls first second)
    (agree : selection.IsDecided ∨ reportAsked? first = reportAsked? second) :
    selection.observations first = selection.observations second := by
  induction same generalizing selection with
  | nil => rfl
  | @cons call firstConfig secondConfig firstRest secondRest rest induction =>
      have alike (asks : call ≠ .validate) :
          selection.IsUnhindered firstConfig ↔ selection.IsUnhindered secondConfig := by
        rcases agree with decided | asked
        · exact decided.isUnhindered_iff firstConfig secondConfig
        · rw [reportAsked?, reportAsked?, if_pos (Call.asksPredicate_iff.mpr asks),
            if_pos (Call.asksPredicate_iff.mpr asks), Option.some.injEq] at asked
          exact isUnhindered_iff_of_logPredicates_eq asked
      rcases perform_eq_of_valid sound valid alike with ⟨answer, after⟩
      have later : (selection.perform ⟨firstConfig, call⟩).selection.IsDecided ∨
          reportAsked? firstRest = reportAsked? secondRest := by
        by_cases isValidate : call = .validate
        · subst isValidate
          exact agree.imp (fun decided => decided.perform sound _) id
        · exact .inl (isDecided_perform sound valid isValidate)
      have others := induction (sound.perform ⟨firstConfig, call⟩)
        (by rwa [perform_filters sound]) later
      rw [observations, observations, observe_congr answer after, others, after]

/-- A call that makes a predicate which cannot be written fails if it is to report it. -/
theorem answer_observe_iff
    (sound : selection.IsSound)
    (valid : ∀ filter ∈ selection.filters, filter.IsValid)
    (missing : selection.stage.predicate? = none) {predicate : Predicate}
    (compiled : compile selection.table selection.filters = .ok predicate)
    (unwritable : ¬ predicate.IsWritable selection.table.name)
    {step : Step} (call : step.call ≠ .validate) :
    (selection.observe step).answer = .error .unnamedTable ↔
      step.config.logPredicates = true := by
  constructor
  · intro failed
    by_contra silent
    have reported : selection.newsOf step.config predicate = .ok [] := by
      rw [newsOf, missing, report_of_not_isWritable unwritable, if_neg silent]
    rw [observe, perform_of_reported sound valid compiled reported call] at failed
    cases failed
  · intro asked
    have hindered : ¬ selection.IsUnhindered step.config :=
      fun unhindered => unwritable (unhindered.writable missing asked predicate compiled)
    rw [observe, answer_perform_of_hindered sound valid compiled call hindered]
    rfl

/-- A predicate that cannot be written shows whether its report is asked for. -/
theorem observations_ne
    (sound : selection.IsSound)
    (valid : ∀ filter ∈ selection.filters, filter.IsValid)
    (missing : selection.stage.predicate? = none) {predicate : Predicate}
    (compiled : compile selection.table selection.filters = .ok predicate)
    (unwritable : ¬ predicate.IsWritable selection.table.name)
    {first second : List Step} (same : SameCalls first second)
    (differ : reportAsked? first ≠ reportAsked? second) :
    selection.observations first ≠ selection.observations second := by
  induction same generalizing selection with
  | nil => exact absurd rfl differ
  | cons call firstConfig secondConfig rest induction =>
      intro shown
      rw [observations, observations, List.cons.injEq] at shown
      by_cases isValidate : call = .validate
      · subst isValidate
        -- Validation leaves both runs at one selection, still without a predicate.
        have after (config : Config) :
            (selection.perform ⟨config, .validate⟩).selection =
              { selection with stage := selection.stage.checked } := by
          rw [perform_of_validate sound valid rfl]
        have later := sound.perform ⟨firstConfig, .validate⟩
        rw [after, after] at shown
        rw [after] at later
        have stillMissing : selection.stage.checked.predicate? = none := by
          rw [Stage.predicate?_checked, missing]
        exact induction later valid stillMissing compiled unwritable differ shown.2
      · have answers := congrArg Observation.answer shown.1
        have asked (config : Config) :
            (selection.observe ⟨config, call⟩).answer = .error .unnamedTable ↔
              config.logPredicates = true :=
          answer_observe_iff sound valid missing compiled unwritable isValidate
        have flags : firstConfig.logPredicates = secondConfig.logPredicates := by
          rw [Bool.eq_iff_iff, ← asked, answers, asked]
        have asks := Call.asksPredicate_iff.mpr isValidate
        exact differ (by simp only [reportAsked?, asks, if_true, flags])

/--
The same calls on a selection that was just built show the same exactly if the report is asked for
alike, or if there is no predicate but one that can be written.
-/
theorem IsBuiltFrom.observations_eq_iff
    {table : Table} {criteria : List Criterion} (built : selection.IsBuiltFrom table criteria)
    {first second : List Step} (same : SameCalls first second) :
    selection.observations first = selection.observations second ↔
      reportAsked? first = reportAsked? second ∨
        ((∀ filter ∈ selection.filters, filter.IsValid) →
          ∀ predicate, compile table selection.filters = .ok predicate →
            predicate.IsWritable table.name) := by
  have sound := built.isSound
  constructor
  · intro shown
    refine or_iff_not_imp_left.mpr fun differ valid predicate compiled => ?_
    rw [← built.table_eq] at compiled ⊢
    by_contra unwritable
    have missing : selection.stage.predicate? = none := by
      rw [built.stage_eq]
      rfl
    exact observations_ne sound valid missing compiled unwritable same differ shown
  · intro agree
    by_cases valid : ∀ filter ∈ selection.filters, filter.IsValid
    · refine observations_eq_of_valid sound valid same ?_
      rcases agree with asked | writable
      · exact .inr asked
      · rw [IsDecided, built.table_eq]
        exact .inl (.inr (writable valid))
    · exact observations_eq_of_not_valid sound valid same

/-! ## Whatever is asked for -/

/-- Two selections that can differ only in that one is already applied. -/
inductive Alike (first second : Selection) : Prop where
  | same (same : first = second)
  | stored (predicate : Predicate)
      (table_eq : first.table = second.table)
      (filters_eq : first.filters = second.filters)
      (first : first.stage.predicate? = some predicate)
      (second : second.stage.predicate? = some predicate)

section Alike

variable {first second : Selection} {call : Call} {firstConfig secondConfig : Config}

/-- Where both runs have stored a predicate, what they show differs by an answer at most. -/
theorem observe_resembles
    (filters_eq : first.filters = second.filters) {predicate : Predicate}
    (firstStored :
      (first.perform ⟨firstConfig, call⟩).selection.stage.predicate? = some predicate)
    (secondStored :
      (second.perform ⟨secondConfig, call⟩).selection.stage.predicate? = some predicate)
    (answer : ((first.observe ⟨firstConfig, call⟩).answer =
          (second.observe ⟨secondConfig, call⟩).answer ∧
        (first.observe ⟨firstConfig, call⟩).written? =
          (second.observe ⟨secondConfig, call⟩).written?) ∨
      (first.observe ⟨firstConfig, call⟩).answer = .error .unnamedTable ∨
      (second.observe ⟨secondConfig, call⟩).answer = .error .unnamedTable) :
    (first.observe ⟨firstConfig, call⟩).Resembles (second.observe ⟨secondConfig, call⟩) where
  kinds := by
    rw [observe, observe, filters_eq]
    exact List.map_congr_left fun filter _ => filter.violationKinds_eq _ _
  answer := answer
  stage :=
    .stored predicate (by rw [observe, Stage.predicate?_unworded, firstStored])
      (by rw [observe, Stage.predicate?_unworded, secondStored])

/-- Under any two configurations one selection shows the same but for a failed report. -/
theorem observe_resembles_of_config
    (sound : selection.IsSound)
    (valid : ∀ filter ∈ selection.filters, filter.IsValid)
    (call : Call) (firstConfig secondConfig : Config) :
    (selection.observe ⟨firstConfig, call⟩).Resembles
        (selection.observe ⟨secondConfig, call⟩) ∧
      (selection.perform ⟨firstConfig, call⟩).selection.Alike
        (selection.perform ⟨secondConfig, call⟩).selection := by
  by_cases both : call ≠ .validate →
      (selection.IsUnhindered firstConfig ↔ selection.IsUnhindered secondConfig)
  · rcases perform_eq_of_valid sound valid both with ⟨answer, after⟩
    exact ⟨.of_eq (observe_congr answer after), .same after⟩
  · rw [Classical.not_imp] at both
    rcases both with ⟨asks, differ⟩
    cases compiled : compile selection.table selection.filters with
    | error error =>
        refine ⟨.of_eq (observe_congr ?_ ?_), .same ?_⟩ <;>
          rw [perform_of_not_compiled sound valid compiled asks,
            perform_of_not_compiled sound valid compiled asks]
    | ok predicate =>
        have stored (config : Config) :
            (selection.perform ⟨config, call⟩).selection.stage.predicate? = some predicate :=
          predicate?_perform sound valid compiled asks
        have failed {config : Config} (hindered : ¬ selection.IsUnhindered config) :
            (selection.observe ⟨config, call⟩).answer = .error .unnamedTable := by
          rw [observe, answer_perform_of_hindered sound valid compiled asks hindered]
          rfl
        refine ⟨observe_resembles rfl (stored _) (stored _) (.inr ?_),
          .stored predicate ?_ ?_ (stored _) (stored _)⟩
        · by_cases unhindered : selection.IsUnhindered firstConfig
          · have hindered : ¬ selection.IsUnhindered secondConfig :=
              fun other => differ (iff_of_true unhindered other)
            exact .inr (failed hindered)
          · exact .inl (failed unhindered)
        · rw [perform_table sound, perform_table sound]
        · rw [perform_filters sound, perform_filters sound]

/-- One call keeps selections alike, whatever the two configurations are. -/
theorem Alike.perform
    (alike : first.Alike second) (firstSound : first.IsSound) (secondSound : second.IsSound)
    (valid : ∀ filter ∈ first.filters, filter.IsValid)
    (call : Call) (firstConfig secondConfig : Config) :
    (first.observe ⟨firstConfig, call⟩).Resembles (second.observe ⟨secondConfig, call⟩) ∧
      (first.perform ⟨firstConfig, call⟩).selection.Alike
        (second.perform ⟨secondConfig, call⟩).selection := by
  cases alike with
  | same same =>
      subst same
      exact observe_resembles_of_config firstSound valid call firstConfig secondConfig
  | stored predicate table_eq filters_eq firstStored secondStored =>
      have firstKept := (perform_reaches firstSound ⟨firstConfig, call⟩).predicate?_eq firstStored
      have secondKept :=
        (perform_reaches secondSound ⟨secondConfig, call⟩).predicate?_eq secondStored
      refine ⟨observe_resembles filters_eq firstKept secondKept (.inl ?_),
        .stored predicate ?_ ?_ firstKept secondKept⟩
      · simp only [observe, perform_of_stored firstSound firstStored,
          perform_of_stored secondSound secondStored, table_eq, and_self]
      · rw [perform_table firstSound, perform_table secondSound, table_eq]
      · rw [perform_filters firstSound, perform_filters secondSound, filters_eq]

/-- The same calls on selections that are alike show what resembles each other. -/
theorem Alike.observations
    (alike : first.Alike second) (firstSound : first.IsSound) (secondSound : second.IsSound)
    (valid : ∀ filter ∈ first.filters, filter.IsValid)
    {firstSteps secondSteps : List Step} (same : SameCalls firstSteps secondSteps) :
    List.Forall₂ Observation.Resembles
      (first.observations firstSteps) (second.observations secondSteps) := by
  induction same generalizing first second with
  | nil => exact .nil
  | cons call firstConfig secondConfig rest induction =>
      rcases alike.perform firstSound secondSound valid call firstConfig secondConfig with
        ⟨here, after⟩
      exact .cons here <|
        induction after (firstSound.perform _) (secondSound.perform _)
          (by rwa [perform_filters firstSound])

end Alike

end Machine

/-- A value that is no date, on a column whose field name differs from its name. -/
def undated : Filter :=
  ⟨⟨⟨"born_on", .date⟩, .greaterThan, false, some "soon", none, none⟩, .date⟩

/-- A validation and a request for the predicate, each under its own configuration. -/
def undatedSteps (first second : Config) : List Step :=
  [⟨first, .validate⟩, ⟨second, .predicate⟩]

end Selection

end Criteria
