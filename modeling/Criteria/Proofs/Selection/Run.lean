import Criteria.Proofs.Selection.Compilation

/-!
# Runs of calls

A selection is used by a sequence of calls, each under the configuration of its moment.  This module
says what one call does.  A selection with an invalid filter refuses it.  A selection of valid
filters answers it, unless there is no room for its values or its predicate cannot be written for
the report of it; `Ending` lists all that can happen, and `IsSound.ending` says that nothing else
does.  What a stage says about the filters (`Selection.IsSound`) holds after construction, is kept
by every call, and so holds after every run.  So a selection of valid filters answers after any
calls exactly if nothing hinders it (`IsBuiltFrom.exists_predicate_iff`).
-/

namespace Criteria

/-- What a selection can be asked for. -/
inductive Call where
  | validate
  | predicate
  | apply (statement : Statement)

/-- What a call gives that is not refused. -/
inductive Reply where
  | valid
  | predicate (predicate : Predicate)
  | statement (statement : Statement)

/-- A call under the configuration of its moment. -/
structure Step where
  config : Config
  call : Call

/-- Changes the answer of a call, and nothing else that it gives. -/
def Outcome.map {α β : Type} (change : α → β) (outcome : Outcome α) : Outcome β :=
  ⟨outcome.answer.map change, outcome.selection, outcome.events⟩

/-- What a call gives on a selection of valid filters with the given predicate. -/
def Call.reply (predicate : Predicate) : Call → Reply
  | .validate => .valid
  | .predicate => .predicate predicate
  | .apply statement => .statement (statement.restrict predicate)

/-- Where validation brings a selection of valid filters. -/
def Stage.checked : Stage → Stage
  | .unvalidated => .validated
  | stage => stage

@[simp]
theorem Stage.predicate?_checked (stage : Stage) :
    stage.checked.predicate? = stage.predicate? := by
  cases stage <;> rfl

/-- Where a call brings a selection of valid filters with the given predicate. -/
def Call.advance (predicate : Predicate) : Call → Stage → Stage
  | .validate, stage => stage.checked
  | .predicate, .applied predicate => .applied predicate
  | .predicate, _ => .compiled predicate
  | .apply _, _ => .applied predicate

/-- What the stage of a selection says about its filters. -/
def Stage.Agrees [Machine] (table : Table) (filters : List Filter) : Stage → Prop
  | .unvalidated => True
  | .validated => ∀ filter ∈ filters, filter.IsValid
  | .invalid messages =>
      messages ≠ [] ∧ ∃ config, messages = Selection.errorMessages filters config
  | .compiled predicate | .applied predicate =>
      Selection.compile table filters = .ok predicate ∧ ∀ filter ∈ filters, filter.IsValid

/-- Whether a predicate can be written: its table has a name, or there is nothing to compare. -/
def Predicate.IsWritable (predicate : Predicate) (table : String) : Prop :=
  table ≠ "" ∨ predicate.leaves = []

instance (predicate : Predicate) (table : String) : Decidable (predicate.IsWritable table) :=
  inferInstanceAs (Decidable (_ ∨ _))

namespace Selection

section

variable [Machine]

/-- What a call gives, whichever call it is. -/
def perform (selection : Selection) (step : Step) : Outcome Reply :=
  match step.call with
  | .validate => (selection.validate step.config).map fun _ => .valid
  | .predicate => (selection.predicate step.config).map .predicate
  | .apply statement => (selection.apply step.config statement).map .statement

/-- The selection after some calls, whatever their answers. -/
def run (selection : Selection) (steps : List Step) : Selection :=
  steps.foldl (fun current step => (current.perform step).selection) selection

theorem run_append (selection : Selection) (first second : List Step) :
    selection.run (first ++ second) = (selection.run first).run second :=
  List.foldl_append

end

/-! ## Reports -/

theorem report_of_isWritable
    {table : Table} {predicate : Predicate} (writable : predicate.IsWritable table.name)
    (config : Config) :
    report table config predicate =
      .ok (if config.logPredicates then [.compiled (Sql.render table.name predicate).sql]
        else []) := by
  have written : Sql.write table.name predicate = .ok (Sql.render table.name predicate) := by
    rcases writable with named | silent
    · simp [Sql.write, named]
    · simp [Sql.write, silent]
  rw [report, written]
  split <;> rfl

theorem report_of_not_isWritable
    {table : Table} {predicate : Predicate} (unwritable : ¬ predicate.IsWritable table.name)
    (config : Config) :
    report table config predicate =
      if config.logPredicates then .error .unnamedTable else .ok [] := by
  have refused : Sql.write table.name predicate = .error .unnamedTable := by
    rw [Predicate.IsWritable, not_or, not_not] at unwritable
    simp [Sql.write, unwritable]
  rw [report, refused]
  rfl

/-- A predicate is reported if that is asked for, and then it has to be one that can be written. -/
theorem report_eq_ok_iff
    {table : Table} {config : Config} {predicate : Predicate} {events : List Event} :
    report table config predicate = .ok events ↔
      (config.logPredicates = true → predicate.IsWritable table.name) ∧
        events =
          if config.logPredicates then [.compiled (Sql.render table.name predicate).sql]
          else [] := by
  by_cases writable : predicate.IsWritable table.name
  · rw [report_of_isWritable writable, Except.ok.injEq, eq_comm]
    exact (and_iff_right fun _ => writable).symm
  · rw [report_of_not_isWritable writable, eq_comm (a := events)]
    cases config.logPredicates <;> simp [writable]

/-- A report that is asked for fails exactly if its predicate cannot be written. -/
theorem exists_report_iff {table : Table} {config : Config} {predicate : Predicate} :
    (∃ events, report table config predicate = .ok events) ↔
      (config.logPredicates = true → predicate.IsWritable table.name) := by
  simp only [report_eq_ok_iff, exists_and_left, exists_eq, and_true]

/-- A report fails only for want of a name. -/
theorem report_eq_error_iff
    {table : Table} {config : Config} {predicate : Predicate} {error : Error} :
    report table config predicate = .error error ↔
      config.logPredicates = true ∧ ¬ predicate.IsWritable table.name ∧
        error = .unnamedTable := by
  by_cases writable : predicate.IsWritable table.name
  · simp [report_of_isWritable writable, writable]
  · rw [report_of_not_isWritable writable]
    cases config.logPredicates <;> simp [writable, eq_comm]

/-! ## Validation -/

variable {selection : Selection}

/-- There are no messages exactly if all filters are valid. -/
theorem errorMessages_eq_nil_iff (filters : List Filter) (config : Config) :
    errorMessages filters config = [] ↔ ∀ filter ∈ filters, filter.IsValid := by
  have unrepeated (messages : List String) : messages.eraseDups = [] ↔ messages = [] := by
    cases messages with
    | nil => simp
    | cons message rest => simp [List.eraseDups_cons]
  simp only [errorMessages, unrepeated, List.filterMap_eq_nil_iff,
    Filter.errorMessage_eq_none_iff]

/-- Whether the filters are valid does not depend on the configuration. -/
theorem validate_eq_nil_iff (filters : List Filter) (config : Config) :
    (∀ filter ∈ filters, filter.validate config = []) ↔ ∀ filter ∈ filters, filter.IsValid := by
  simp only [Filter.validate_eq_nil_iff]

theorem validate_of_invalid
    {messages : List String} (stage : selection.stage = .invalid messages) (config : Config) :
    selection.validate config = ⟨.error (.invalidFilters messages), selection, []⟩ := by
  simp [validate, stage]

theorem validate_of_not_valid
    {config : Config} (stage : selection.stage = .unvalidated)
    (found : errorMessages selection.filters config ≠ []) :
    selection.validate config =
      ⟨.error (.invalidFilters (errorMessages selection.filters config)),
        { selection with stage := .invalid (errorMessages selection.filters config) },
        [.rejected selection.table.name (errorMessages selection.filters config).length]⟩ := by
  simp [validate, stage, found]

/-- Validation moves a selection of valid filters on and reports nothing. -/
theorem validate_of_valid
    (valid : ∀ filter ∈ selection.filters, filter.IsValid)
    (proper : ∀ messages, selection.stage ≠ .invalid messages) (config : Config) :
    selection.validate config =
      ⟨.ok (), { selection with stage := selection.stage.checked }, []⟩ := by
  rcases selection with ⟨table, filters, stage⟩
  have silent : errorMessages filters config = [] :=
    (errorMessages_eq_nil_iff _ _).mpr valid
  cases stage with
  | invalid messages => exact absurd rfl (proper messages)
  | unvalidated => simp [validate, silent, Stage.checked]
  | validated => rfl
  | compiled stored => rfl
  | applied stored => rfl

/-! ## Refusal -/

variable [Machine]

section Refusal

variable {config : Config} {error : Error}
  (refused : (selection.validate config).answer = .error error)

include refused

/-- Whatever validation fails with, the predicate is refused with. -/
theorem predicate_of_validate_error :
    selection.predicate config =
      ⟨.error error, (selection.validate config).selection,
        (selection.validate config).events⟩ := by
  simp [predicate, refused]

theorem apply_of_validate_error (statement : Statement) :
    selection.apply config statement =
      ⟨.error error, (selection.validate config).selection,
        (selection.validate config).events⟩ := by
  simp [apply, predicate_of_validate_error refused]

theorem perform_of_validate_error (call : Call) :
    selection.perform ⟨config, call⟩ =
      ⟨.error error, (selection.validate config).selection,
        (selection.validate config).events⟩ := by
  cases call with
  | validate => simp [perform, Outcome.map, refused, Except.map]
  | predicate =>
      simp [perform, Outcome.map, predicate_of_validate_error refused, Except.map]
  | apply statement =>
      simp [perform, Outcome.map, apply_of_validate_error refused, Except.map]

end Refusal

/-! ## One call -/

/-- The filters fit the table, and what the stage says about them is so. -/
structure IsSound (selection : Selection) : Prop where
  fits : ∀ filter ∈ selection.filters, filter.Fits selection.table
  stage : selection.stage.Agrees selection.table selection.filters

/-- A selection of valid filters was never found invalid. -/
theorem IsSound.stage_ne_invalid
    (sound : selection.IsSound) (valid : ∀ filter ∈ selection.filters, filter.IsValid)
    (messages : List String) :
    selection.stage ≠ .invalid messages := by
  intro stage
  have agrees := sound.stage
  rw [stage] at agrees
  rcases agrees with ⟨nonempty, config, rfl⟩
  exact nonempty ((errorMessages_eq_nil_iff _ _).mpr valid)

/-- What a stored predicate says about the filters. -/
theorem IsSound.of_predicate?
    (sound : selection.IsSound) {predicate : Predicate}
    (stored : selection.stage.predicate? = some predicate) :
    compile selection.table selection.filters = .ok predicate ∧
      ∀ filter ∈ selection.filters, filter.IsValid := by
  have agrees := sound.stage
  cases stage : selection.stage with
  | unvalidated | validated | invalid messages => simp [stage, Stage.predicate?] at stored
  | compiled present | applied present =>
      rw [stage] at agrees stored
      cases stored
      exact agrees

/-- The predicate that a selection has stored is the one that its filters compile to. -/
theorem IsSound.stored_eq
    (sound : selection.IsSound) {predicate stored : Predicate}
    (compiled : compile selection.table selection.filters = .ok predicate)
    (found : selection.stage.predicate? = some stored) :
    stored = predicate :=
  Except.ok.inj ((sound.of_predicate? found).1.symm.trans compiled)

/-- A selection whose filters do not compile has no predicate. -/
theorem IsSound.predicate?_eq_none
    (sound : selection.IsSound) {error : Error}
    (failed : compile selection.table selection.filters = .error error) :
    selection.stage.predicate? = none := by
  cases stored : selection.stage.predicate? with
  | none => rfl
  | some predicate => cases failed.symm.trans (sound.of_predicate? stored).1

/-- The events of a predicate that a selection answers with; one that it had is not reported. -/
def newsOf (selection : Selection) (config : Config) (predicate : Predicate) :
    Except Error (List Event) :=
  match selection.stage.predicate? with
  | some _ => .ok []
  | none => report selection.table config predicate

omit [Machine] in
/-- There is something in the way of the news only if the predicate is new. -/
theorem newsOf_eq_error_iff {config : Config} {predicate : Predicate} {error : Error} :
    selection.newsOf config predicate = .error error ↔
      selection.stage.predicate? = none ∧ config.logPredicates = true ∧
        ¬ predicate.IsWritable selection.table.name ∧ error = .unnamedTable := by
  rw [newsOf, ← report_eq_error_iff]
  cases selection.stage.predicate? <;> simp

/-- A selection that has a predicate answers with it, once that is reported. -/
theorem predicate_of_compiled
    (sound : selection.IsSound) (valid : ∀ filter ∈ selection.filters, filter.IsValid)
    {predicate : Predicate}
    (compiled : compile selection.table selection.filters = .ok predicate) (config : Config) :
    selection.predicate config =
      match selection.newsOf config predicate with
      | .ok events =>
          ⟨.ok predicate,
            { selection with stage := Call.predicate.advance predicate selection.stage }, events⟩
      | .error error =>
          ⟨.error error, { selection with stage := .compiled predicate }, []⟩ := by
  have checked := validate_of_valid valid (sound.stage_ne_invalid valid) config
  have same (stored : Predicate) (found : selection.stage.predicate? = some stored) :
      stored = predicate := sound.stored_eq compiled found
  rcases selection with ⟨table, filters, stage⟩
  simp only [Selection.predicate, checked]
  cases stage with
  | invalid messages => exact absurd rfl (sound.stage_ne_invalid valid messages)
  | unvalidated | validated =>
      simp only [Stage.checked, Stage.predicate?, compiled, newsOf, List.nil_append]
      cases report table config predicate <;> rfl
  | compiled stored | applied stored =>
      rcases same stored rfl with rfl
      rfl

/-- Without room for its values a selection is validated, but not compiled. -/
theorem predicate_of_not_compiled
    (sound : selection.IsSound) (valid : ∀ filter ∈ selection.filters, filter.IsValid)
    {error : Error}
    (failed : compile selection.table selection.filters = .error error) (config : Config) :
    selection.predicate config =
      ⟨.error error, { selection with stage := .validated }, []⟩ := by
  have agrees := sound.stage
  have checked := validate_of_valid valid (sound.stage_ne_invalid valid) config
  rcases selection with ⟨table, filters, stage⟩
  simp only [Selection.predicate, checked]
  cases stage with
  | invalid messages => exact absurd rfl (sound.stage_ne_invalid valid messages)
  | unvalidated | validated => simp only [Stage.checked, Stage.predicate?, failed]
  | compiled stored | applied stored => cases failed.symm.trans agrees.1

theorem apply_eq (config : Config) (statement : Statement) :
    selection.apply config statement =
      match (selection.predicate config).answer with
      | .error error =>
          ⟨.error error, (selection.predicate config).selection,
            (selection.predicate config).events⟩
      | .ok predicate =>
          ⟨.ok (statement.restrict predicate),
            { (selection.predicate config).selection with stage := .applied predicate },
            (selection.predicate config).events⟩ :=
  rfl

/-- A call that asks for a predicate fails where the predicate does. -/
theorem perform_of_predicate_error
    {step : Step} {error : Error} {after : Selection} {events : List Event}
    (failed : selection.predicate step.config = ⟨.error error, after, events⟩)
    (call : step.call ≠ .validate) : selection.perform step = ⟨.error error, after, events⟩ := by
  rcases step with ⟨config, asked⟩
  cases asked with
  | validate => exact absurd rfl call
  | predicate => simp only [perform, failed]; rfl
  | apply statement => simp only [perform, apply_eq, failed]; rfl

section Valid

variable (sound : selection.IsSound) (valid : ∀ filter ∈ selection.filters, filter.IsValid)
  {step : Step}

include sound valid

theorem perform_of_validate (call : step.call = .validate) :
    selection.perform step =
      ⟨.ok .valid, { selection with stage := selection.stage.checked }, []⟩ := by
  have checked := validate_of_valid valid (sound.stage_ne_invalid valid) step.config
  simp only [perform, call, checked]
  rfl

/-- A call that asks for the predicate is answered once the news of it is reported. -/
theorem perform_of_reported
    {predicate : Predicate} {events : List Event}
    (compiled : compile selection.table selection.filters = .ok predicate)
    (reported : selection.newsOf step.config predicate = .ok events)
    (call : step.call ≠ .validate) :
    selection.perform step =
      ⟨.ok (step.call.reply predicate),
        { selection with stage := step.call.advance predicate selection.stage }, events⟩ := by
  have answer := predicate_of_compiled sound valid compiled step.config
  rw [reported] at answer
  rcases step with ⟨config, asked⟩
  cases asked with
  | validate => exact absurd rfl call
  | predicate => simp only [perform, answer]; rfl
  | apply statement => simp only [perform, apply_eq, answer]; rfl

/-- A call fails if the news cannot be reported, but the predicate is stored. -/
theorem perform_of_unreported
    {predicate : Predicate} {error : Error}
    (compiled : compile selection.table selection.filters = .ok predicate)
    (reported : selection.newsOf step.config predicate = .error error)
    (call : step.call ≠ .validate) :
    selection.perform step =
      ⟨.error error, { selection with stage := .compiled predicate }, []⟩ := by
  have failed := predicate_of_compiled sound valid compiled step.config
  rw [reported] at failed
  exact perform_of_predicate_error failed call

/-- A call fails if the filters do not compile, and they are validated only. -/
theorem perform_of_not_compiled
    {error : Error} (failed : compile selection.table selection.filters = .error error)
    (call : step.call ≠ .validate) :
    selection.perform step =
      ⟨.error error, { selection with stage := .validated }, []⟩ :=
  perform_of_predicate_error (predicate_of_not_compiled sound valid failed step.config) call

end Valid

/-- A selection that was found invalid refuses every call, and stays as it is. -/
theorem perform_of_invalid
    {messages : List String} (stage : selection.stage = .invalid messages) (step : Step) :
    selection.perform step = ⟨.error (.invalidFilters messages), selection, []⟩ := by
  have refused := validate_of_invalid stage step.config
  rw [perform_of_validate_error (by rw [refused]), refused]

theorem perform_of_not_valid
    {step : Step} (stage : selection.stage = .unvalidated)
    (found : errorMessages selection.filters step.config ≠ []) :
    selection.perform step =
      ⟨.error (.invalidFilters (errorMessages selection.filters step.config)),
        { selection with stage := .invalid (errorMessages selection.filters step.config) },
        [.rejected selection.table.name
          (errorMessages selection.filters step.config).length]⟩ := by
  have refused := validate_of_not_valid stage found
  rw [perform_of_validate_error (by rw [refused]), refused]

theorem IsSound.stage_of_not_valid
    (sound : selection.IsSound) (notValid : ¬ ∀ filter ∈ selection.filters, filter.IsValid) :
    selection.stage = .unvalidated ∨ ∃ messages, selection.stage = .invalid messages := by
  have agrees := sound.stage
  cases stage : selection.stage with
  | unvalidated => exact Or.inl rfl
  | invalid messages => exact Or.inr ⟨messages, rfl⟩
  | validated =>
      rw [stage] at agrees
      exact absurd agrees notValid
  | compiled predicate | applied predicate =>
      rw [stage] at agrees
      exact absurd agrees.2 notValid

/-- All ways in which a call on a selection can end. -/
inductive Ending (selection : Selection) (step : Step) : Prop where
  /-- The filters are valid, and nothing else was asked. -/
  | validated
      (valid : ∀ filter ∈ selection.filters, filter.IsValid)
      (call : step.call = .validate)
      (performed : selection.perform step =
        ⟨.ok .valid, { selection with stage := selection.stage.checked }, []⟩)
  /-- The predicate is there, or is made now and reported if that is asked for. -/
  | answered (predicate : Predicate) (events : List Event)
      (valid : ∀ filter ∈ selection.filters, filter.IsValid)
      (compiled : compile selection.table selection.filters = .ok predicate)
      (reported : selection.newsOf step.config predicate = .ok events)
      (call : step.call ≠ .validate)
      (performed : selection.perform step =
        ⟨.ok (step.call.reply predicate),
          { selection with stage := step.call.advance predicate selection.stage }, events⟩)
  /-- The predicate is made now, but cannot be reported as is asked for. -/
  | unreported (predicate : Predicate)
      (valid : ∀ filter ∈ selection.filters, filter.IsValid)
      (compiled : compile selection.table selection.filters = .ok predicate)
      (missing : selection.stage.predicate? = none)
      (reported : report selection.table step.config predicate = .error .unnamedTable)
      (call : step.call ≠ .validate)
      (performed : selection.perform step =
        ⟨.error .unnamedTable, { selection with stage := .compiled predicate }, []⟩)
  /-- There is no room for the values of all filters. -/
  | noRoom
      (valid : ∀ filter ∈ selection.filters, filter.IsValid)
      (lack : ¬ ∀ filter ∈ selection.filters, filter.criterion.HasRoom)
      (missing : selection.stage.predicate? = none)
      (call : step.call ≠ .validate)
      (performed : selection.perform step =
        ⟨.error .noRoom, { selection with stage := .validated }, []⟩)
  /-- The filters are found to be not all valid. -/
  | rejected (messages : List String)
      (found : messages ≠ [])
      (messages_eq : messages = errorMessages selection.filters step.config)
      (stage : selection.stage = .unvalidated)
      (performed : selection.perform step =
        ⟨.error (.invalidFilters messages), { selection with stage := .invalid messages },
          [.rejected selection.table.name messages.length]⟩)
  /-- The filters were found to be not all valid before. -/
  | refused (messages : List String)
      (stage : selection.stage = .invalid messages)
      (performed : selection.perform step = ⟨.error (.invalidFilters messages), selection, []⟩)

/-- There is no other way for a call to end. -/
theorem IsSound.ending (sound : selection.IsSound) (step : Step) : selection.Ending step := by
  by_cases valid : ∀ filter ∈ selection.filters, filter.IsValid
  · by_cases call : step.call = .validate
    · exact .validated valid call (perform_of_validate sound valid call)
    · cases compiled : compile selection.table selection.filters with
      | error error =>
          have lack : ¬ ∀ filter ∈ selection.filters, filter.criterion.HasRoom := by
            rw [← exists_compile_iff sound.fits valid, ← exists_eq_error_iff]
            exact ⟨error, compiled⟩
          have failed : compile selection.table selection.filters = .error .noRoom :=
            compileOnto_of_not_hasRoom sound.fits valid lack .unrestricted 0
          exact .noRoom valid lack (sound.predicate?_eq_none failed) call
            (perform_of_not_compiled sound valid failed call)
      | ok predicate =>
          cases reported : selection.newsOf step.config predicate with
          | ok events =>
              exact .answered predicate events valid compiled reported call
                (perform_of_reported sound valid compiled reported call)
          | error error =>
              rcases newsOf_eq_error_iff.mp reported with ⟨missing, asked, unwritable, rfl⟩
              exact .unreported predicate valid compiled missing
                (report_eq_error_iff.mpr ⟨asked, unwritable, rfl⟩) call
                (perform_of_unreported sound valid compiled reported call)
  · rcases sound.stage_of_not_valid valid with stage | ⟨messages, stage⟩
    · have found : errorMessages selection.filters step.config ≠ [] :=
        fun silent => valid ((errorMessages_eq_nil_iff _ _).mp silent)
      exact .rejected _ found rfl stage (perform_of_not_valid stage found)
    · exact .refused messages stage (perform_of_invalid stage step)

/-- Once it has its predicate, a selection answers every call with it, and has nothing to report. -/
theorem perform_of_stored
    (sound : selection.IsSound) {predicate : Predicate}
    (stored : selection.stage.predicate? = some predicate) (step : Step) :
    selection.perform step =
      ⟨.ok (step.call.reply predicate),
        { selection with stage := step.call.advance predicate selection.stage }, []⟩ := by
  rcases sound.of_predicate? stored with ⟨compiled, valid⟩
  by_cases call : step.call = .validate
  · rw [perform_of_validate sound valid call, call]
    rfl
  · exact perform_of_reported sound valid compiled (by rw [newsOf, stored]) call

/-! ## Runs -/

theorem checked_agrees
    {table : Table} {filters : List Filter} (valid : ∀ filter ∈ filters, filter.IsValid)
    {stage : Stage} (agrees : stage.Agrees table filters) :
    stage.checked.Agrees table filters := by
  cases stage with
  | unvalidated => exact valid
  | validated | invalid messages | compiled stored | applied stored => exact agrees

theorem advance_agrees
    {table : Table} {filters : List Filter} {predicate : Predicate}
    (compiled : compile table filters = .ok predicate)
    (valid : ∀ filter ∈ filters, filter.IsValid)
    {stage : Stage} (agrees : stage.Agrees table filters) (call : Call) :
    (call.advance predicate stage).Agrees table filters := by
  cases call with
  | validate => exact checked_agrees valid agrees
  | predicate =>
      cases stage with
      | applied stored => exact agrees
      | unvalidated | validated | invalid messages | compiled stored => exact ⟨compiled, valid⟩
  | apply statement => exact ⟨compiled, valid⟩

/-- A call changes nothing but the stage, and what the new stage says is so. -/
theorem perform_sound (sound : selection.IsSound) (step : Step) :
    ∃ stage, (selection.perform step).selection = { selection with stage := stage } ∧
      stage.Agrees selection.table selection.filters := by
  cases sound.ending step with
  | validated valid _ performed =>
      rw [performed]
      exact ⟨_, rfl, checked_agrees valid sound.stage⟩
  | answered predicate _ valid compiled _ _ performed =>
      rw [performed]
      exact ⟨_, rfl, advance_agrees compiled valid sound.stage step.call⟩
  | unreported predicate valid compiled _ _ _ performed =>
      rw [performed]
      exact ⟨.compiled predicate, rfl, compiled, valid⟩
  | noRoom valid _ _ _ performed =>
      rw [performed]
      exact ⟨.validated, rfl, valid⟩
  | rejected messages found messages_eq _ performed =>
      rw [performed]
      exact ⟨.invalid messages, rfl, found, step.config, messages_eq⟩
  | refused messages _ performed =>
      rw [performed]
      exact ⟨selection.stage, rfl, sound.stage⟩

/-- What the stage says goes on to be so after a call. -/
theorem IsSound.perform (sound : selection.IsSound) (step : Step) :
    (selection.perform step).selection.IsSound := by
  rcases perform_sound sound step with ⟨stage, performed, agrees⟩
  rw [performed]
  exact ⟨sound.fits, agrees⟩

theorem perform_table (sound : selection.IsSound) (step : Step) :
    (selection.perform step).selection.table = selection.table := by
  rcases perform_sound sound step with ⟨stage, performed, _⟩
  rw [performed]

theorem perform_filters (sound : selection.IsSound) (step : Step) :
    (selection.perform step).selection.filters = selection.filters := by
  rcases perform_sound sound step with ⟨stage, performed, _⟩
  rw [performed]

/-- What the stage says goes on to be so after any calls. -/
theorem IsSound.run (sound : selection.IsSound) (steps : List Step) :
    (selection.run steps).IsSound := by
  induction steps generalizing selection with
  | nil => exact sound
  | cons step rest induction => exact induction (sound.perform step)

theorem run_table (sound : selection.IsSound) (steps : List Step) :
    (selection.run steps).table = selection.table := by
  induction steps generalizing selection with
  | nil => rfl
  | cons step rest induction =>
      exact (induction (sound.perform step)).trans (perform_table sound step)

theorem run_filters (sound : selection.IsSound) (steps : List Step) :
    (selection.run steps).filters = selection.filters := by
  induction steps generalizing selection with
  | nil => rfl
  | cons step rest induction =>
      exact (induction (sound.perform step)).trans (perform_filters sound step)

/-- A selection that was just built says nothing about its filters but that they fit. -/
theorem IsBuiltFrom.isSound
    {table : Table} {criteria : List Criterion}
    (built : selection.IsBuiltFrom table criteria) :
    selection.IsSound := by
  refine ⟨?_, ?_⟩
  · rw [built.table_eq]
    exact built.fits
  · rw [built.stage_eq]
    trivial

/-! ## What a selection answers -/

/--
That nothing keeps a selection of valid filters from answering.  Nothing does once it has a
predicate. Until then there has to be room for the values of all its filters, and if the predicate
is to be reported it has to be one that can be written.
-/
structure IsUnhindered (selection : Selection) (config : Config) : Prop where
  room : selection.stage.predicate? = none →
    ∀ filter ∈ selection.filters, filter.criterion.HasRoom
  writable : selection.stage.predicate? = none → config.logPredicates = true →
    ∀ predicate, compile selection.table selection.filters = .ok predicate →
      predicate.IsWritable selection.table.name

/-- Nothing hinders a selection that has its predicate. -/
theorem isUnhindered_of_predicate?
    {predicate : Predicate} (stored : selection.stage.predicate? = some predicate)
    (config : Config) : selection.IsUnhindered config := by
  constructor
  · rw [stored]
    exact nofun
  · rw [stored]
    exact nofun

/-- The news of a predicate can be reported unless its selection is hindered. -/
theorem exists_newsOf_iff
    (sound : selection.IsSound) (valid : ∀ filter ∈ selection.filters, filter.IsValid)
    {config : Config} {predicate : Predicate}
    (compiled : compile selection.table selection.filters = .ok predicate) :
    (∃ events, selection.newsOf config predicate = .ok events) ↔
      selection.IsUnhindered config := by
  have room := (exists_compile_iff sound.fits valid).mp ⟨predicate, compiled⟩
  cases stored : selection.stage.predicate? with
  | some present =>
      exact iff_of_true ⟨[], by rw [newsOf, stored]⟩ (isUnhindered_of_predicate? stored config)
  | none =>
      have news : selection.newsOf config predicate = report selection.table config predicate := by
        rw [newsOf, stored]
      rw [news, exists_report_iff]
      constructor
      · refine fun writable => ⟨fun _ => room, fun _ asked other same => ?_⟩
        rw [compiled] at same
        cases same
        exact writable asked
      · exact fun unhindered asked => unhindered.writable stored asked predicate compiled

/-- What a selection of valid filters answers with is its predicate, unless it is hindered. -/
theorem predicate_eq_ok_iff
    (sound : selection.IsSound) (valid : ∀ filter ∈ selection.filters, filter.IsValid)
    {config : Config} {predicate : Predicate} :
    (selection.predicate config).answer = .ok predicate ↔
      compile selection.table selection.filters = .ok predicate ∧
        selection.IsUnhindered config := by
  cases compiled : compile selection.table selection.filters with
  | error error =>
      rw [predicate_of_not_compiled sound valid compiled]
      simp
  | ok present =>
      rw [predicate_of_compiled sound valid compiled, ← exists_newsOf_iff sound valid compiled]
      cases selection.newsOf config present <;> simp

/-- A selection of valid filters answers exactly if nothing hinders it. -/
theorem exists_predicate_iff
    (sound : selection.IsSound) (valid : ∀ filter ∈ selection.filters, filter.IsValid)
    {config : Config} :
    (∃ predicate, (selection.predicate config).answer = .ok predicate) ↔
      selection.IsUnhindered config := by
  simp only [predicate_eq_ok_iff sound valid, exists_and_right]
  refine and_iff_right_of_imp fun unhindered => ?_
  cases stored : selection.stage.predicate? with
  | some predicate => exact ⟨predicate, (sound.of_predicate? stored).1⟩
  | none => exact (exists_compile_iff sound.fits valid).mpr (unhindered.room stored)

/-- A selection restricts a statement by the predicate that it answers with. -/
theorem apply_eq_ok_iff {config : Config} {statement restricted : Statement} :
    (selection.apply config statement).answer = .ok restricted ↔
      ∃ predicate, (selection.predicate config).answer = .ok predicate ∧
        statement.restrict predicate = restricted := by
  rw [apply_eq]
  cases (selection.predicate config).answer with
  | error error => simp
  | ok predicate => simp

section Built

variable {table : Table} {criteria : List Criterion} (built : selection.IsBuiltFrom table criteria)
  {checked : Config} (valid : ∀ filter ∈ selection.filters, filter.validate checked = [])
  {before : List Step} {config : Config}

include built

/-- Nothing ever hinders a selection with room for its values, on a table with a name. -/
theorem IsBuiltFrom.isUnhindered
    (room : ∀ filter ∈ selection.filters, filter.criterion.HasRoom) (named : table.name ≠ "") :
    (selection.run before).IsUnhindered config where
  room _ := by
    rw [run_filters built.isSound]
    exact room
  writable _ _ _ _ := by
    rw [run_table built.isSound, built.table_eq]
    exact .inl named

include valid

theorem IsBuiltFrom.valid_run : ∀ filter ∈ (selection.run before).filters, filter.IsValid := by
  rw [run_filters built.isSound]
  exact (validate_eq_nil_iff _ checked).mp valid

/-- After any calls a selection of valid filters answers exactly if nothing hinders it. -/
theorem IsBuiltFrom.answers_iff :
    (∃ predicate, ((selection.run before).predicate config).answer = .ok predicate) ↔
      (selection.run before).IsUnhindered config :=
  exists_predicate_iff (built.isSound.run before) (built.valid_run valid)

/-- What a selection answers with after any calls is the predicate of its filters. -/
theorem IsBuiltFrom.compile_of_answer {predicate : Predicate}
    (answered : ((selection.run before).predicate config).answer = .ok predicate) :
    compile table selection.filters = .ok predicate := by
  have sound := built.isSound
  have compiled := ((predicate_eq_ok_iff (sound.run before) (built.valid_run valid)).mp answered).1
  rwa [run_table sound, run_filters sound, built.table_eq] at compiled

end Built

end Selection

end Criteria
