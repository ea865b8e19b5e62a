import Criteria.Proofs.Selection.LifeCycle

/-!
# What is reported, and how often

Events are reported inside calls that go through one another, that may find their work done, and
that may end early.  What a call reports depends all the same only on the stages before and after it
(`events_perform`): it has something to report if it settles what becomes of the selection, by
finding it invalid or by compiling it.  A selection is settled at most once, so of all the calls on
it at most one reports anything (`reports_of_settling`), beside the report of its construction.
-/

namespace Criteria

namespace Stage

/-- Nothing is settled yet: the selection is not invalid, and it has no predicate. -/
structure IsPending (stage : Stage) : Prop where
  noError : stage.error? = none
  noPredicate : stage.predicate? = none

instance (stage : Stage) : Decidable stage.IsPending :=
  decidable_of_iff (stage.error? = none ∧ stage.predicate? = none)
    ⟨fun both => ⟨both.1, both.2⟩, fun pending => ⟨pending.1, pending.2⟩⟩

/-- What is reported of a stage by the call that leads to it. -/
def news (table : String) (config : Config) : Stage → List Event
  | .unvalidated | .validated => []
  | .invalid messages => [.rejected table messages.length]
  | .compiled predicate | .applied predicate =>
      if config.logPredicates = true ∧ predicate.IsWritable table then
        [.compiled (Sql.render table predicate).sql]
      else []

theorem IsPending.news_eq {stage : Stage} (pending : stage.IsPending) (table : String)
    (config : Config) : stage.news table config = [] := by
  cases stage with
  | unvalidated | validated => rfl
  | invalid messages => cases pending.noError
  | compiled stored | applied stored => cases pending.noPredicate

/-- A stored predicate is news if it was to be reported and can be written. -/
theorem news_of_predicate? {stage : Stage} {predicate : Predicate}
    (stored : stage.predicate? = some predicate) (table : String) (config : Config) :
    stage.news table config =
      if config.logPredicates = true ∧ predicate.IsWritable table then
        [.compiled (Sql.render table predicate).sql]
      else [] := by
  cases stage with
  | unvalidated | validated | invalid messages => cases stored
  | compiled present | applied present =>
      cases stored
      rfl

/-- A report that succeeds is that of any stage with its predicate. -/
theorem news_of_report {stage : Stage} {predicate : Predicate}
    (stored : stage.predicate? = some predicate) {table : Table} {config : Config}
    {events : List Event} (reported : Selection.report table config predicate = .ok events) :
    stage.news table.name config = events := by
  rcases Selection.report_eq_ok_iff.mp reported with ⟨writable, rfl⟩
  rw [news_of_predicate? stored]
  refine if_congr (and_iff_left_of_imp writable) rfl rfl

/-- What is settled is either that the selection is invalid, or which predicate it has. -/
theorem not_isPending_iff {stage : Stage} :
    ¬ stage.IsPending ↔
      (∃ messages, stage = .invalid messages) ∨ ∃ predicate, stage.predicate? = some predicate := by
  constructor
  · intro settled
    cases stage with
    | unvalidated | validated => exact absurd ⟨rfl, rfl⟩ settled
    | invalid messages => exact .inl ⟨messages, rfl⟩
    | compiled stored | applied stored => exact .inr ⟨stored, rfl⟩
  · rintro (⟨messages, rfl⟩ | ⟨predicate, stored⟩) pending
    · cases pending.noError
    · cases stored.symm.trans pending.noPredicate

end Stage

namespace Selection

section Machine

variable [Machine]

/-- What a selection reports during some calls. -/
def reports (selection : Selection) : List Step → List Event
  | [] => []
  | step :: rest =>
      (selection.perform step).events ++ reports (selection.perform step).selection rest

/-- What is reported during a construction and the calls on what was constructed. -/
def history (constructed : Except Error (Selection × List Event)) (steps : List Step) :
    List Event :=
  match constructed with
  | .ok (selection, events) => events ++ selection.reports steps
  | .error _ => []

theorem reports_append (selection : Selection) (first second : List Step) :
    selection.reports (first ++ second) =
      selection.reports first ++ (selection.run first).reports second := by
  induction first generalizing selection with
  | nil => rfl
  | cons step rest hypothesis =>
      calc
        selection.reports (step :: rest ++ second) =
            (selection.perform step).events ++
              (selection.perform step).selection.reports (rest ++ second) := rfl
        _ = selection.reports (step :: rest) ++ (selection.run (step :: rest)).reports second := by
          rw [hypothesis, ← List.append_assoc]
          rfl

variable {selection : Selection}

/-! ## One call -/

theorem IsSound.isPending
    (sound : selection.IsSound) (valid : ∀ filter ∈ selection.filters, filter.IsValid)
    (missing : selection.stage.predicate? = none) : selection.stage.IsPending := by
  refine ⟨?_, missing⟩
  cases stage : selection.stage with
  | invalid messages => exact absurd stage (sound.stage_ne_invalid valid messages)
  | unvalidated | validated | compiled stored | applied stored => rfl

/-- A call reports the stage that it leads to, if nothing was settled before. -/
theorem events_perform (sound : selection.IsSound) (step : Step) :
    (selection.perform step).events =
      if selection.stage.IsPending then
        (selection.perform step).selection.stage.news selection.table.name step.config
      else [] := by
  cases sound.ending step with
  | validated valid _ performed =>
      have proper := sound.stage_ne_invalid valid
      rw [performed]
      cases stage : selection.stage with
      | invalid messages => exact absurd stage (proper messages)
      | unvalidated | validated | compiled stored | applied stored => rfl
  | answered predicate events valid compiled reported call performed =>
      rw [performed]
      cases stored : selection.stage.predicate? with
      | some present =>
          have settled : ¬ selection.stage.IsPending :=
            Stage.not_isPending_iff.mpr (.inr ⟨present, stored⟩)
          rw [newsOf, stored, Except.ok.injEq] at reported
          rw [if_neg settled, reported]
      | none =>
          have kept := predicate?_advance (fun _ => sound.stored_eq compiled) call
          rw [newsOf, stored] at reported
          rw [if_pos (sound.isPending valid stored), Stage.news_of_report kept reported]
  | unreported predicate valid _ missing reported _ performed =>
      have unwritable := (report_eq_error_iff.mp reported).2.1
      have silent : Stage.news selection.table.name step.config (.compiled predicate) = [] :=
        if_neg fun both => unwritable both.2
      rw [performed, silent, ite_self]
  | noRoom _ _ _ _ performed =>
      rw [performed]
      exact (ite_self _).symm
  | rejected messages _ _ stage performed =>
      rw [performed, stage]
      rfl
  | refused messages stage performed =>
      rw [performed, stage]
      rfl

/-- What is settled stays settled. -/
theorem not_isPending_perform (sound : selection.IsSound)
    (settled : ¬ selection.stage.IsPending) (step : Step) :
    ¬ (selection.perform step).selection.stage.IsPending := by
  rw [Stage.not_isPending_iff] at settled ⊢
  rcases settled with ⟨messages, stage⟩ | ⟨predicate, stored⟩
  · left
    exact ⟨messages, by rw [perform_of_invalid stage, stage]⟩
  · right
    exact ⟨predicate, (perform_reaches sound step).predicate?_eq stored⟩

/-! ## Runs -/

theorem run_concat (selection : Selection) (steps : List Step) (step : Step) :
    selection.run (steps ++ [step]) = ((selection.run steps).perform step).selection :=
  run_append selection steps [step]

/-- Once it is settled what becomes of it, a selection has nothing more to report. -/
theorem reports_of_settled (sound : selection.IsSound) (settled : ¬ selection.stage.IsPending)
    (steps : List Step) : selection.reports steps = [] := by
  induction steps generalizing selection with
  | nil => rfl
  | cons step rest hypothesis =>
      have later := hypothesis (sound.run [step]) (not_isPending_perform sound settled step)
      rw [reports, events_perform sound, if_neg settled, List.nil_append]
      exact later

/-- What is settled stays settled. -/
theorem not_isPending_run (sound : selection.IsSound)
    (settled : ¬ selection.stage.IsPending) (steps : List Step) :
    ¬ (selection.run steps).stage.IsPending := by
  induction steps generalizing selection with
  | nil => exact settled
  | cons step rest hypothesis =>
      exact hypothesis (sound.run [step]) (not_isPending_perform sound settled step)

/-- As long as nothing is settled, nothing is reported. -/
theorem reports_of_isPending (sound : selection.IsSound) {steps : List Step}
    (pending : (selection.run steps).stage.IsPending) : selection.reports steps = [] := by
  induction steps generalizing selection with
  | nil => rfl
  | cons step rest hypothesis =>
      have next : (selection.perform step).selection.stage.IsPending := by
        by_contra settled
        exact not_isPending_run (sound.run [step]) settled rest pending
      have silent : (selection.perform step).events = [] := by
        rw [events_perform sound, next.news_eq, ite_self]
      rw [reports, silent, List.nil_append]
      exact hypothesis (sound.run [step]) pending

/-- Of all calls only the one that settles what becomes of the selection is reported. -/
theorem reports_of_settling (sound : selection.IsSound) {before after : List Step} {step : Step}
    (pending : (selection.run before).stage.IsPending)
    (settled : ¬ (selection.run (before ++ [step])).stage.IsPending) :
    selection.reports (before ++ step :: after) =
      (selection.run (before ++ [step])).stage.news selection.table.name step.config := by
  have reached := sound.run before
  rw [run_concat] at settled ⊢
  have later : ((selection.run before).perform step).selection.reports after = [] :=
    reports_of_settled (reached.run [step]) settled after
  rw [reports_append, reports_of_isPending sound pending, List.nil_append, reports, later,
    List.append_nil, events_perform reached, if_pos pending, run_table sound]

/-- A selection that was pending and is settled was settled by one of the calls. -/
theorem exists_settling (pending : selection.stage.IsPending) {steps : List Step}
    (settled : ¬ (selection.run steps).stage.IsPending) :
    ∃ before step after, steps = before ++ step :: after ∧
      (selection.run before).stage.IsPending ∧
      ¬ (selection.run (before ++ [step])).stage.IsPending := by
  induction steps generalizing selection with
  | nil => exact absurd pending settled
  | cons step rest hypothesis =>
      by_cases next : (selection.perform step).selection.stage.IsPending
      · rcases hypothesis next settled with ⟨before, decisive, after, rfl, still, done⟩
        exact ⟨step :: before, decisive, after, rfl, still, done⟩
      · exact ⟨[], step, rest, rfl, pending, next⟩

/-- A selection that refuses a call with some messages keeps them. -/
theorem stage_of_perform_invalidFilters
    (sound : selection.IsSound) {step : Step} {messages : List String}
    (refused : (selection.perform step).answer = .error (.invalidFilters messages)) :
    (selection.perform step).selection.stage = .invalid messages := by
  rcases error?_of_perform_error sound refused with stored | ⟨other, _⟩ | ⟨other, _⟩
  · rcases Stage.error?_eq_some_iff.mp stored with ⟨kept, stage, same⟩
    cases same
    exact stage
  · cases other
  · cases other

/-! ## What the reports tell -/

/-- What was reported during some calls tells what became of the selection, and nothing else. -/
structure Recounts [Machine]
    (selection : Selection) (steps : List Step) (events : List Event) : Prop where
  pending : (selection.run steps).stage.IsPending → events = []
  rejected :
    ∀ messages, (selection.run steps).stage = .invalid messages →
      events = [.rejected selection.table.name messages.length]
  /-- The number that was reported is that of the messages with which calls are refused. -/
  refused :
    ∀ before step after messages, steps = before ++ step :: after →
      ((selection.run before).perform step).answer = .error (.invalidFilters messages) →
        events = [.rejected selection.table.name messages.length]
  /--
  The call that compiles reports the predicate if asked to and able to, and later calls never do.
  -/
  compiled :
    ∀ before step after predicate, steps = before ++ step :: after →
      (selection.run before).stage.predicate? = none →
        (selection.run (before ++ [step])).stage.predicate? = some predicate →
          events =
            if step.config.logPredicates = true ∧ predicate.IsWritable selection.table.name then
              [.compiled (Sql.render selection.table.name predicate).sql]
            else []
  compiled_by :
    ∀ predicate, (selection.run steps).stage.predicate? = some predicate →
      ∃ before step after, steps = before ++ step :: after ∧
        (selection.run before).stage.predicate? = none ∧
        (selection.run (before ++ [step])).stage.predicate? = some predicate

/-- What has been settled by a call is the same after further calls. -/
theorem run_settled_cases (sound : selection.IsSound) {before : List Step} {step : Step}
    (settled : ¬ (selection.run (before ++ [step])).stage.IsPending) (after : List Step) :
    (∃ messages, (selection.run (before ++ [step])).stage = .invalid messages ∧
        (selection.run (before ++ step :: after)).stage = .invalid messages) ∨
      ∃ predicate, (selection.run (before ++ [step])).stage.predicate? = some predicate ∧
        (selection.run (before ++ step :: after)).stage.predicate? = some predicate := by
  have joined : selection.run (before ++ step :: after) =
      (selection.run (before ++ [step])).run after := by
    rw [← run_append, List.append_assoc]
    rfl
  rw [joined]
  rcases Stage.not_isPending_iff.mp settled with ⟨messages, stage⟩ | ⟨predicate, stored⟩
  · exact .inl ⟨messages, stage, by rw [run_of_invalid stage, stage]⟩
  · exact .inr ⟨predicate, stored, (run_reaches (sound.run _) after).predicate?_eq stored⟩

/-- The reports of any calls recount what became of the selection. -/
theorem reports_recounts (sound : selection.IsSound) (start : selection.stage.IsPending)
    (steps : List Step) : selection.Recounts steps (selection.reports steps) := by
  have rejected : ∀ messages, (selection.run steps).stage = .invalid messages →
      selection.reports steps = [.rejected selection.table.name messages.length] := by
    intro messages stage
    have settled := Stage.not_isPending_iff.mpr (.inl ⟨messages, stage⟩)
    rcases exists_settling start settled with ⟨before, step, after, rfl, pending, decisive⟩
    rw [reports_of_settling sound pending decisive]
    rcases run_settled_cases sound decisive after with ⟨found, here, last⟩ | ⟨_, _, last⟩
    · rw [stage] at last
      rw [here, ← last]
      rfl
    · rw [stage] at last
      cases last
  constructor
  case pending => exact reports_of_isPending sound
  case rejected => exact rejected
  case refused =>
    rintro before step after messages rfl failed
    have stage : (selection.run (before ++ [step])).stage = .invalid messages := by
      rw [run_concat]
      exact stage_of_perform_invalidFilters (sound.run before) failed
    refine rejected messages ?_
    have settled := Stage.not_isPending_iff.mpr (.inl ⟨messages, stage⟩)
    rcases run_settled_cases sound settled after with ⟨found, here, last⟩ | ⟨_, here, _⟩
    · rw [last, ← here, stage]
    · rw [stage] at here
      cases here
  case compiled =>
    rintro before step after predicate rfl missing stored
    have settled := Stage.not_isPending_iff.mpr (.inr ⟨predicate, stored⟩)
    have pending : (selection.run before).stage.IsPending := by
      refine ⟨?_, missing⟩
      cases failed : (selection.run before).stage.error? with
      | none => rfl
      | some error =>
          rcases Stage.error?_eq_some_iff.mp failed with ⟨messages, stage, _⟩
          rw [run_append, run_of_invalid stage, missing] at stored
          cases stored
    rw [reports_of_settling sound pending settled, Stage.news_of_predicate? stored]
  case compiled_by =>
    intro predicate stored
    have settled := Stage.not_isPending_iff.mpr (.inr ⟨predicate, stored⟩)
    rcases exists_settling start settled with ⟨before, step, after, rfl, pending, decisive⟩
    refine ⟨before, step, after, rfl, pending.noPredicate, ?_⟩
    rcases run_settled_cases sound decisive after with ⟨_, _, last⟩ | ⟨found, here, last⟩
    · rw [last] at stored
      cases stored
    · rw [here, ← last, stored]

end Machine

/-- Predicates are reported at the second of three calls only. -/
def unevenSteps : List Step :=
  [⟨⟨true, false, ⟨2024, 5, 6⟩⟩, .validate⟩, ⟨⟨true, true, ⟨2024, 5, 6⟩⟩, .predicate⟩,
    ⟨⟨true, false, ⟨2024, 5, 7⟩⟩, .apply (.select "people" ["name"])⟩]

/-- A pattern is asked for and missing, on a column that has no patterns. -/
def unmatchedCriterion : Criterion :=
  ⟨⟨"age", .integer⟩, .like, false, none, none, none⟩

end Selection

end Criteria
