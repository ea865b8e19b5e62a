import Criteria.Proofs.FirstOccurrence
import Criteria.Proofs.Selection.Run

/-!
# The messages of a selection

A selection that refuses says why: with the message of each of its invalid filters, once, in the
order in which the filters first give it (`Selection.Accounts`).  Whether it refuses depends only on
which criteria it was built from, not on their order or number, and the messages of two lists of
criteria put together are those of the two, without repetitions.
-/

namespace Criteria

/-- The messages that a call refuses with; a call that is answered has none. -/
def Outcome.messages {α : Type} (outcome : Outcome α) : List String :=
  match outcome.answer with
  | .error (.invalidFilters messages) => messages
  | _ => []

theorem Filter.Fits.eq_of_criterion_eq
    {table : Table} {first second : Filter} (firstFits : first.Fits table)
    (secondFits : second.Fits table) (same : first.criterion = second.criterion) :
    first = second := by
  have policies := firstFits.policy.symm.trans (same ▸ secondFits.policy)
  cases first
  cases second
  simp_all

namespace Selection

/-! ## All invalid filters, and nothing else -/

/-- The place of the first filter that gives a message. -/
def firstWith (filters : List Filter) (config : Config) (message : String) : Nat :=
  filters.findIdx fun filter => filter.errorMessage config == some message

/-- What it means that messages tell of the invalid filters: of each, of nothing else, in order. -/
structure Accounts (filters : List Filter) (config : Config) (messages : List String) : Prop where
  nodup : messages.Nodup
  complete :
    ∀ filter ∈ filters, filter.validate config ≠ [] →
      ∃ message ∈ messages, filter.errorMessage config = some message
  sound :
    ∀ message ∈ messages, ∃ filter ∈ filters,
      filter.validate config ≠ [] ∧ filter.errorMessage config = some message
  silent : ∀ filter ∈ filters, filter.validate config = [] → filter.errorMessage config = none
  ordered :
    ∀ first ∈ messages, ∀ second ∈ messages,
      messages.idxOf first < messages.idxOf second ↔
        firstWith filters config first < firstWith filters config second

theorem errorMessage_eq_none_iff_validate (filter : Filter) (config : Config) :
    filter.errorMessage config = none ↔ filter.validate config = [] := by
  rw [Filter.errorMessage_eq_none_iff, Filter.validate_eq_nil_iff]

/-- The messages account for exactly the invalid filters. -/
theorem errorMessages_accounts (filters : List Filter) (config : Config) :
    Accounts filters config (errorMessages filters config) := by
  have mem_iff (message : String) :
      message ∈ errorMessages filters config ↔
        ∃ filter ∈ filters, filter.errorMessage config = some message := by
    rw [errorMessages, List.mem_eraseDups, List.mem_filterMap]
  constructor
  case nodup => exact nodup_eraseDups _
  case complete =>
    intro filter member invalid
    cases rendered : filter.errorMessage config with
    | none => exact absurd ((errorMessage_eq_none_iff_validate _ _).mp rendered) invalid
    | some message => exact ⟨message, (mem_iff message).mpr ⟨filter, member, rendered⟩, rfl⟩
  case sound =>
    intro message reported
    rcases (mem_iff message).mp reported with ⟨filter, member, rendered⟩
    refine ⟨filter, member, ?_, rendered⟩
    intro valid
    rw [(errorMessage_eq_none_iff_validate _ _).mpr valid] at rendered
    cases rendered
  case silent =>
    intro filter _ valid
    exact (errorMessage_eq_none_iff_validate _ _).mpr valid
  case ordered =>
    intro first _ second _
    exact idxOf_eraseDups_filterMap_lt_iff _ filters first second

/-- The messages of joined lists are those of both, each once. -/
theorem errorMessages_append (first second : List Filter) (config : Config) :
    errorMessages (first ++ second) config =
      (errorMessages first config ++ errorMessages second config).eraseDups := by
  unfold errorMessages
  rw [eraseDups_append_eraseDups, List.filterMap_append]

/-! ## The call -/

variable {selection : Selection}

/-- A selection that was not looked at refuses exactly with the messages of its filters. -/
theorem validate_answer_of_unvalidated
    (stage : selection.stage = .unvalidated) (config : Config) :
    (selection.validate config).answer =
      if errorMessages selection.filters config = [] then .ok ()
      else .error (.invalidFilters (errorMessages selection.filters config)) := by
  by_cases silent : errorMessages selection.filters config = []
  · simp [validate, stage, silent]
  · rw [validate_of_not_valid stage silent, if_neg silent]

theorem validate_messages_of_unvalidated
    (stage : selection.stage = .unvalidated) (config : Config) :
    (selection.validate config).messages = errorMessages selection.filters config := by
  unfold Outcome.messages
  rw [validate_answer_of_unvalidated stage]
  by_cases silent : errorMessages selection.filters config = []
  · simp [silent]
  · simp [silent]

/-- A first validation fails exactly if a filter is invalid. -/
theorem exists_validate_error_iff
    (stage : selection.stage = .unvalidated) (config : Config) :
    (∃ error, (selection.validate config).answer = .error error) ↔
      ¬ ∀ filter ∈ selection.filters, filter.IsValid := by
  rw [validate_answer_of_unvalidated stage, ← errorMessages_eq_nil_iff _ config]
  by_cases silent : errorMessages selection.filters config = []
  · simp [silent]
  · simp [silent]

/-! ## Which criteria, in which order -/

variable {table : Table} {criteria : List Criterion}

/-- Whether the filters are valid is a matter of the criteria that occur. -/
theorem IsBuiltFrom.forall_isValid_iff (built : selection.IsBuiltFrom table criteria) :
    (∀ filter ∈ selection.filters, filter.IsValid) ↔
      ∀ criterion ∈ criteria, ∀ filter, filterOn table criterion = .ok filter →
        filter.IsValid := by
  constructor
  · intro valid criterion given filter made
    rcases filterOn_eq_ok_iff.mp made with ⟨rfl, fits⟩
    rw [← built.criteria_eq] at given
    rcases List.mem_map.mp given with ⟨present, member, same⟩
    rw [← (built.fits present member).eq_of_criterion_eq fits same]
    exact valid present member
  · intro valid filter member
    have given : filter.criterion ∈ criteria := by
      rw [← built.criteria_eq]
      exact List.mem_map_of_mem member
    exact valid _ given filter (filterOn_eq_ok_iff.mpr ⟨rfl, built.fits filter member⟩)

theorem IsBuiltFrom.append
    {first second : Selection} {firstCriteria secondCriteria : List Criterion}
    (firstBuilt : first.IsBuiltFrom table firstCriteria)
    (secondBuilt : second.IsBuiltFrom table secondCriteria) :
    IsBuiltFrom table (firstCriteria ++ secondCriteria)
      ⟨table, first.filters ++ second.filters, .unvalidated⟩ := by
  refine ⟨rfl, ?_, ?_, rfl⟩
  · rw [List.map_append, firstBuilt.criteria_eq, secondBuilt.criteria_eq]
  · intro filter member
    rcases List.mem_append.mp member with inFirst | inSecond
    · exact firstBuilt.fits filter inFirst
    · exact secondBuilt.fits filter inSecond

/-- The same criteria in another order, or repeated, make a selection that refuses all the same. -/
theorem IsBuiltFrom.exists_build_of_mem_iff
    (built : selection.IsBuiltFrom table criteria) {others : List Criterion}
    (same : ∀ criterion, criterion ∈ others ↔ criterion ∈ criteria) (config : Config) :
    ∃ other events, build table others = .ok (other, events) ∧
      ((∃ error, (other.validate config).answer = .error error) ↔
        ∃ error, (selection.validate config).answer = .error error) := by
  have made : ∃ result, build table criteria = .ok result :=
    ⟨_, build_eq_ok_iff.mpr ⟨built, rfl⟩⟩
  have otherMade : ∃ result, build table others = .ok result := by
    rw [exists_build_iff] at made ⊢
    intro criterion given
    exact made criterion ((same criterion).mp given)
  rcases otherMade with ⟨⟨other, events⟩, otherOk⟩
  have otherBuilt := (build_eq_ok_iff.mp otherOk).1
  refine ⟨other, events, otherOk, ?_⟩
  rw [exists_validate_error_iff otherBuilt.stage_eq, exists_validate_error_iff built.stage_eq,
    otherBuilt.forall_isValid_iff, built.forall_isValid_iff]
  simp only [same]

/--
A selection that was not looked at refuses exactly if it has an invalid filter, and its one error
accounts for the invalid filters.  Neither order nor repetition of the criteria matters for whether
it refuses, and further criteria add their messages to the messages of those before.
-/
theorem validate_accounts
    {selection : Selection} (stage : selection.stage = .unvalidated) (config : Config) :
    ((∃ error, (selection.validate config).answer = .error error) ↔
        ∃ filter ∈ selection.filters, filter.validate config ≠ []) ∧
      (∀ error, (selection.validate config).answer = .error error →
        ∃ messages, error = .invalidFilters messages ∧
          error.message = ", ".intercalate messages ∧
          Accounts selection.filters config messages) ∧
      ∀ (table : Table) (criteria : List Criterion) (events : List Event),
        build table criteria = .ok (selection, events) →
          (∀ others, (∀ criterion, criterion ∈ others ↔ criterion ∈ criteria) →
            ∃ other otherEvents, build table others = .ok (other, otherEvents) ∧
              ((∃ error, (other.validate config).answer = .error error) ↔
                ∃ error, (selection.validate config).answer = .error error)) ∧
          ∀ more next nextEvents, build table more = .ok (next, nextEvents) →
            ∃ both bothEvents, build table (criteria ++ more) = .ok (both, bothEvents) ∧
              (both.validate config).messages =
                ((selection.validate config).messages ++
                  (next.validate config).messages).eraseDups := by
  refine ⟨?_, ?_, ?_⟩
  · rw [exists_validate_error_iff stage, ← validate_eq_nil_iff _ config]
    simp
  · intro error refused
    rw [validate_answer_of_unvalidated stage] at refused
    split at refused
    · cases refused
    · cases refused
      exact ⟨_, rfl, rfl, errorMessages_accounts _ _⟩
  · intro table criteria events made
    have built := (build_eq_ok_iff.mp made).1
    refine ⟨fun others same => built.exists_build_of_mem_iff same config, ?_⟩
    intro more next nextEvents nextMade
    have nextBuilt := (build_eq_ok_iff.mp nextMade).1
    have bothBuilt := built.append nextBuilt
    refine ⟨_, _, build_eq_ok_iff.mpr ⟨bothBuilt, rfl⟩, ?_⟩
    rw [validate_messages_of_unvalidated bothBuilt.stage_eq,
      validate_messages_of_unvalidated stage,
      validate_messages_of_unvalidated nextBuilt.stage_eq]
    exact errorMessages_append _ _ _

/-- A value that is no number, twice, with a valid criterion between and a missing pattern after. -/
def mixedCriteria : List Criterion :=
  [⟨⟨"age", .integer⟩, .greaterThan, false, some "ten", none, none⟩,
    ⟨⟨"active", .boolean⟩, .truth, false, some "F", none, none⟩,
    ⟨⟨"age", .integer⟩, .greaterThan, true, some "ten", none, none⟩,
    ⟨⟨"name", .string⟩, .like, false, none, none, none⟩]

/-- The selection that is built from the mixed criteria. -/
def mixedSelection : Selection :=
  ⟨people, List.zipWith Filter.mk mixedCriteria [.numeric, .boolean, .numeric, .string],
    .unvalidated⟩

theorem validate_accounts_mixed :
    (∃ messages,
        (mixedSelection.validate ⟨true, false, ⟨2024, 5, 6⟩⟩).answer =
          .error (.invalidFilters messages) ∧
        Accounts mixedSelection.filters ⟨true, false, ⟨2024, 5, 6⟩⟩ messages) ∧
      (∃ other events, build people mixedCriteria.reverse = .ok (other, events) ∧
        ∃ error, (other.validate ⟨true, false, ⟨2024, 5, 6⟩⟩).answer = .error error) ∧
      ∃ both events, build people (mixedCriteria ++ peopleCriteria) = .ok (both, events) ∧
        (both.validate ⟨true, false, ⟨2024, 5, 6⟩⟩).messages =
          ["age (type: integer, operation: GREATER_THAN, value: \"ten\"): " ++
              "only supports numerical values",
            "name (type: string, operation: LIKE, value: \"\"): value can't be null"] := by
  have made : build people mixedCriteria = .ok (mixedSelection, [.built "people" 4]) := rfl
  have stage : mixedSelection.stage = .unvalidated := rfl
  rcases validate_accounts stage ⟨true, false, ⟨2024, 5, 6⟩⟩ with
    ⟨refusesIff, accounts, criteria⟩
  rcases criteria people mixedCriteria _ made with ⟨reordered, extended⟩
  have refused :
      ∃ error, (mixedSelection.validate ⟨true, false, ⟨2024, 5, 6⟩⟩).answer = .error error :=
    refusesIff.mpr (by decide)
  refine ⟨?_, ?_, ?_⟩
  · rcases refused with ⟨error, refused⟩
    rcases accounts error refused with ⟨messages, rfl, _, accounted⟩
    exact ⟨messages, refused, accounted⟩
  · rcases reordered mixedCriteria.reverse (fun _ => List.mem_reverse) with
      ⟨other, events, otherMade, same⟩
    exact ⟨other, events, otherMade, same.mpr refused⟩
  · rcases extended peopleCriteria _ _ build_peopleCriteria with ⟨both, events, bothMade, joined⟩
    refine ⟨both, events, bothMade, joined.trans ?_⟩
    decide

end Selection

end Criteria
