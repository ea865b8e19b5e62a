import Criteria.Proofs.Journal.Emission
import Criteria.Proofs.Journal.Lookup

/-!
# Runs of a journal

A journal is set up any number of times; in between, fields are bound and events are written.  What
a setup asks for is treated in three ways: the first level counts, and later ones are not even
looked up; the way of writing follows the last setup; the threshold of the engine is the same for
all.  `run_settles` says so of every run, with what becomes of the next event.

No logger of the library that runs the statements follows the level of the journal, be it the
engine's or another one (`library_outside_engine`).
-/

namespace Criteria

/-- Lines are for people if debugging is on. -/
def Renderer.ofDebug (debug : Bool) : Renderer :=
  if debug then .console else .json

namespace Journal

/-- What can be done with a journal. -/
inductive Action where
  | setup (debug : Bool) (level : String)
  | bind (fields : List (String × Json))
  | log (logger : String) (level : Level) (title timestamp : String) (fields : List (String × Json))

/-- An event leaves the journal as it is, whatever becomes of the event. -/
def perform [Machine] (journal : Journal) : Action → Except Error Journal
  | .setup debug level => journal.setup debug level
  | .bind fields => .ok (journal.bind fields)
  | .log .. => .ok journal

/-- A run ends with the first setup that fails. -/
def run [Machine] (journal : Journal) : List Action → Except Error Journal
  | [] => .ok journal
  | action :: rest => journal.perform action >>= fun next => next.run rest

/-- Whether debugging is on, and the level, of each setup in its turn. -/
def setups : List Action → List (Bool × String)
  | [] => []
  | .setup debug level :: rest => (debug, level) :: setups rest
  | .bind _ :: rest | .log .. :: rest => setups rest

/-- Whether debugging is on at the last setup, or as before if there is none. -/
def latestDebug (before : Bool) (setups : List (Bool × String)) : Bool :=
  (setups.map (·.1)).getLastD before

/-! ## Before the first setup -/

/-- There is no place to write to yet, and no level has been asked for. -/
structure IsUnsettled (journal : Journal) : Prop where
  rootLevel : journal.rootLevel = fresh.rootLevel
  handlers : journal.handlers = 0

theorem isUnsettled_fresh : fresh.IsUnsettled where
  rootLevel := rfl
  handlers := rfl

/-! ## From the first setup on -/

/-- The level was asked for once and for all, and the last setup had debugging on or off. -/
structure IsSettled (journal : Journal) (rootLevel : Threshold) (debug : Bool) : Prop where
  rootLevel : journal.rootLevel = rootLevel
  handlers : journal.handlers = 1
  engineLevel : journal.engineLevel? = some Level.warning.number
  renderer : journal.renderer = Renderer.ofDebug debug

section Machine

variable [Machine] {journal : Journal} {rootLevel : Threshold} {debug : Bool} {level : String}

/-- The first setup settles the journal at the level that it asks for. -/
theorem IsUnsettled.setup_of_requested (unsettled : journal.IsUnsettled) (debug : Bool)
    (requested : requested fresh.rootLevel level = .ok rootLevel) :
    ∃ later, journal.setup debug level = .ok later ∧ later.IsSettled rootLevel debug := by
  rw [setup, if_pos unsettled.handlers, unsettled.rootLevel, requested]
  refine ⟨_, rfl, rfl, ?_, rfl, rfl⟩
  rw [if_pos unsettled.handlers]

/-- A first setup fails if its level cannot be asked for. -/
theorem IsUnsettled.setup_of_error {error : Error} (unsettled : journal.IsUnsettled) (debug : Bool)
    (failed : requested fresh.rootLevel level = .error error) :
    journal.setup debug level = .error error := by
  rw [setup, if_pos unsettled.handlers, unsettled.rootLevel, failed]
  rfl

/-- Later setups do not look their level up; they only switch the way of writing. -/
theorem IsSettled.setup (settled : journal.IsSettled rootLevel debug) (again : Bool)
    (level : String) :
    ∃ later, journal.setup again level = .ok later ∧ later.IsSettled rootLevel again := by
  have present : journal.handlers ≠ 0 := by
    rw [settled.handlers]
    exact Nat.one_ne_zero
  rw [Journal.setup, if_neg present]
  refine ⟨_, rfl, settled.rootLevel, ?_, rfl, rfl⟩
  rw [if_neg present, settled.handlers]

/-- A settled journal stays so in every run; only the way of writing follows the setups. -/
theorem IsSettled.run (settled : journal.IsSettled rootLevel debug) (actions : List Action) :
    ∃ later, journal.run actions = .ok later ∧
      later.IsSettled rootLevel (latestDebug debug (setups actions)) := by
  induction actions generalizing journal debug with
  | nil => exact ⟨journal, rfl, settled⟩
  | cons action rest hypothesis =>
      cases action with
      | setup again level =>
          rcases settled.setup again level with ⟨next, performed, nextSettled⟩
          rcases hypothesis nextSettled with ⟨later, ran, laterSettled⟩
          refine ⟨later, bind_eq_ok_iff.mpr ⟨next, performed, ran⟩, ?_⟩
          rwa [setups, latestDebug, List.map_cons, List.getLastD_cons]
      | bind fields =>
          have bound : (journal.bind fields).IsSettled rootLevel debug :=
            ⟨settled.rootLevel, settled.handlers, settled.engineLevel, settled.renderer⟩
          exact hypothesis bound
      | log logger level title timestamp fields => exact hypothesis settled

section FirstSetup

variable {actions : List Action} {first : Bool × String} {later : List (Bool × String)}

/-- A run goes through, and settles the journal, if the first level can be asked for. -/
theorem IsUnsettled.run_of_requested (unsettled : journal.IsUnsettled)
    (setup : setups actions = first :: later)
    (requested : requested fresh.rootLevel first.2 = .ok rootLevel) :
    ∃ last, journal.run actions = .ok last ∧
      last.IsSettled rootLevel (latestDebug first.1 later) := by
  induction actions generalizing journal with
  | nil => cases setup
  | cons action rest hypothesis =>
      cases action with
      | setup debug level =>
          cases setup
          rcases unsettled.setup_of_requested debug requested with ⟨next, performed, settled⟩
          rcases settled.run rest with ⟨last, ran, lastSettled⟩
          exact ⟨last, bind_eq_ok_iff.mpr ⟨next, performed, ran⟩, lastSettled⟩
      | bind fields => exact hypothesis ⟨unsettled.rootLevel, unsettled.handlers⟩ setup
      | log logger level title timestamp fields => exact hypothesis unsettled setup

/-- A run fails at the first setup if its level cannot be asked for. -/
theorem IsUnsettled.run_of_error {error : Error} (unsettled : journal.IsUnsettled)
    (setup : setups actions = first :: later)
    (failed : requested fresh.rootLevel first.2 = .error error) :
    journal.run actions = .error error := by
  induction actions generalizing journal with
  | nil => cases setup
  | cons action rest hypothesis =>
      cases action with
      | setup debug level =>
          cases setup
          exact bind_eq_error_iff.mpr (.inl (unsettled.setup_of_error debug failed))
      | bind fields => exact hypothesis ⟨unsettled.rootLevel, unsettled.handlers⟩ setup
      | log logger level title timestamp fields => exact hypothesis unsettled setup

end FirstSetup

end Machine

/-! ## Whole runs -/

/--
A run with a setup fails exactly if the first setup asks for a name of something else.  Otherwise it
leaves one place to write to, the threshold that the first setup asks for, the way of writing that
the last setup asks for, and the threshold of the engine; and it says which events are written then.
-/
theorem run_settles [Machine]
    {actions : List Action} {first : Bool × String} {later : List (Bool × String)}
    (setup : setups actions = first :: later) :
    ((∃ error, fresh.run actions = .error error) ↔ (Lookup.ofName first.2).IsOther) ∧
      ∀ journal, fresh.run actions = .ok journal →
        journal.handlers = 1 ∧
          requested fresh.rootLevel first.2 = .ok journal.rootLevel ∧
          journal.renderer = Renderer.ofDebug (latestDebug first.1 later) ∧
          journal.engineLevel? = some Level.warning.number ∧
          ∀ logger level title timestamp fields,
            ((∃ error, journal.emit logger level title timestamp fields = .error error) ↔
                journal.IsRefused fields) ∧
              ∀ outcome, journal.emit logger level title timestamp fields = .ok outcome →
                (outcome ≠ .suppressed ↔
                  (if IsWithin libraryName logger then Level.warning.number
                    else journal.rootLevel.value) ≤ level.number) := by
  have goesThrough {threshold : Threshold}
      (asked : requested fresh.rootLevel first.2 = .ok threshold) :=
    isUnsettled_fresh.run_of_requested setup asked
  constructor
  · rw [← exists_requested_eq_error_iff fresh.rootLevel]
    constructor
    · rintro ⟨error, failed⟩
      cases asked : requested fresh.rootLevel first.2 with
      | error reason => exact ⟨reason, rfl⟩
      | ok threshold =>
          rcases goesThrough asked with ⟨journal, ran, _⟩
          rw [ran] at failed
          cases failed
    · rintro ⟨error, failed⟩
      exact ⟨error, isUnsettled_fresh.run_of_error setup failed⟩
  · intro journal ran
    cases asked : requested fresh.rootLevel first.2 with
    | error reason =>
        rw [isUnsettled_fresh.run_of_error setup asked] at ran
        cases ran
    | ok threshold =>
        rcases goesThrough asked with ⟨last, ranToo, settled⟩
        rw [ran] at ranToo
        cases ranToo
        have present : journal.handlers ≠ 0 := by
          rw [settled.handlers]
          exact Nat.one_ne_zero
        rw [settled.rootLevel]
        refine ⟨settled.handlers, rfl, settled.renderer, settled.engineLevel, ?_⟩
        intro logger level title timestamp fields
        refine ⟨exists_emit_eq_error_iff present, fun outcome emitted => ?_⟩
        rw [← ((emit_eq_ok_iff present).mp emitted).2, emission_ne_suppressed_iff, threshold_eq_ite,
          settled.rootLevel]

/-- The second setup switches to records, and does not look up its level, which would be none. -/
theorem run_settles_again :
    let actions : List Action :=
      [.log "people" .error "early" "now" [], .setup true "INFO", .bind [("request", .integer 1)],
        .log "people" .info "refused" "now" [("self", .null)], .setup false "BASIC_FORMAT"]
    setups actions = [(true, "INFO"), (false, "BASIC_FORMAT")] ∧
      ∃ journal, fresh.run actions = .ok journal ∧ journal.handlers = 1 ∧
        journal.rootLevel = .number 20 ∧ journal.renderer = .json ∧
        journal.engineLevel? = some 30 ∧
        ∃ outcome, journal.emit "people" .info "late" "now" [] = .ok outcome ∧
          outcome ≠ .suppressed := by
  intro actions
  have setup : setups actions = [(true, "INFO"), (false, "BASIC_FORMAT")] := rfl
  rcases run_settles setup with ⟨_, settles⟩
  cases ran : fresh.run actions with
  | error _ => cases ran
  | ok journal =>
      rcases settles journal ran with ⟨handlers, asked, renderer, engineLevel, emits⟩
      have rootLevel : journal.rootLevel = .number 20 := (Except.ok.inj asked).symm
      cases ran
      rcases emits "people" .info "late" "now" [] with ⟨_, emitted⟩
      refine ⟨setup, _, rfl, handlers, rootLevel, renderer, engineLevel, _, rfl, ?_⟩
      exact (emitted _ rfl).mpr (by decide)

/--
A logger beside those of the engine, which merely begins like them, does not follow the journal
either.  However important an event is, it may be refused for a field, and so may a first setup for
its level.
-/
theorem library_outside_engine :
    (∃ journal, fresh.run [.setup false "INFO"] = .ok journal ∧
      ¬ IsWithin "sqlalchemy.engine" "sqlalchemy.enginex" ∧
      journal.rootLevel.value ≤ Level.info.number ∧
      journal.emit "sqlalchemy.enginex" .info "event" "now" [] = .ok .suppressed ∧
      ¬ IsWithin "sqlalchemy.engine" "people" ∧
      journal.rootLevel.value ≤ Level.error.number ∧
      ∃ error, journal.emit "people" .error "event" "now" [("self", .integer 1)] = .error error) ∧
      ∃ error, fresh.run [.setup false "BASIC_FORMAT"] = .error error := by
  refine ⟨⟨_, rfl, ?_, ?_, rfl, ?_, ?_, _, rfl⟩, _, rfl⟩
  · decide
  · decide
  · decide
  · decide

end Journal

end Criteria
