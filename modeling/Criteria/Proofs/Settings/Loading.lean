import Mathlib.Tactic.SplitIfs
import Criteria.Proofs.Success
import Criteria.Settings

/-!
# Loading settings

Every setting is read from the first source that has it, and whatever is wrong with one is reported
under its name.  So settings are loaded exactly if nothing is reported under any name
(`exists_ofSources_eq_ok_iff`), and then they are what the five readings gave
(`ofSources_eq_ok_iff`).
-/

namespace Criteria

/-! ## One setting -/

theorem Checked.failures_within {α : Type} (key : Key) (checked : Checked α) :
    failures (within key checked) = (failures checked).map (Failure.within key) := by
  cases checked <;> rfl

namespace Settings

/-- What the first source that has the setting gives for it. -/
def supplied? (sources : List (List (String × Json))) (name : String) : Option Json :=
  sources.findSome? (·.lookup name)

/-- Something is wrong with the setting of this name. -/
def IsReported (sources : List (List (String × Json))) (name : String) : Prop :=
  ∃ failure ∈ Checked.failures (ofSources sources), failure.location.head? = some (.name name)

variable {sources others : List (List (String × Json))} {name : String}

section Setting

variable {α : Type} {absent : α} {read : Json → Checked α} {value : Json}

theorem setting_of_supplied? (given : supplied? sources name = some value) :
    setting sources name absent read = Checked.within (.name name) (read value) := by
  rw [supplied?] at given
  rw [setting, given]

/-- A setting depends on nothing but what is supplied under its name. -/
theorem setting_congr (agree : supplied? others name = supplied? sources name) :
    setting others name absent read = setting sources name absent read := by
  rw [supplied?, supplied?] at agree
  rw [setting, setting, agree]

theorem head?_location_of_mem_failures {failure : Failure}
    (member : failure ∈ Checked.failures (setting sources name absent read)) :
    failure.location.head? = some (.name name) := by
  unfold setting at member
  split at member
  · rw [Checked.failures_within, List.mem_map] at member
    rcases member with ⟨inner, _, rfl⟩
    rfl
  · cases member

end Setting

/-! ## All settings -/

/-- The failures of all settings, in the order of the settings. -/
theorem failures_ofSources (sources : List (List (String × Json))) :
    Checked.failures (ofSources sources) =
      Checked.failures (setting sources "FILTERSET_ENV" "development" Json.readString) ++
        Checked.failures (setting sources "DEBUG" false Json.readFlag) ++
        Checked.failures (setting sources "LOG_LEVEL" "INFO" readLevel) ++
        Checked.failures (setting sources "FILTER_CAMELIZE_FIELD_NAMES" true Json.readFlag) ++
        Checked.failures (setting sources "FILTER_LOG_PREDICATES" false Json.readFlag) := by
  dsimp only [ofSources]
  split
  · simp_all [Checked.failures]
  · rfl

/-- Settings are loaded exactly if each of them can be read. -/
theorem ofSources_eq_ok_iff {settings : Settings} :
    ofSources sources = .ok settings ↔
      setting sources "FILTERSET_ENV" "development" Json.readString = .ok settings.environment ∧
        setting sources "DEBUG" false Json.readFlag = .ok settings.debug ∧
        setting sources "LOG_LEVEL" "INFO" readLevel = .ok settings.logLevel ∧
        setting sources "FILTER_CAMELIZE_FIELD_NAMES" true Json.readFlag = .ok settings.camelize ∧
        setting sources "FILTER_LOG_PREDICATES" false Json.readFlag =
          .ok settings.logPredicates := by
  constructor
  · intro loaded
    dsimp only [ofSources] at loaded
    split at loaded
    · cases loaded
      exact ⟨by assumption, by assumption, by assumption, by assumption, by assumption⟩
    · cases loaded
  · rintro ⟨environment, debug, logLevel, camelize, logPredicates⟩
    rw [ofSources, environment, debug, logLevel, camelize, logPredicates]

/-! ## Whatever is refused is reported -/

theorem ok_ne_error_nil {α : Type} (value : α) : (.ok value : Checked α) ≠ .error [] := by
  simp

theorem fail_ne_error_nil {α : Type} (cause : Cause) :
    (Checked.fail cause : Checked α) ≠ .error [] := by
  simp [Checked.fail]

theorem readString_ne_error_nil (value : Json) : Json.readString value ≠ .error [] := by
  cases value with
  | string text => exact ok_ne_error_nil _
  | _ => exact fail_ne_error_nil _

theorem readFlag_ne_error_nil (value : Json) : Json.readFlag value ≠ .error [] := by
  have unreadable (flag? : Option Bool) : Json.readFlag.orUnreadable flag? ≠ .error [] := by
    cases flag? with
    | some flag => exact ok_ne_error_nil _
    | none => exact fail_ne_error_nil _
  unfold Json.readFlag
  split
  · exact ok_ne_error_nil _
  · exact unreadable _
  · split_ifs
    · exact unreadable _
    · exact fail_ne_error_nil _
  · split
    · split_ifs
      · exact unreadable _
      · exact fail_ne_error_nil _
    · exact fail_ne_error_nil _
  · exact fail_ne_error_nil _

theorem readLevel_ne_error_nil (value : Json) : readLevel value ≠ .error [] := by
  intro failed
  rcases bind_eq_error_iff.mp failed with failed | ⟨level, _, failed⟩
  · exact readString_ne_error_nil value failed
  · split at failed
    · exact ok_ne_error_nil _ failed
    · exact fail_ne_error_nil _ failed

theorem exists_setting_eq_ok {α : Type} {absent : α} {read : Json → Checked α}
    (told : ∀ value, read value ≠ .error [])
    (silent : Checked.failures (setting sources name absent read) = []) :
    ∃ value, setting sources name absent read = .ok value := by
  unfold setting at *
  split at silent
  · next value given =>
      rw [Checked.failures_within, List.map_eq_nil_iff] at silent
      cases outcome : read value with
      | ok result => exact ⟨result, rfl⟩
      | error failures =>
          rw [outcome] at silent
          subst silent
          exact absurd outcome (told value)
  · exact ⟨absent, rfl⟩

theorem mem_failures_ofSources_iff {failure : Failure} :
    failure ∈ Checked.failures (ofSources sources) ↔
      failure ∈ Checked.failures
          (setting sources "FILTERSET_ENV" "development" Json.readString) ∨
        failure ∈ Checked.failures (setting sources "DEBUG" false Json.readFlag) ∨
        failure ∈ Checked.failures (setting sources "LOG_LEVEL" "INFO" readLevel) ∨
        failure ∈ Checked.failures
          (setting sources "FILTER_CAMELIZE_FIELD_NAMES" true Json.readFlag) ∨
        failure ∈ Checked.failures
          (setting sources "FILTER_LOG_PREDICATES" false Json.readFlag) := by
  simp only [failures_ofSources, List.mem_append, or_assoc]

/-- Settings are loaded as soon as nothing is wrong with any. -/
theorem exists_ofSources_eq_ok_iff :
    (∃ settings, ofSources sources = .ok settings) ↔ ∀ name, ¬ IsReported sources name := by
  constructor
  · rintro ⟨settings, loaded⟩ name ⟨failure, member, _⟩
    rw [loaded] at member
    cases member
  · intro unreported
    have silent : Checked.failures (ofSources sources) = [] := by
      rw [List.eq_nil_iff_forall_not_mem]
      intro failure member
      rcases mem_failures_ofSources_iff.mp member with part | part | part | part | part <;>
        exact unreported _ ⟨failure, member, head?_location_of_mem_failures part⟩
    simp only [failures_ofSources, List.append_eq_nil_iff] at silent
    rcases silent with ⟨⟨⟨⟨noneOfEnvironment, noneOfDebug⟩, noneOfLevel⟩, noneOfCamelize⟩,
      noneOfLogging⟩
    rcases exists_setting_eq_ok readString_ne_error_nil noneOfEnvironment with ⟨environment, first⟩
    rcases exists_setting_eq_ok readFlag_ne_error_nil noneOfDebug with ⟨debug, second⟩
    rcases exists_setting_eq_ok readLevel_ne_error_nil noneOfLevel with ⟨logLevel, third⟩
    rcases exists_setting_eq_ok readFlag_ne_error_nil noneOfCamelize with ⟨camelize, fourth⟩
    rcases exists_setting_eq_ok readFlag_ne_error_nil noneOfLogging with ⟨logPredicates, fifth⟩
    exact ⟨⟨environment, debug, logLevel, camelize, logPredicates⟩,
      ofSources_eq_ok_iff.mpr ⟨first, second, third, fourth, fifth⟩⟩

theorem isReported_level_iff :
    IsReported sources "LOG_LEVEL" ↔
      Checked.failures (setting sources "LOG_LEVEL" "INFO" readLevel) ≠ [] := by
  constructor
  · rintro ⟨failure, member, located⟩
    have elsewhere {other : String} (here : failure.location.head? = some (.name other))
        (differs : Key.name other ≠ .name "LOG_LEVEL") : False :=
      differs (Option.some_inj.mp (here.symm.trans located))
    rcases mem_failures_ofSources_iff.mp member with part | part | part | part | part
    · exact (elsewhere (head?_location_of_mem_failures part) (by decide)).elim
    · exact (elsewhere (head?_location_of_mem_failures part) (by decide)).elim
    · exact List.ne_nil_of_mem part
    · exact (elsewhere (head?_location_of_mem_failures part) (by decide)).elim
    · exact (elsewhere (head?_location_of_mem_failures part) (by decide)).elim
  · intro told
    rcases List.exists_mem_of_ne_nil _ told with ⟨failure, part⟩
    have member := mem_failures_ofSources_iff.mpr (.inr (.inr (.inl part)))
    exact ⟨failure, member, head?_location_of_mem_failures part⟩

end Settings

end Criteria
