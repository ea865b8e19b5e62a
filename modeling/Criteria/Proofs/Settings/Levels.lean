import Criteria.Proofs.Journal.Lookup
import Criteria.Proofs.Settings.Loading
import Criteria.Proofs.Text.Uppercasing

/-!
# The level in the settings and in the journal

Settings take a level by any spelling whose upper case is the name of a threshold.  A journal looks
the stored name up in a larger table, in which names of other things stand too, and has a threshold
to fall back on.  `levels_agree` says that the two never disagree: what the settings store is found
in the table as the threshold of that name, so that the journal never falls back.

Which spellings these are is said without the table of upper-casing (`Level.IsSpelling`): apart from
upper and lower case, the i without a dot counts as an I and the long s as an S.
-/

namespace Criteria

open Criteria.Text

/-! ## Names of thresholds -/

namespace Level

/-- The names of all thresholds. -/
def names : List String :=
  thresholds.map (·.1)

/-- The text is the name letter by letter, in upper case or not. -/
def IsSpelling (name text : String) : Prop :=
  List.Forall₂ IsCapitalOf name.toList text.toList

theorem exists_threshold?_iff {name : String} :
    (∃ number, threshold? name = some number) ↔ name ∈ names := by
  rw [← Option.isSome_iff_exists, threshold?, List.lookup_isSome_iff, names, List.mem_map]
  simp

/-- Names are in upper case, and no stretch of one is the upper case of a ligature. -/
theorem spares_of_mem_names :
    ∀ name ∈ names, name.toList.all Char.isUpper = true ∧
      uppercaseMapping.Spares name.toList := by
  decide +kernel

end Level

namespace Settings

variable {sources others : List (List (String × Json))} {level again name : String}

/-- The spellings of a level are those whose upper case is its name. -/
theorem canonicalLevel_eq_iff_isSpelling (listed : name ∈ Level.names) :
    canonicalLevel level = name ↔ Level.IsSpelling name level := by
  rcases Level.spares_of_mem_names name listed with ⟨upper, spares⟩
  rw [Level.IsSpelling, ← uppercaseText_eq_iff_forall₂ upper spares, canonicalLevel]
  constructor
  · rintro rfl
    rw [String.toList_ofList]
  · intro raised
    rw [raised, String.ofList_toList]

theorem canonicalLevel_of_mem_names (listed : name ∈ Level.names) : canonicalLevel name = name := by
  have upper := (Level.spares_of_mem_names name listed).1
  rw [canonicalLevel, uppercaseText_of_isUpper upper, String.ofList_toList]

/-! ## What is accepted -/

theorem readLevel_of_mem_names (listed : canonicalLevel level ∈ Level.names) :
    readLevel (.string level) = .ok (canonicalLevel level) := by
  rcases Level.exists_threshold?_iff.mpr listed with ⟨number, known⟩
  rw [readLevel, bind_eq_ok_iff]
  exact ⟨level, rfl, by rw [known]⟩

theorem readLevel_of_notMem_names (unlisted : canonicalLevel level ∉ Level.names) :
    readLevel (.string level) = Checked.fail (.unknownLevel level) := by
  have unknown : Level.threshold? (canonicalLevel level) = none := by
    by_contra known
    rcases Option.ne_none_iff_exists'.mp known with ⟨number, known⟩
    exact unlisted (Level.exists_threshold?_iff.mp ⟨number, known⟩)
  rw [readLevel, Checked.fail, bind_eq_error_iff]
  exact .inr ⟨level, rfl, by rw [unknown, Checked.fail]⟩

/-- The names of thresholds are accepted in any spelling, and nothing else is. -/
theorem not_isReported_level_iff (given : supplied? sources "LOG_LEVEL" = some (.string level)) :
    ¬ IsReported sources "LOG_LEVEL" ↔ canonicalLevel level ∈ Level.names := by
  rw [isReported_level_iff, not_not, setting_of_supplied? given, Checked.failures_within,
    List.map_eq_nil_iff]
  by_cases listed : canonicalLevel level ∈ Level.names
  · rw [readLevel_of_mem_names listed]
    exact iff_of_true rfl listed
  · rw [readLevel_of_notMem_names listed]
    exact iff_of_false (List.cons_ne_nil _ _) listed

/-! ## The level that is stored -/

/-- The others give this text for the level, and whatever else they give is the same. -/
structure Restates (sources others : List (List (String × Json))) (again : String) : Prop where
  level : supplied? others "LOG_LEVEL" = some (.string again)
  rest : ∀ name, name ≠ "LOG_LEVEL" → supplied? others name = supplied? sources name

/-- A level that is given before all sources overrules theirs. -/
theorem restates_cons (sources : List (List (String × Json))) (again : String) :
    Restates sources ([("LOG_LEVEL", .string again)] :: sources) again where
  level := rfl
  rest name other := by
    rw [supplied?, List.findSome?_cons, List.lookup_cons, beq_false_of_ne other]
    rfl

/-- Settings that are loaded store the name of a threshold. -/
theorem logLevel_of_ofSources {settings : Settings}
    (given : supplied? sources "LOG_LEVEL" = some (.string level))
    (loaded : ofSources sources = .ok settings) :
    canonicalLevel level ∈ Level.names ∧ settings.logLevel = canonicalLevel level := by
  have listed : canonicalLevel level ∈ Level.names :=
    (not_isReported_level_iff given).mp (exists_ofSources_eq_ok_iff.mp ⟨settings, loaded⟩ _)
  rcases ofSources_eq_ok_iff.mp loaded with ⟨_, _, stored, _, _⟩
  rw [setting_of_supplied? given, readLevel_of_mem_names listed] at stored
  exact ⟨listed, (Except.ok.inj stored).symm⟩

/-- Two spellings of one level give the same settings. -/
theorem ofSources_of_restates {settings : Settings}
    (given : supplied? sources "LOG_LEVEL" = some (.string level))
    (loaded : ofSources sources = .ok settings) (restates : Restates sources others again)
    (same : canonicalLevel again = canonicalLevel level) : ofSources others = .ok settings := by
  rcases logLevel_of_ofSources given loaded with ⟨listed, logLevel⟩
  rcases ofSources_eq_ok_iff.mp loaded with ⟨environment, debug, _, camelize, logPredicates⟩
  refine ofSources_eq_ok_iff.mpr ⟨?_, ?_, ?_, ?_, ?_⟩
  · rwa [setting_congr (restates.rest _ (by decide))]
  · rwa [setting_congr (restates.rest _ (by decide))]
  · rw [← same] at listed
    rw [setting_of_supplied? restates.level, readLevel_of_mem_names listed, logLevel, same]
    rfl
  · rwa [setting_congr (restates.rest _ (by decide))]
  · rwa [setting_congr (restates.rest _ (by decide))]

/-! ## The level that is set -/

/-- What settings accept as a level, and that the journal finds what they store. -/
theorem levels_agree [Machine]
    (given : supplied? sources "LOG_LEVEL" = some (.string level)) :
    ((∃ settings, ofSources sources = .ok settings) ↔ ∀ name, ¬ IsReported sources name) ∧
      (¬ IsReported sources "LOG_LEVEL" ↔ canonicalLevel level ∈ Level.names) ∧
      (canonicalLevel level ∈ Level.names ↔
        ∃ name ∈ Level.names, Level.IsSpelling name level) ∧
      ∀ settings, ofSources sources = .ok settings →
        settings.logLevel = canonicalLevel level ∧
          (∀ others again, Restates sources others again →
            again = settings.logLevel ∨ canonicalLevel again = canonicalLevel level →
              ofSources others = .ok settings) ∧
          ∃ number, Level.threshold? settings.logLevel = some number ∧
            Lookup.found? settings.logLevel = some (.threshold (.number number)) ∧
            ∀ journal : Journal, ∀ debug, journal.handlers = 0 →
              ∃ later, journal.setup debug settings.logLevel = .ok later ∧
                later.rootLevel = .number number := by
  refine ⟨exists_ofSources_eq_ok_iff, not_isReported_level_iff given, ?_, ?_⟩
  · constructor
    · exact fun listed => ⟨_, listed, (canonicalLevel_eq_iff_isSpelling listed).mp rfl⟩
    · rintro ⟨name, listed, spelling⟩
      rwa [(canonicalLevel_eq_iff_isSpelling listed).mpr spelling]
  · intro settings loaded
    rcases logLevel_of_ofSources given loaded with ⟨listed, stored⟩
    rcases Level.exists_threshold?_iff.mpr listed with ⟨number, known⟩
    rw [← stored] at known
    have found := Lookup.found?_of_threshold? known
    refine ⟨stored, ?_, number, known, found, ?_⟩
    · rintro others again restates (rfl | same)
      · refine ofSources_of_restates given loaded restates ?_
        rw [stored, canonicalLevel_of_mem_names listed]
      · exact ofSources_of_restates given loaded restates same
    · exact fun journal debug first => Journal.exists_setup_of_found? first debug found

/-- The environment asks for no threshold, with a long s, and the caller in another spelling. -/
theorem levels_agree_notset :
    let sources := [[("DEBUG", .bool true)], sourceOf [("LOG_LEVEL", "notſet"), ("DEBUG", "maybe")]]
    let others := [("LOG_LEVEL", .string "NotSet")] :: sources
    let settings : Settings := ⟨"development", true, "NOTSET", true, false⟩
    supplied? sources "LOG_LEVEL" = some (.string "notſet") ∧
      ofSources sources = .ok settings ∧ ofSources others = .ok settings ∧
      (∃ name ∈ Level.names, Level.IsSpelling name "notſet") ∧
      ∃ later, Journal.fresh.setup true "NOTSET" = .ok later ∧ later.rootLevel = .number 0 := by
  intro sources others settings
  have given : supplied? sources "LOG_LEVEL" = some (.string "notſet") := rfl
  have loaded : ofSources sources = .ok settings := by decide +kernel
  rcases levels_agree given with ⟨_, _, spelled, agrees⟩
  rcases agrees settings loaded with ⟨stored, restated, number, known, _, applied⟩
  have restates : Restates sources others "NotSet" := restates_cons sources "NotSet"
  have listed : canonicalLevel "notſet" ∈ Level.names := by decide +kernel
  have same : canonicalLevel "NotSet" = canonicalLevel "notſet" := by decide +kernel
  obtain rfl : 0 = number := Option.some_inj.mp known
  exact ⟨given, loaded, restated others "NotSet" restates (.inr same), spelled.mp listed,
    applied Journal.fresh true rfl⟩

end Settings

end Criteria
