import Criteria.Proofs.Json.Strings
import Criteria.Proofs.Selection.Messages

/-!
# Lists of values in messages

A filter without a value that has a list of values shows the list in its message, as JSON in
printable characters of ASCII.  The list can be read back from there (`Filter.ShowsList`), so
filters that differ in nothing but their lists have different messages (`describe_withValues_inj`),
and a selection that refuses because of them reports both (`values_told_apart`).
-/

namespace Criteria

/-- The criterion with another list of values. -/
def Criterion.withValues (criterion : Criterion) (values : List String) : Criterion :=
  { criterion with values? := some values }

namespace Filter

/-- The filter with other values in its list. -/
def withValues (filter : Filter) (values : List String) : Filter :=
  ⟨filter.criterion.withValues values, filter.policy⟩

variable {filter : Filter} {values : List String}

/-! ## What is shown -/

/-- The filter shows a list: in printable characters of ASCII, as JSON from which it is read. -/
structure ShowsList (filter : Filter) (values : List String) : Prop where
  visible : ∀ character ∈ filter.displayValue.toList, Json.IsVisible character
  reads : Json.read? filter.displayValue = some (.array (values.map .string))

section Shown

variable (noValue : filter.criterion.value? = none) (given : filter.criterion.values? = some values)

include noValue given

theorem displayValue_eq_render :
    filter.displayValue = (Json.array (values.map Json.string)).render := by
  rw [displayValue, noValue, given]

/-- Every list of values is shown, so that it can be read back. -/
theorem showsList : filter.ShowsList values := by
  constructor
  case visible =>
    rw [displayValue_eq_render noValue given]
    exact Json.isVisible_of_mem_render_strings values
  case reads =>
    rw [displayValue_eq_render noValue given]
    exact Json.read?_render_strings values

end Shown

/-! ## Filters with different lists -/

/-- Validation asks whether there is a list, and never what is in it. -/
theorem validate_withValues (given : filter.criterion.values? = some values) (others : List String)
    (config : Config) : (filter.withValues others).validate config = filter.validate config := by
  have same : ∀ rule ∈ filter.policy.rules,
      rule.evaluate config (filter.criterion.withValues others) =
        rule.evaluate config filter.criterion := by
    intro rule member
    rcases Policy.mem_rules_cases member with
      rfl | rfl | rfl | rfl | rfl | ⟨format, _, rfl⟩
    · rfl
    · rfl
    · simp only [Rule.evaluate, Rule.valuesPresent, Criterion.withValues, given,
        Option.isSome_some]
      rfl
    · rfl
    · rfl
    · rfl
  exact List.filterMap_congr same

/-- The parts of a message around what is shown do not depend on the list. -/
theorem describe_withValues_inj {first second : List String}
    (noValue : filter.criterion.value? = none) {config : Config} {violations : List Violation}
    (found : violations ≠ []) :
    (filter.withValues first).describe config violations =
        (filter.withValues second).describe config violations ↔
      first = second := by
  have shown (values : List String) :
      (filter.withValues values).displayValue = (Json.array (values.map Json.string)).render :=
    displayValue_eq_render noValue rfl
  rw [← Json.render_strings_inj, ← shown first, ← shown second, describe_of_ne_nil _ config found,
    describe_of_ne_nil _ config found]
  simp only [heading, Option.some.injEq, String.append_left_inj]
  exact String.append_right_inj _

end Filter

namespace Selection

/-- Filters that differ in nothing but their lists are both reported, each by its own message. -/
theorem exists_messages_withValues
    {selection : Selection} (stage : selection.stage = .unvalidated)
    {filter : Filter} (noValue : filter.criterion.value? = none)
    {first second : List String} (different : first ≠ second)
    (firstMember : filter.withValues first ∈ selection.filters)
    (secondMember : filter.withValues second ∈ selection.filters)
    {config : Config} (invalid : (filter.withValues first).validate config ≠ []) :
    ∃ messages firstMessage secondMessage,
      (selection.validate config).answer = .error (.invalidFilters messages) ∧
        (filter.withValues first).errorMessage config = some firstMessage ∧
        (filter.withValues second).errorMessage config = some secondMessage ∧
        firstMessage ∈ messages ∧ secondMessage ∈ messages ∧ firstMessage ≠ secondMessage := by
  have accounts := errorMessages_accounts selection.filters config
  have alike : (filter.withValues second).validate config =
      (filter.withValues first).validate config :=
    @Filter.validate_withValues (filter.withValues first) first rfl second config
  rcases accounts.complete _ firstMember invalid with ⟨firstMessage, firstListed, firstRendered⟩
  rcases accounts.complete _ secondMember (by rwa [alike]) with
    ⟨secondMessage, secondListed, secondRendered⟩
  refine ⟨_, firstMessage, secondMessage, ?_, firstRendered, secondRendered, firstListed,
    secondListed, ?_⟩
  · rw [validate_answer_of_unvalidated stage, if_neg (List.ne_nil_of_mem firstListed)]
  · rintro rfl
    rw [← firstRendered] at secondRendered
    rw [Filter.errorMessage, Filter.errorMessage, alike] at secondRendered
    exact different ((Filter.describe_withValues_inj noValue invalid).mp secondRendered.symm)

/--
A list in place of a value is shown so that it can be read: no two lists are shown alike.  Filters
that differ in nothing but their lists have the same violations, and never the same message about
them; a selection of both that refuses because of them reports both messages.
-/
theorem values_told_apart
    {first second : Filter} {values others : List String}
    (firstBare : first.criterion.value? = none) (firstGiven : first.criterion.values? = some values)
    (secondBare : second.criterion.value? = none)
    (secondGiven : second.criterion.values? = some others) :
    first.ShowsList values ∧ second.ShowsList others ∧
      (first.displayValue = second.displayValue ↔ values = others) ∧
      (second = first.withValues others → values ≠ others → ∀ config : Config,
        second.validate config = first.validate config ∧
          (∀ violations, violations ≠ [] →
            first.describe config violations ≠ second.describe config violations) ∧
          ∀ selection : Selection, selection.stage = .unvalidated →
            first ∈ selection.filters → second ∈ selection.filters →
              first.validate config ≠ [] →
                ∃ messages firstMessage secondMessage,
                  (selection.validate config).answer = .error (.invalidFilters messages) ∧
                    first.errorMessage config = some firstMessage ∧
                    second.errorMessage config = some secondMessage ∧
                    firstMessage ∈ messages ∧ secondMessage ∈ messages ∧
                    firstMessage ≠ secondMessage) := by
  refine ⟨Filter.showsList firstBare firstGiven, Filter.showsList secondBare secondGiven, ?_, ?_⟩
  · rw [Filter.displayValue_eq_render firstBare firstGiven,
      Filter.displayValue_eq_render secondBare secondGiven]
    exact Json.render_strings_inj
  · rintro rfl different config
    have itself : first.withValues values = first := by
      rw [Filter.withValues, Criterion.withValues, ← firstGiven]
    refine ⟨Filter.validate_withValues firstGiven others config, ?_, ?_⟩
    · intro violations found same
      rw [← itself] at same
      exact different ((Filter.describe_withValues_inj firstBare found).mp same)
    · intro selection stage firstMember secondMember invalid
      rw [← itself] at firstMember invalid ⊢
      exact exists_messages_withValues stage firstBare different firstMember secondMember invalid

/-- A comparison of names that lacks its value and has a list instead. -/
def listFilter (values : List String) : Filter :=
  ⟨⟨⟨"name", .string⟩, .equal, false, none, some values, none⟩, .string⟩

/-- One item that looks like two, and the two; a character of two units in both. -/
theorem values_told_apart_quoted :
    (listFilter ["a\", \"😀"]).displayValue = "[\"a\\\", \\\"\\ud83d\\ude00\"]" ∧
      (listFilter ["a", "😀"]).displayValue = "[\"a\", \"\\ud83d\\ude00\"]" ∧
      Json.read? (listFilter ["a\", \"😀"]).displayValue =
        some (.array [.string "a\", \"😀"]) ∧
      ∃ messages firstMessage secondMessage,
        (validate ⟨people, [listFilter ["a\", \"😀"], listFilter ["a", "😀"]], .unvalidated⟩
            ⟨true, false, ⟨2024, 5, 6⟩⟩).answer = .error (.invalidFilters messages) ∧
          firstMessage ∈ messages ∧ secondMessage ∈ messages ∧ firstMessage ≠ secondMessage := by
  have apart : listFilter ["a", "😀"] = (listFilter ["a\", \"😀"]).withValues ["a", "😀"] := rfl
  rcases @values_told_apart (listFilter ["a\", \"😀"]) (listFilter ["a", "😀"]) _ _ rfl rfl rfl rfl
    with ⟨shows, _, _, reported⟩
  rcases reported apart (by decide) ⟨true, false, ⟨2024, 5, 6⟩⟩ with ⟨_, _, reported⟩
  refine ⟨by decide, by decide, shows.reads, ?_⟩
  rcases reported ⟨people, [listFilter ["a\", \"😀"], listFilter ["a", "😀"]], .unvalidated⟩ rfl
      (by simp) (by simp) (by decide) with
    ⟨messages, firstMessage, secondMessage, refused, _, _, firstListed, secondListed, different⟩
  exact ⟨messages, firstMessage, secondMessage, refused, firstListed, secondListed, different⟩

end Selection

end Criteria
