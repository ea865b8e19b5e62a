import Criteria.Proofs.Filter.Violations
import Criteria.Proofs.Selection.Construction
import Criteria.Proofs.Value.Rereading

/-!
# The examples for dates

Where a value is no date, the message quotes two texts that are: the date of the day, and the
midnight at which it begins in universal time.  Both pass the check on any day of the calendar, and
both are bound to what they show (`IsExample`).  A client who takes up one of them is rid of that
violation, and has the others as before (`examples_work`).
-/

namespace Criteria

/-! ## What a message quotes -/

/-- Of pieces between marks those that a mark opens, that is, every other one from the second on. -/
def openedPieces : List (List Char) → List (List Char)
  | _ :: opened :: rest => opened :: openedPieces rest
  | _ => []

/-- The parts of a text that stand in quotation marks. -/
def quotations (text : String) : List String :=
  (openedPieces (text.toList.splitOn '"')).map String.ofList

theorem Date.mark_notMem_text (date : Date) : '"' ∉ date.text := by
  have digits (width number : ℕ) : '"' ∉ paddedText width number := fun member =>
    ne_of_isAsciiDigit (isAsciiDigit_of_mem_paddedText member) (by decide) rfl
  simp only [text, List.mem_append, List.mem_cons, digits, false_or, or_false]
  decide

namespace ValueFormat

theorem text_midnightOf (today : Date) :
    (Moment.midnightOf today (some 0)).text = today.text ++ "T00:00:00+00:00".toList :=
  rfl

/-- The message, taken apart at its quotation marks. -/
theorem toList_message (config : Config) :
    (moment.message config).toList =
      ['"'].intercalate ["only supports ISO8601 values (".toList, config.today.text, ", ".toList,
        (Moment.midnightOf config.today (some 0)).text, ")".toList] := by
  simp [moment, momentExamples, List.intercalate]

/-- The message quotes the examples and nothing else. -/
theorem quotations_message (config : Config) :
    quotations (moment.message config) = momentExamples config.today := by
  have plain : ∀ piece ∈ ["only supports ISO8601 values (".toList, config.today.text, ", ".toList,
      (Moment.midnightOf config.today (some 0)).text, ")".toList], '"' ∉ piece := by
    have date := config.today.mark_notMem_text
    simp only [List.forall_mem_cons, text_midnightOf, List.mem_append, not_or]
    exact ⟨by decide, date, by decide, ⟨date, by decide⟩, by decide, nofun⟩
  rw [quotations, toList_message, List.splitOn_intercalate '"' plain (List.cons_ne_nil _ _)]
  rfl

end ValueFormat

/-! ## What the examples are good for -/

/-- A text that shows a date: it passes the check, and is bound to the date or its midnight. -/
structure IsExample [Machine] (today : Date) (offset? : Option Int) (shown : String) : Prop where
  accepted : isMoment shown = true
  date : Binding.ofText .date shown = .ok (.converted (.date today))
  datetime :
    Binding.ofText .datetime shown = .ok (.converted (.moment (Moment.midnightOf today offset?)))

section Machine

variable [Machine] {today : Date} {offset? : Option Int} {shown : String}

theorem isExample_of_read? (read : Moment.read? shown = some (Moment.midnightOf today offset?)) :
    IsExample today offset? shown where
  accepted := by
    rw [isMoment, read]
    rfl
  date := Binding.ofText_date_eq_converted_iff.mpr ⟨_, read, rfl⟩
  datetime := Binding.ofText_datetime_eq_converted_iff.mpr ⟨_, read, rfl⟩

/-- The check that an example passes is the format of the policy for dates. -/
theorem IsExample.accepts (shows : IsExample today offset? shown) :
    ∀ format ∈ Policy.date.format?, format.accepts shown = true := by
  intro format formatted
  rw [← Option.some.inj formatted]
  exact shows.accepted

/-- The date of the day is an example for its midnight on a clock that is not known. -/
theorem isExample_dateText (real : today.isReal = true) :
    IsExample today none (String.ofList today.text) :=
  isExample_of_read? (Moment.read?_dateText real)

theorem isExample_momentText (real : today.isReal = true) :
    IsExample today (some 0) (String.ofList (Moment.midnightOf today (some 0)).text) := by
  refine isExample_of_read? (Moment.read?_text (Moment.inRange_of_parts real rfl ?_))
  intro offset given
  cases given
  exact Calendar.isOffset_zero

end Machine

/-! ## Resubmission -/

/-- The criterion with another text for its value. -/
def Criterion.withValue (criterion : Criterion) (text : String) : Criterion :=
  { criterion with value? := some text }

namespace Filter

/-- What is said of the values of a filter is what its format says. -/
theorem message_of_valueFormatInvalid
    {filter : Filter} {format : ValueFormat} (formatted : filter.policy.format? = some format)
    {config : Config} {violation : Violation} (reported : violation ∈ filter.validate config)
    (kind : violation.kind = .valueFormatInvalid) : violation.message = format.message config := by
  rcases Rule.exists_rule_of_mem_evaluateAll reported with ⟨rule, member, _, rfl⟩
  rcases Policy.mem_rules_cases member with
    rfl | rfl | rfl | rfl | rfl | ⟨given, same, rfl⟩
  · cases kind
  · cases kind
  · cases kind
  · cases kind
  · cases kind
  · rw [formatted] at same
    cases same
    rfl

section Resubmission

variable {criterion : Criterion} {policy : Policy} {text : String}

/-- A value that the format accepts does not break it. -/
theorem not_breaks_format_withValue
    (accepted : ∀ format ∈ policy.format?, format.accepts text = true) :
    ¬ Filter.Breaks ⟨criterion.withValue text, policy⟩ .valueFormatInvalid := by
  rintro ⟨_, _, _, format, formatted, value, given, rejected⟩
  cases given
  rw [accepted format formatted] at rejected
  cases rejected

/-- Only the kinds that ask for a value look at it, and where a format is broken there is one. -/
theorem breaks_withValue_iff
    (breaks : Filter.Breaks ⟨criterion, policy⟩ .valueFormatInvalid)
    {kind : ViolationKind} (other : kind ≠ .valueFormatInvalid) :
    Filter.Breaks ⟨criterion.withValue text, policy⟩ kind ↔
      Filter.Breaks ⟨criterion, policy⟩ kind := by
  cases kind with
  | operationNotSupported | valuesRequired => exact Iff.rfl
  | booleanTokenInvalid =>
      exact iff_of_false (fun token => breaks.1 token.1) (fun token => breaks.1 token.1)
  | valueRequired =>
      refine iff_of_false (fun missing => ?_) fun missing =>
        not_breaks_presence_and_format _ rfl missing breaks
      cases missing.2.2.2
  | valueOrColumnRequired =>
      refine iff_of_false (fun missing => ?_) fun missing =>
        not_breaks_presence_and_format _ rfl missing breaks
      cases missing.2.1
  | valueFormatInvalid => exact absurd rfl other

/-- With a value that has the format a filter keeps all its violations but the one of the format. -/
theorem violationKinds_withValue
    (accepted : ∀ format ∈ policy.format?, format.accepts text = true)
    {config : Config} (reported : .valueFormatInvalid ∈ violationKinds ⟨criterion, policy⟩ config)
    (later : Config) :
    violationKinds ⟨criterion.withValue text, policy⟩ later =
      (violationKinds ⟨criterion, policy⟩ config).erase .valueFormatInvalid := by
  have breaks := (mem_violationKinds_iff _).mp reported
  have cleared : ¬ Filter.Breaks ⟨criterion.withValue text, policy⟩ .valueFormatInvalid :=
    not_breaks_format_withValue accepted
  rw [violationKinds_eq_filter, violationKinds_eq_filter,
    (ViolationKind.nodup_ranked.filter _).erase_eq_filter, List.filter_filter]
  refine List.filter_congr fun kind _ => ?_
  by_cases same : kind = .valueFormatInvalid
  · subst same
    simp [cleared]
  · simp [same, breaks_withValue_iff breaks same]

end Resubmission

/--
On any day of the calendar the message about dates quotes two examples, and on columns of dates as
on columns of moments either of them is bound to what it shows.  Every filter on such a column whose
value is no date is answered with that message.  Once an example takes the place of its value, on
the same day or on another, it has that violation no more, and the others as before.
-/
theorem examples_work [Machine] (config : Config) (real : config.today.isReal = true) :
    ∃ dateShown momentShown,
      quotations (ValueFormat.moment.message config) = [dateShown, momentShown] ∧
        IsExample config.today none dateShown ∧ IsExample config.today (some 0) momentShown ∧
        ∀ criterion : Criterion,
          criterion.column.type = .date ∨ criterion.column.type = .datetime →
            ∃ filter, ofCriterion criterion = .ok filter ∧
              (∀ violation ∈ filter.validate config, violation.kind = .valueFormatInvalid →
                violation.message = ValueFormat.moment.message config) ∧
              ∀ shown ∈ [dateShown, momentShown], ∀ later : Config,
                ∃ again, ofCriterion (criterion.withValue shown) = .ok again ∧
                  .valueFormatInvalid ∉ again.violationKinds later ∧
                  (.valueFormatInvalid ∈ filter.violationKinds config →
                    again.violationKinds later =
                      (filter.violationKinds config).erase .valueFormatInvalid) := by
  have dateShown := isExample_dateText real
  have momentShown := isExample_momentText real
  refine ⟨_, _, ValueFormat.quotations_message config, dateShown, momentShown, ?_⟩
  intro criterion temporal
  have policy : Policy.ofType? criterion.column.type = some .date := by
    rcases temporal with same | same <;> rw [same] <;> rfl
  refine ⟨⟨criterion, .date⟩, ofCriterion_eq_ok_iff.mpr ⟨rfl, policy⟩,
    fun violation => message_of_valueFormatInvalid rfl, ?_⟩
  intro shown listed later
  have accepted : ∀ format ∈ Policy.date.format?, format.accepts shown = true := by
    rcases List.mem_pair.mp listed with same | same
    · rw [same]
      exact dateShown.accepts
    · rw [same]
      exact momentShown.accepts
  refine ⟨⟨criterion.withValue shown, .date⟩, ofCriterion_eq_ok_iff.mpr ⟨rfl, policy⟩, ?_,
    fun reported => violationKinds_withValue accepted reported later⟩
  rw [mem_violationKinds_iff]
  exact not_breaks_format_withValue accepted

/-- A criterion on a column of dates: its value is no date, and its operation is not for dates. -/
def undatedCriterion : Criterion where
  column := ⟨"born", .date⟩
  operation := .equal
  isOr := false
  value? := some "soon"
  values? := none
  otherColumn? := none

/-- On a leap day of the year 4; the example is taken up a day later. -/
theorem examples_work_leapDay :
    quotations (ValueFormat.moment.message ⟨true, false, ⟨4, 2, 29⟩⟩) =
        ["0004-02-29", "0004-02-29T00:00:00+00:00"] ∧
      Binding.ofText .date "0004-02-29T00:00:00+00:00" = .ok (.converted (.date ⟨4, 2, 29⟩)) ∧
      Binding.ofText .datetime "0004-02-29" =
        .ok (.converted (.moment ⟨⟨4, 2, 29⟩, .midnight, none⟩)) ∧
      violationKinds ⟨undatedCriterion, .date⟩ ⟨true, false, ⟨4, 2, 29⟩⟩ =
        [.operationNotSupported, .valueFormatInvalid] ∧
      violationKinds ⟨undatedCriterion.withValue "0004-02-29", .date⟩ ⟨true, false, ⟨4, 3, 1⟩⟩ =
        [.operationNotSupported] := by
  have quoted : quotations (ValueFormat.moment.message ⟨true, false, ⟨4, 2, 29⟩⟩) =
      ["0004-02-29", "0004-02-29T00:00:00+00:00"] := by
    decide
  have kinds : violationKinds ⟨undatedCriterion, .date⟩ ⟨true, false, ⟨4, 2, 29⟩⟩ =
      [.operationNotSupported, .valueFormatInvalid] := by
    decide
  rcases examples_work ⟨true, false, ⟨4, 2, 29⟩⟩ (by decide) with
    ⟨dateShown, momentShown, shown, date, moment, resubmitted⟩
  rw [quoted] at shown
  cases shown
  rcases resubmitted undatedCriterion (.inl rfl) with ⟨filter, made, _, cleared⟩
  rcases cleared _ List.mem_cons_self ⟨true, false, ⟨4, 3, 1⟩⟩ with ⟨again, madeAgain, _, others⟩
  cases made
  cases madeAgain
  refine ⟨quoted, moment.date, date.datetime, kinds, ?_⟩
  have left := others (by rw [kinds]; decide)
  rw [kinds] at left
  exact left

end Filter

end Criteria
