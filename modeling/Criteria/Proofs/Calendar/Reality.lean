import Mathlib.Algebra.Order.Group.Nat
import Criteria.Calendar.Reader

/-!
# Moments that are read are real

Whatever way a date is written, as a day of a month or as a day of a week, it is only read if it is
on the calendar.  The clock is held to a day of 24 hours, and an offset to less than a day.  An
offset of less than a second is read as none at all, so that what is left is at least a second
(`Moment.readDate?_of_read?`).
-/

namespace Criteria

open Criteria.Calendar

/-! ## Dates -/

namespace Date

theorem monthLength_le (year month : ℕ) : monthLength year month ≤ 31 := by
  unfold monthLength
  split
  · decide
  · rw [List.getD_eq_getElem?_getD]
    cases found : (monthLengths year)[month - 1]? with
    | none => exact Nat.zero_le 31
    | some length =>
        have member := List.mem_of_getElem? found
        simp only [monthLengths, List.mem_cons, List.not_mem_nil, or_false] at member
        rw [Option.getD_some]
        split at member <;> omega

/-- A date is real if its parts are within their bounds. -/
theorem isReal_iff {date : Date} :
    date.isReal = true ↔
      (1 ≤ date.year ∧ date.year ≤ 9999) ∧ (1 ≤ date.month ∧ date.month ≤ 12) ∧
        1 ≤ date.day ∧ date.day ≤ monthLength date.year date.month := by
  have bounded (some : 0 < monthLength date.year date.month) :
      1 ≤ date.month ∧ date.month ≤ 12 := by
    unfold monthLength at some
    split at some
    · cases some
    · rename_i notZero
      refine ⟨Nat.pos_of_ne_zero notZero, ?_⟩
      by_contra beyond
      have none : (monthLengths date.year)[date.month - 1]? = none := by
        rw [List.getElem?_eq_none_iff]
        change 12 ≤ date.month - 1
        omega
      rw [List.getD_eq_getElem?_getD, none] at some
      cases some
  simp only [isReal, Bool.and_eq_true, decide_eq_true_eq]
  constructor
  · rintro ⟨⟨year, first⟩, last⟩
    exact ⟨year, bounded (first.trans last), first, last⟩
  · rintro ⟨year, _, first, last⟩
    exact ⟨⟨year, first⟩, last⟩

theorem ofParts?_of_isReal {date : Date} (real : date.isReal = true) :
    ofParts? date.year date.month date.day = some date :=
  if_pos real

variable {year : ℕ} {date : Date}

theorem isReal_of_ofParts? {month day : ℕ} (found : ofParts? year month day = some date) :
    date.isReal = true := by
  simp only [ofParts?] at found
  split at found
  · rename_i real
    rw [← Option.some.inj found]
    exact real
  · cases found

/-- A day that is counted from the first of a year, on or back, is on the calendar. -/
theorem isReal_of_ofYearIndex? {index : ℤ} (found : ofYearIndex? year index = some date) :
    date.isReal = true := by
  unfold ofYearIndex? at found
  split at found
  · exact isReal_of_ofParts? found
  · split at found
    · exact isReal_of_ofParts? found
    · exact isReal_of_ofParts? found

/-- A day that is found by its week is on the calendar. -/
theorem isReal_of_ofWeek? {week weekday : ℕ} (found : ofWeek? year week weekday = some date) :
    date.isReal = true := by
  unfold ofWeek? at found
  split at found
  · exact isReal_of_ofYearIndex? found
  · cases found

end Date

namespace ClockTime

theorem isReal_iff {time : ClockTime} :
    time.isReal = true ↔
      time.hour ≤ 23 ∧ time.minute ≤ 59 ∧ time.second ≤ 59 ∧ time.microsecond ≤ 999999 := by
  simp only [isReal, Bool.and_eq_true, decide_eq_true_eq, and_assoc]

end ClockTime

namespace Calendar

variable {text : List Char}

theorem isReal_of_readWeek?
    {hyphenated : Bool} {year : ℕ} {date : Date}
    (read : readWeek? hyphenated year text = some date) :
    date.isReal = true := by
  simp only [readWeek?, Option.bind_eq_bind, Option.bind_eq_some_iff] at read
  rcases read with ⟨⟨week, rest⟩, _, read⟩
  split at read
  · exact Date.isReal_of_ofWeek? read
  · split at read
    · rcases Option.bind_eq_some_iff.mp read with ⟨_, _, read⟩
      rcases Option.bind_eq_some_iff.mp read with ⟨weekday, _, read⟩
      exact Date.isReal_of_ofWeek? read
    · rcases Option.bind_eq_some_iff.mp read with ⟨_, _, read⟩
      rcases Option.bind_eq_some_iff.mp read with ⟨weekday, _, read⟩
      exact Date.isReal_of_ofWeek? read

/-- In whichever form a date is written, what is read is on the calendar. -/
theorem isReal_of_readDate? {date : Date} (read : readDate? text = some date) :
    date.isReal = true := by
  simp only [readDate?, Option.bind_eq_bind, Option.bind_eq_some_iff] at read
  rcases read with ⟨⟨year, rest⟩, _, read⟩
  split at read
  · exact isReal_of_readWeek? read
  · exact isReal_of_readWeek? read
  · rcases Option.bind_eq_some_iff.mp read with ⟨⟨month, _⟩, _, read⟩
    rcases Option.bind_eq_some_iff.mp read with ⟨_, _, read⟩
    rcases Option.bind_eq_some_iff.mp read with ⟨day, _, read⟩
    exact Date.isReal_of_ofParts? read
  · rcases Option.bind_eq_some_iff.mp read with ⟨⟨month, _⟩, _, read⟩
    rcases Option.bind_eq_some_iff.mp read with ⟨day, _, read⟩
    exact Date.isReal_of_ofParts? read

/-! ## Offsets -/

/-- Whether a number of microseconds is an offset: less than a day, and not less than a second. -/
def IsOffset (offset : ℤ) : Prop :=
  offset.natAbs < microsecondsPerDay ∧ (offset = 0 ∨ 1000000 ≤ offset.natAbs)

theorem isOffset_zero : IsOffset 0 :=
  ⟨by decide, .inl rfl⟩

theorem isOffset_signedOffset
    {magnitude : ℕ} (small : magnitude < microsecondsPerDay) (negative : Bool) :
    IsOffset (signedOffset negative magnitude) := by
  unfold signedOffset
  split
  · exact isOffset_zero
  · split
    · exact ⟨by omega, .inr (by omega)⟩
    · exact ⟨by omega, .inr (by omega)⟩

/-- Whatever is read as an offset is one. -/
theorem isOffset_of_readOffset? {offset : ℤ} (read : readOffset? text = some offset) :
    IsOffset offset := by
  unfold readOffset? at read
  split at read
  · cases read
  · split at read
    · split at read
      · cases read
        exact isOffset_zero
      · cases read
    · rcases Option.bind_eq_some_iff.mp read with ⟨⟨clock, left⟩, _, read⟩
      simp only [Bool.and_eq_true, decide_eq_true_eq] at read
      split at read
      · rename_i finished
        cases read
        exact isOffset_signedOffset finished.2 _
      · cases read

/-- Whatever is read as a time is on the clock, and its offset is one. -/
theorem inRange_of_readTime?
    {time : ClockTime} {offset? : Option ℤ} (read : readTime? text = some (time, offset?)) :
    time.isReal = true ∧ ∀ offset ∈ offset?, IsOffset offset := by
  simp only [readTime?, Option.bind_eq_bind, Option.bind_eq_some_iff] at read
  rcases read with ⟨⟨clock, left⟩, _, read⟩
  split at read
  · split at read
    · rcases Option.bind_eq_some_iff.mp read with ⟨_, absent, read⟩
      split at read
      · rename_i real
        cases absent
        cases read
        exact ⟨real, fun _ none => nomatch none⟩
      · cases read
    · cases read
  · rcases Option.bind_eq_some_iff.mp read with ⟨_, found, read⟩
    rcases Option.map_eq_some_iff.mp found with ⟨offset, offsetRead, rfl⟩
    split at read
    · rename_i real
      cases read
      refine ⟨real, ?_⟩
      rintro _ ⟨⟩
      exact isOffset_of_readOffset? offsetRead
    · cases read

end Calendar

/-! ## Moments -/

namespace Moment

theorem isReal_iff {moment : Moment} :
    moment.isReal = true ↔
      moment.date.isReal = true ∧ moment.time.isReal = true ∧
        ∀ offset ∈ moment.offset?, offset.natAbs < microsecondsPerDay := by
  simp only [isReal, Bool.and_eq_true, and_assoc, Option.all_eq_true, decide_eq_true_eq,
    Option.mem_def]

/-- What is true of every moment that is read. -/
structure InRange (moment : Moment) : Prop where
  real : moment.isReal = true
  /-- An offset is at least a second, if there is one at all. -/
  offset : ∀ offset ∈ moment.offset?, offset = 0 ∨ 1000000 ≤ offset.natAbs

theorem inRange_of_parts
    {moment : Moment} (date : moment.date.isReal = true) (time : moment.time.isReal = true)
    (offset : ∀ offset ∈ moment.offset?, IsOffset offset) : moment.InRange where
  real := isReal_iff.mpr ⟨date, time, fun given member => (offset given member).1⟩
  offset := fun given member => (offset given member).2

/-- The date of a moment is read from its own part of the text, and the clock from what follows. -/
theorem readDate?_of_read? {text : String} {moment : Moment} (read : read? text = some moment) :
    readDate? (text.toList.take (dateLength text.toList)) = some moment.date ∧ moment.InRange := by
  simp only [read?, Option.bind_eq_bind] at read
  split at read
  · cases read
  · rcases Option.bind_eq_some_iff.mp read with ⟨date, dateRead, read⟩
    have real := isReal_of_readDate? dateRead
    split at read
    · cases read
      exact ⟨dateRead, inRange_of_parts real rfl fun _ none => nomatch none⟩
    · rcases Option.bind_eq_some_iff.mp read with ⟨⟨time, offset?⟩, timeRead, read⟩
      cases read
      rcases inRange_of_readTime? timeRead with ⟨timeReal, offsetReal⟩
      exact ⟨dateRead, inRange_of_parts real timeReal offsetReal⟩

end Moment

end Criteria
