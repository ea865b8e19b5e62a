import Criteria.Number.Digits

/-!
# Calendar dates

Dates of the proleptic Gregorian calendar in the years 1 to 9999, and the week dates that name them.
-/

namespace Criteria

/-- A day by year, month and day, which need not be on the calendar. -/
structure Date where
  year : Nat
  month : Nat
  day : Nat
deriving DecidableEq, Repr

namespace Date

/-- Whether the year has a 29th of February. -/
def isLeapYear (year : Nat) : Bool :=
  year % 4 == 0 && (year % 100 != 0 || year % 400 == 0)

/-- The numbers of days in the months of a year. -/
def monthLengths (year : Nat) : List Nat :=
  [31, if isLeapYear year then 29 else 28, 31, 30, 31, 30, 31, 31, 30, 31, 30, 31]

def yearLength (year : Nat) : Nat :=
  if isLeapYear year then 366 else 365

/-- The length of a month; a month that does not exist has no days. -/
def monthLength (year month : Nat) : Nat :=
  if month = 0 then 0 else (monthLengths year).getD (month - 1) 0

/-- Whether the date is on the calendar, in the years 1 to 9999. -/
def isReal (date : Date) : Bool :=
  1 ≤ date.year && date.year ≤ 9999 && 1 ≤ date.day &&
    date.day ≤ monthLength date.year date.month

/-- The date of the given year, month and day, if it is on the calendar. -/
def ofParts? (year month day : Nat) : Option Date :=
  let date : Date := ⟨year, month, day⟩
  if date.isReal then some date else none

/-- The weekday of the first of January, counted from Monday as 0. -/
def firstWeekday (year : Nat) : Nat :=
  let before := year - 1
  (365 * before + before / 4 - before / 100 + before / 400) % 7

/-- How many days after the first of January the first week of a year starts; it may be before. -/
def firstMonday (year : Nat) : Int :=
  let weekday : Int := firstWeekday year
  if weekday ≤ 3 then -weekday else 7 - weekday

/-- Whether a year has 53 weeks instead of 52. -/
def isLongYear (year : Nat) : Bool :=
  firstWeekday year == 3 || (firstWeekday year == 2 && isLeapYear year)

/-- Walks through months of the given lengths to the day with the given index. -/
def walkMonths : List Nat → Nat → Nat → Nat × Nat
  | [], month, index => (month, index + 1)
  | length :: rest, month, index =>
      if index < length then (month, index + 1)
      else walkMonths rest (month + 1) (index - length)

/-- The month and the day of the month of the day with the given index in its year. -/
def monthAndDay (year index : Nat) : Nat × Nat :=
  walkMonths (monthLengths year) 1 index

/--
The day so many days after the first of January of a year; the day may lie in the year before or
in the year after.
-/
def ofYearIndex? (year : Nat) (index : Int) : Option Date :=
  if index < 0 then
    ofParts? (year - 1) 12 (32 + index).toNat
  else if index < yearLength year then
    let (month, day) := monthAndDay year index.toNat
    ofParts? year month day
  else
    ofParts? (year + 1) 1 (index - yearLength year + 1).toNat

/-- The date of a weekday, Monday being 1, in a week of a year. -/
def ofWeek? (year week weekday : Nat) : Option Date :=
  if 1 ≤ year ∧ 1 ≤ week ∧ (week ≤ 52 ∨ week = 53 ∧ isLongYear year) ∧
      1 ≤ weekday ∧ weekday ≤ 7 then
    ofYearIndex? year (firstMonday year + 7 * ((week : Int) - 1) + ((weekday : Int) - 1))
  else none

/-- The date as it is written: the year in four digits, month and day in two. -/
def text (date : Date) : List Char :=
  paddedText 4 date.year ++ '-' :: (paddedText 2 date.month ++ '-' :: paddedText 2 date.day)

end Date

end Criteria
