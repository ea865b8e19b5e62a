import Criteria.Calendar.Date

/-!
# Moments

A moment is a date with a time of day and, if it is known, the offset of its clock from universal
time.  Times and offsets are counted down to the microsecond.
-/

namespace Criteria

/-- A reading of a clock. -/
structure ClockTime where
  hour : Nat
  minute : Nat
  second : Nat
  microsecond : Nat
deriving DecidableEq, Repr

namespace ClockTime

def midnight : ClockTime :=
  ⟨0, 0, 0, 0⟩

/-- Whether the reading is one of a day of 24 hours. -/
def isReal (time : ClockTime) : Bool :=
  time.hour ≤ 23 && time.minute ≤ 59 && time.second ≤ 59 && time.microsecond ≤ 999999

/-- How many microseconds have passed since midnight. -/
def inMicroseconds (time : ClockTime) : Nat :=
  ((time.hour * 60 + time.minute) * 60 + time.second) * 1000000 + time.microsecond

/-- The time of day so many microseconds after midnight. -/
def ofMicroseconds (count : Nat) : ClockTime where
  hour := count / 3600000000
  minute := count / 60000000 % 60
  second := count / 1000000 % 60
  microsecond := count % 1000000

/-- A point and six digits, if the fraction of the second is not zero. -/
def fractionText (microsecond : Nat) : List Char :=
  if microsecond = 0 then [] else '.' :: paddedText 6 microsecond

/-- Hours, minutes, seconds and, if it is not zero, the fraction. -/
def text (time : ClockTime) : List Char :=
  paddedText 2 time.hour ++ ':' :: (paddedText 2 time.minute ++
    ':' :: (paddedText 2 time.second ++ fractionText time.microsecond))

/-- Hours and minutes, and the seconds only if there are any. -/
def shortText (time : ClockTime) : List Char :=
  if time.second = 0 ∧ time.microsecond = 0 then
    paddedText 2 time.hour ++ ':' :: paddedText 2 time.minute
  else time.text

end ClockTime

/-- How many microseconds there are in a day of 24 hours. -/
def microsecondsPerDay : Nat :=
  86400000000

/-- A date, a time of day, and the offset from universal time in microseconds, if known. -/
structure Moment where
  date : Date
  time : ClockTime
  offset? : Option Int
deriving DecidableEq, Repr

namespace Moment

/-- The midnight at which a date begins, on a clock of the given offset. -/
def midnightOf (date : Date) (offset? : Option Int) : Moment :=
  ⟨date, .midnight, offset?⟩

/-- Whether the moment is on the calendar and its offset is less than a day. -/
def isReal (moment : Moment) : Bool :=
  moment.date.isReal && moment.time.isReal &&
    moment.offset?.all fun offset => offset.natAbs < microsecondsPerDay

/-- An offset: its sign, hours and minutes, and what is left over if it is not zero. -/
def offsetText (offset : Int) : List Char :=
  (if offset < 0 then '-' else '+') :: (ClockTime.ofMicroseconds offset.natAbs).shortText

/-- The canonical text of a moment: date, time and offset, where it has one. -/
def text (moment : Moment) : List Char :=
  moment.date.text ++ 'T' :: (moment.time.text ++
    match moment.offset? with
    | none => []
    | some offset => offsetText offset)

end Moment

end Criteria
