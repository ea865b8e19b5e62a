import Criteria.Calendar.Moment
import Criteria.Number.Power
import Criteria.Text.Digit

/-!
# Reading dates and moments

A moment is read from a calendar date or a week date, written with or without hyphens, and an
optional time of day after a separator, which may be any single character.  A week date may be
written so that its end is not plain; a fixed rule then says where the date ends.
-/

namespace Criteria

open Criteria.Text

namespace Calendar

/-- Reads a number of exactly so many ASCII digits, onto the digits before it. -/
def readNumber? : Nat → Nat → List Char → Option (Nat × List Char)
  | 0, value, rest => some (value, rest)
  | count + 1, value, character :: rest =>
      match asciiDigit? character with
      | some digit => readNumber? count (10 * value + digit) rest
      | none => none
  | _ + 1, _, [] => none

/-- What follows an expected character, if the text begins with it. -/
def skip? (expected : Char) : List Char → Option (List Char)
  | character :: rest => if character = expected then some rest else none
  | [] => none

/-- Reads a number that has to be the rest of the text. -/
def readLast? (count : Nat) (text : List Char) : Option Nat :=
  match readNumber? count 0 text with
  | some (value, []) => some value
  | _ => none

/-- The rest of a week date after its year and the letter W. -/
def readWeek? (hyphenated : Bool) (year : Nat) (text : List Char) : Option Date := do
  let (week, rest) ← readNumber? 2 0 text
  match rest with
  | [] => Date.ofWeek? year week 1
  | _ =>
      let rest ← if hyphenated then skip? '-' rest else some rest
      let weekday ← readLast? 1 rest
      Date.ofWeek? year week weekday

/--
Reads a date in any of its forms: by month and day or by week and day, with hyphens or without.
-/
def readDate? (text : List Char) : Option Date := do
  let (year, rest) ← readNumber? 4 0 text
  match rest with
  | '-' :: 'W' :: rest => readWeek? true year rest
  | 'W' :: rest => readWeek? false year rest
  | '-' :: rest =>
      let (month, rest) ← readNumber? 2 0 rest
      let rest ← skip? '-' rest
      let day ← readLast? 2 rest
      Date.ofParts? year month day
  | rest =>
      let (month, rest) ← readNumber? 2 0 rest
      let day ← readLast? 2 rest
      Date.ofParts? year month day

/-- Whether there is an ASCII digit at a place of the text. -/
def isDigitAt (text : List Char) (index : Nat) : Bool :=
  text[index]?.any isAsciiDigit

/-- Where the run of digits that goes on at an index ends. -/
def digitsEnd (text : List Char) (index : Nat) : Nat :=
  index + ((text.drop index).takeWhile isAsciiDigit).length

/-- The number of leading characters that belong to the date. -/
def dateLength (text : List Char) : Nat :=
  if text.length = 7 then 7
  else
    match text.drop 4 with
    | '-' :: 'W' :: _ =>
        if text[8]? = some '-' then
          if 10 < text.length && isDigitAt text 10 then 8 else 10
        else 8
    | '-' :: _ => 10
    | 'W' :: _ =>
        let digits := digitsEnd text 7
        if digits < 9 then digits
        else if digits % 2 = 0 then 7
        else 8
    | _ => 8

/-- Reads a fraction of a second in microseconds: six places count, further ones are passed over. -/
def readFraction? (text : List Char) : Option (Nat × List Char) :=
  let places := min 6 text.length
  (readNumber? places 0 text).map fun (value, rest) =>
    (value * powerOfTen (6 - places), rest.dropWhile isAsciiDigit)

/--
Reads the remaining two-digit fields of a clock and then the fraction, which may also follow an
earlier field after a point or a comma.  The fields come one after another, with colons between them
or without any.  The result is the fields, the microseconds, and what is left of the text: a single
ASCII character at the end of a field is left over, and so is what follows a fraction.
-/
def readFields? (colons : Bool) : Nat → List Char → Option (List Nat × Nat × List Char)
  | 0, text => (readFraction? text).map fun (microsecond, rest) => ([], microsecond, rest)
  | count + 1, text => do
      let (field, rest) ← readNumber? 2 0 text
      match rest with
      | [] => some ([field], 0, [])
      | [last] => if last.toNat < 128 then some ([field], 0, [last]) else none
      | mark :: others =>
          let (fields, microsecond, rest) ←
            if mark = '.' ∨ mark = ',' then readFields? colons 0 others
            else if !colons then readFields? colons count rest
            else if mark = ':' then readFields? colons count others
            else none
          some (field :: fields, microsecond, rest)

/-- Reads hours, minutes and seconds, as far as they are given, and what is left of the text. -/
def readClock? (text : List Char) : Option (ClockTime × List Char) :=
  (readFields? (text[2]? == some ':') 3 text).map fun (fields, microsecond, rest) =>
    (⟨fields.getD 0 0, fields.getD 1 0, fields.getD 2 0, microsecond⟩, rest)

/-- Whether nothing is left of a text; a null character ends it as well. -/
def isFinished (rest : List Char) : Bool :=
  rest.head?.all fun character => character == '\x00'

/-- An offset of so many microseconds in either direction; less than a second is none. -/
def signedOffset (negative : Bool) (magnitude : Nat) : Int :=
  if magnitude < 1000000 then 0
  else if negative then -(magnitude : Int)
  else magnitude

/--
Reads an offset: the letter Z, or a signed clock reading of less than a day, whose minutes and
seconds may run over.
-/
def readOffset? : List Char → Option Int
  | [] => none
  | sign :: rest =>
      if sign = 'Z' then
        if isFinished rest then some 0 else none
      else
        (readClock? rest).bind fun (clock, left) =>
          let magnitude := clock.inMicroseconds
          if isFinished left && magnitude < microsecondsPerDay then
            some (signedOffset (sign == '-') magnitude)
          else none

/-- Whether a character can be the first of an offset. -/
def startsOffset (character : Char) : Bool :=
  character == '+' || character == '-' || character == 'Z'

/--
Reads a whole text as a time of day with an optional offset.  What the clock reading leaves over is
refused only if no offset follows.
-/
def readTime? (text : List Char) : Option (ClockTime × Option Int) := do
  let (time, left) ← readClock? (text.takeWhile (!startsOffset ·))
  let offset? ←
    match text.dropWhile (!startsOffset ·) with
    | [] => if isFinished left then some none else none
    | offset => (readOffset? offset).map some
  if time.isReal then some (time, offset?) else none

end Calendar

namespace Moment

open Criteria.Calendar

/-- Reads a whole text as a moment; a date alone is its midnight, without an offset. -/
def read? (text : String) : Option Moment := do
  let characters := text.toList
  if characters.length < 7 then none
  else
    let date ← readDate? (characters.take (dateLength characters))
    match characters.drop (dateLength characters) with
    | [] => some (midnightOf date none)
    | _ :: clock =>
        let (time, offset?) ← readTime? clock
        some ⟨date, time, offset?⟩

end Moment

/-- Whether a text is a moment, in any form that can be read. -/
def isMoment (text : String) : Bool :=
  (Moment.read? text).isSome

end Criteria
