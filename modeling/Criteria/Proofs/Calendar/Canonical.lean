import Criteria.Proofs.Calendar.Reality
import Criteria.Proofs.Number.Digits
import Criteria.Proofs.Text.Span

/-!
# Moments are read from their canonical texts

Every field of a canonical text is padded to a fixed width, so each reader takes exactly its own
digits and leaves the rest alone.  From there the date, the clock and the offset are read one after
another (`read?_text`), and a date by itself is read as its midnight (`read?_dateText`).
-/

namespace Criteria

open Criteria.Calendar Criteria.Text

/-! ## Padded fields -/

/-- A digit is read back from its character. -/
theorem asciiDigit?_digitCharacter {digit : ℕ} (small : digit < 10) :
    asciiDigit? (digitCharacter digit) = some digit := by
  have all : ∀ digit < 10, asciiDigit? (digitCharacter digit) = some digit := by
    decide
  exact all digit small

theorem isAsciiDigit_of_mem_paddedText
    {width number : ℕ} {character : Char} (member : character ∈ paddedText width number) :
    isAsciiDigit character = true := by
  rw [paddedText_eq] at member
  rcases List.mem_map.mp member with ⟨digit, inDigits, rfl⟩
  rw [isAsciiDigit, asciiDigit?_digitCharacter (lt_ten_of_mem_paddedDigits inDigits)]
  rfl

theorem ne_of_isAsciiDigit
    {character other : Char} (digit : isAsciiDigit character = true)
    (noDigit : isAsciiDigit other = false) :
    character ≠ other := by
  rintro rfl
  rw [digit] at noDigit
  cases noDigit

/-- A number that fits into a width is padded to exactly that width. -/
theorem length_paddedText
    {width number : ℕ} (positive : 0 < width) (small : number < 10 ^ width) :
    (paddedText width number).length = width := by
  rw [paddedText_eq, List.length_map, length_paddedDigits_of_lt positive small]

theorem exists_cons_paddedText (width number : ℕ) :
    ∃ first rest, paddedText width number = first :: rest ∧ isAsciiDigit first = true := by
  cases written : paddedText width number with
  | nil =>
      rw [paddedText, decimalText, List.append_eq_nil_iff, List.map_eq_nil_iff] at written
      exact absurd written.2 (digitsOf_ne_nil number)
  | cons first rest =>
      have member : first ∈ paddedText width number := written ▸ List.mem_cons_self
      exact ⟨first, rest, rfl, isAsciiDigit_of_mem_paddedText member⟩

theorem paddedText_append_ne_nil (width number : ℕ) (rest : List Char) :
    paddedText width number ++ rest ≠ [] := by
  rcases exists_cons_paddedText width number with ⟨first, others, written, _⟩
  rw [written]
  exact List.cons_ne_nil first _

namespace Calendar

/-- As many digits are read as are asked for, and what follows is left. -/
theorem readNumber?_digits
    {digits : List ℕ} (proper : ∀ digit ∈ digits, digit < 10) (value : ℕ) (rest : List Char) :
    readNumber? digits.length value (digits.map digitCharacter ++ rest) =
      some (digits.foldl (fun value digit => 10 * value + digit) value, rest) := by
  induction digits generalizing value with
  | nil => rfl
  | cons digit digits induction =>
      rw [List.forall_mem_cons] at proper
      simp only [List.length_cons, List.map_cons, List.cons_append, readNumber?,
        asciiDigit?_digitCharacter proper.1]
      exact induction proper.2 _

/-- A field that is padded to its width is read, and nothing else. -/
theorem readNumber?_paddedText
    {width number : ℕ} (positive : 0 < width) (small : number < 10 ^ width) (rest : List Char) :
    readNumber? width 0 (paddedText width number ++ rest) = some (number, rest) := by
  have proper : ∀ digit ∈ paddedDigits width number, digit < 10 :=
    fun _ => lt_ten_of_mem_paddedDigits
  have read := readNumber?_digits proper 0 rest
  rw [length_paddedDigits_of_lt positive small, ← paddedText_eq, ← valueOfDigits,
    valueOfDigits_paddedDigits] at read
  exact read

/-- A padded number is read back where nothing follows it. -/
theorem readLast?_paddedText
    {width number : ℕ} (positive : 0 < width) (small : number < 10 ^ width) :
    readLast? width (paddedText width number) = some number := by
  have read := readNumber?_paddedText positive small []
  rw [List.append_nil] at read
  rw [readLast?, read]

/-! ## Dates -/

section Date

variable {date : Date} (real : date.isReal = true)

include real

/-- Every field of a real date fits into its width. -/
theorem date_fields : date.year < 10 ^ 4 ∧ date.month < 10 ^ 2 ∧ date.day < 10 ^ 2 := by
  rcases Date.isReal_iff.mp real with ⟨year, month, _, day⟩
  have length := Date.monthLength_le date.year date.month
  omega

theorem length_dateText : date.text.length = 10 := by
  rcases date_fields real with ⟨year, month, day⟩
  simp only [Date.text, List.length_append, List.length_cons, length_paddedText, year, month, day,
    Nat.ofNat_pos]

/-- A real date is read back from its text. -/
theorem readDate?_text : readDate? date.text = some date := by
  rcases date_fields real with ⟨year, month, day⟩
  rcases exists_cons_paddedText 2 date.month with ⟨first, others, padded, digit⟩
  have yearRead := readNumber?_paddedText four_pos year
    ('-' :: (paddedText 2 date.month ++ '-' :: paddedText 2 date.day))
  have monthRead := readNumber?_paddedText two_pos month ('-' :: paddedText 2 date.day)
  have dayRead := readLast?_paddedText two_pos day
  -- The digit of a month is no letter of a week date.
  have noWeek : first ≠ 'W' := ne_of_isAsciiDigit digit (by decide)
  rw [readDate?, Date.text, yearRead]
  simp only [Option.bind_eq_bind, Option.bind_some]
  rw [padded] at monthRead ⊢
  split
  · rename_i same
    simp only [List.cons_append, List.cons.injEq, true_and] at same
    exact absurd same.1 noWeek
  · rename_i same
    cases same
  · rename_i same
    cases same
    rw [monthRead, Option.bind_some, skip?, if_pos rfl, Option.bind_some, dayRead,
      Option.bind_some, Date.ofParts?_of_isReal real]
  · rename_i noHyphen
    exact absurd rfl (noHyphen _)

/-- The date of a canonical text ends where it does. -/
theorem dateLength_dateText (rest : List Char) : dateLength (date.text ++ rest) = 10 := by
  rcases date_fields real with ⟨year, month, _⟩
  rcases exists_cons_paddedText 2 date.month with ⟨first, others, padded, digit⟩
  have noWeek : first ≠ 'W' := ne_of_isAsciiDigit digit (by decide)
  have long : (date.text ++ rest).length ≠ 7 := by
    rw [List.length_append, length_dateText real]
    omega
  have afterYear : (date.text ++ rest).drop 4 =
      '-' :: first :: (others ++ '-' :: paddedText 2 date.day ++ rest) := by
    rw [Date.text, padded, List.append_assoc, List.drop_left' (length_paddedText four_pos year)]
    simp
  rw [dateLength, if_neg long, afterYear]
  split
  · rename_i same
    cases same
    exact absurd rfl noWeek
  · rfl
  · rename_i same
    cases same
  · rename_i noHyphen _
    exact absurd rfl (noHyphen _)

end Date

/-! ## Clocks -/

theorem readFraction?_paddedText {microsecond : ℕ} (small : microsecond < 10 ^ 6) :
    readFraction? (paddedText 6 microsecond) = some (microsecond, []) := by
  have positive : 0 < 6 := by decide
  have read := readNumber?_paddedText positive small []
  rw [List.append_nil] at read
  rw [readFraction?, length_paddedText positive small, min_self, read, Option.map_some]
  simp [powerOfTen]

section Fields

variable {colons : Bool} {count field : ℕ} (small : field < 10 ^ 2)

include small

theorem readFields?_last :
    readFields? colons (count + 1) (paddedText 2 field) = some ([field], 0, []) := by
  have read := readNumber?_paddedText two_pos small []
  rw [List.append_nil] at read
  rw [readFields?, read]
  rfl

/-- After a colon the next field is read. -/
theorem readFields?_colon {next : List Char} (nonempty : next ≠ []) :
    readFields? true (count + 1) (paddedText 2 field ++ ':' :: next) =
      (readFields? true count next).map fun (fields, microsecond, rest) =>
        (field :: fields, microsecond, rest) := by
  have read := readNumber?_paddedText two_pos small (':' :: next)
  rw [readFields?, read]
  cases next with
  | nil => exact absurd rfl nonempty
  | cons first rest => simp [Option.map_eq_bind]

/-- After a point the fraction is read. -/
theorem readFields?_point {microsecond : ℕ} (fraction : microsecond < 10 ^ 6) :
    readFields? colons (count + 1) (paddedText 2 field ++ '.' :: paddedText 6 microsecond) =
      some ([field], microsecond, []) := by
  have positive : 0 < 6 := by decide
  have read := readNumber?_paddedText two_pos small ('.' :: paddedText 6 microsecond)
  have fractionRead := readFraction?_paddedText fraction
  rcases exists_cons_paddedText 6 microsecond with ⟨first, rest, padded, _⟩
  rw [readFields?, read]
  rw [padded] at fractionRead ⊢
  cases rest with
  | nil =>
      have length := length_paddedText positive fraction
      rw [padded] at length
      cases length
  | cons second rest => simp [readFields?, fractionRead]

end Fields

section Clock

variable {time : ClockTime} (real : time.isReal = true)

include real

theorem readFields?_second :
    readFields? true 1 (paddedText 2 time.second ++ ClockTime.fractionText time.microsecond) =
      some ([time.second], time.microsecond, []) := by
  rcases ClockTime.isReal_iff.mp real with ⟨_, _, second, microsecond⟩
  unfold ClockTime.fractionText
  split
  · rename_i none
    rw [List.append_nil, none]
    exact readFields?_last (by omega)
  · exact readFields?_point (by omega) (by omega)

/-- The mark after the first field says that there are colons. -/
theorem colonAt (rest : List Char) :
    (paddedText 2 time.hour ++ ':' :: rest)[2]? = some ':' := by
  have length : (paddedText 2 time.hour).length = 2 :=
    length_paddedText two_pos (by have := ClockTime.isReal_iff.mp real; omega)
  rw [List.getElem?_append_right (by rw [length]), length]
  rfl

/-- A real time is read back from its text. -/
theorem readClock?_text : readClock? time.text = some (time, []) := by
  rcases ClockTime.isReal_iff.mp real with ⟨hour, minute, _, _⟩
  have read : readFields? true 3 time.text =
      some ([time.hour, time.minute, time.second], time.microsecond, []) := by
    rw [ClockTime.text, readFields?_colon (by omega) (paddedText_append_ne_nil _ _ _),
      readFields?_colon (by omega) (paddedText_append_ne_nil _ _ _), readFields?_second real]
    rfl
  have colons : time.text[2]? = some ':' := colonAt real _
  rw [readClock?, colons, beq_self_eq_true, read]
  rfl

/-- The short text leaves out what is zero. -/
theorem readClock?_shortText : readClock? time.shortText = some (time, []) := by
  unfold ClockTime.shortText
  split
  · rename_i whole
    rcases ClockTime.isReal_iff.mp real with ⟨hour, minute, _, _⟩
    have nonempty := paddedText_append_ne_nil 2 time.minute []
    rw [List.append_nil] at nonempty
    rw [readClock?, colonAt real, beq_self_eq_true, readFields?_colon (by omega) nonempty,
      readFields?_last (by omega)]
    rcases time with ⟨_, _, second, microsecond⟩
    rcases whole with ⟨rfl, rfl⟩
    rfl
  · exact readClock?_text real

end Clock

/-- No part of a clock reading begins an offset. -/
theorem startsOffset_of_mem_text
    {time : ClockTime} {character : Char} (member : character ∈ time.text) :
    startsOffset character = false := by
  have digits {width number : ℕ} (field : character ∈ paddedText width number) :
      startsOffset character = false := by
    have digit := isAsciiDigit_of_mem_paddedText field
    have notPlus : character ≠ '+' := ne_of_isAsciiDigit digit (by decide)
    have notMinus : character ≠ '-' := ne_of_isAsciiDigit digit (by decide)
    have notZ : character ≠ 'Z' := ne_of_isAsciiDigit digit (by decide)
    simp [startsOffset, notPlus, notMinus, notZ]
  rw [ClockTime.text] at member
  simp only [List.mem_append, List.mem_cons] at member
  rcases member with hour | rfl | minute | rfl | second | fraction
  · exact digits hour
  · rfl
  · exact digits minute
  · rfl
  · exact digits second
  · unfold ClockTime.fractionText at fraction
    split at fraction
    · exact absurd fraction List.not_mem_nil
    · rcases List.mem_cons.mp fraction with rfl | places
      · rfl
      · exact digits places

/-! ## Offsets -/

/-- Taking a number of microseconds apart loses none of them. -/
theorem inMicroseconds_ofMicroseconds (count : ℕ) :
    (ClockTime.ofMicroseconds count).inMicroseconds = count := by
  simp only [ClockTime.inMicroseconds, ClockTime.ofMicroseconds]
  omega

theorem isReal_ofMicroseconds {count : ℕ} (small : count < microsecondsPerDay) :
    (ClockTime.ofMicroseconds count).isReal = true := by
  rw [microsecondsPerDay] at small
  rw [ClockTime.isReal_iff, ClockTime.ofMicroseconds]
  dsimp only
  omega

theorem signedOffset_natAbs {offset : ℤ} (isOffset : IsOffset offset) :
    signedOffset ((if offset < 0 then '-' else '+') == '-') offset.natAbs = offset := by
  rcases isOffset with ⟨_, rfl | large⟩
  · rfl
  · rw [signedOffset, if_neg (by omega)]
    by_cases negative : offset < 0
    · rw [if_pos negative, beq_self_eq_true, if_pos rfl]
      omega
    · rw [if_neg negative, if_neg (by decide)]
      omega

/-- An offset of less than a day is read back from its text. -/
theorem readOffset?_offsetText {offset : ℤ} (isOffset : IsOffset offset) :
    readOffset? (Moment.offsetText offset) = some offset := by
  have clock := readClock?_shortText (isReal_ofMicroseconds isOffset.1)
  have sign : (if offset < 0 then '-' else '+') ≠ 'Z' := by
    split <;> decide
  rw [Moment.offsetText, readOffset?, if_neg sign, clock, Option.bind_some]
  simp only [inMicroseconds_ofMicroseconds, isOffset.1, isFinished, List.head?_nil,
    Option.all_none, decide_true, Bool.and_self, if_true, signedOffset_natAbs isOffset]

/-- What follows the clock in a canonical text. -/
def offsetPart : Option ℤ → List Char
  | none => []
  | some offset => Moment.offsetText offset

theorem noHead_offsetPart (offset? : Option ℤ) :
    NoHead (fun character => !startsOffset character) (offsetPart offset?) := by
  cases offset? with
  | none => exact noHead_nil _
  | some offset =>
      rw [offsetPart, Moment.offsetText, noHead_cons]
      split <;> rfl

/-- A real time is read back from its text together with its offset. -/
theorem readTime?_text
    {time : ClockTime} (real : time.isReal = true)
    {offset? : Option ℤ} (isOffset : ∀ offset ∈ offset?, IsOffset offset) :
    readTime? (time.text ++ offsetPart offset?) = some (time, offset?) := by
  have inside : ∀ character ∈ time.text, (!startsOffset character) = true :=
    fun character member => by rw [startsOffset_of_mem_text member, Bool.not_false]
  rw [readTime?, takeWhile_append_of_noHead inside (noHead_offsetPart offset?),
    dropWhile_append_of_noHead inside (noHead_offsetPart offset?), readClock?_text real]
  cases offset? with
  | none => simp [offsetPart, isFinished, real]
  | some offset =>
      have read := readOffset?_offsetText (isOffset offset rfl)
      rw [Moment.offsetText] at read
      simp [offsetPart, Moment.offsetText, read, real]

end Calendar

/-! ## Moments -/

namespace Moment

theorem text_eq (moment : Moment) :
    moment.text = moment.date.text ++ 'T' :: (moment.time.text ++ offsetPart moment.offset?) := by
  rw [text]
  cases moment.offset? <;> rfl

/-- A text that begins with a canonical date goes on with a separator and a clock. -/
theorem read?_append {date : Date} (real : date.isReal = true) (rest : List Char) :
    read? (String.ofList (date.text ++ rest)) =
      match rest with
      | [] => some (midnightOf date none)
      | _ :: clock => (readTime? clock).map fun (time, offset?) => ⟨date, time, offset?⟩ := by
  have long : ¬ (date.text ++ rest).length < 7 := by
    rw [List.length_append, length_dateText real]
    omega
  have ended := dateLength_dateText real rest
  rw [read?, String.toList_ofList]
  simp only [if_neg long, ended, List.take_left' (length_dateText real),
    List.drop_left' (length_dateText real), readDate?_text real, Option.bind_eq_bind,
    Option.bind_some]
  cases rest with
  | nil => rfl
  | cons separator clock => simp [Option.map_eq_bind]

/-- A date by itself is its midnight. -/
theorem read?_dateText {date : Date} (real : date.isReal = true) :
    read? (String.ofList date.text) = some (midnightOf date none) := by
  have read := read?_append real []
  rw [List.append_nil] at read
  exact read

/-- A moment within bounds is read from its canonical text. -/
theorem read?_text {moment : Moment} (inRange : moment.InRange) :
    read? (String.ofList moment.text) = some moment := by
  rcases isReal_iff.mp inRange.real with ⟨date, time, small⟩
  have isOffset : ∀ offset ∈ moment.offset?, IsOffset offset :=
    fun offset given => ⟨small offset given, inRange.offset offset given⟩
  rw [text_eq, read?_append date]
  dsimp only
  rw [readTime?_text time isOffset, Option.map_some]

end Moment

end Criteria
