import Criteria.Proofs.Calendar.Canonical
import Criteria.Proofs.Number.Canonical
import Criteria.Proofs.Value.Conversion
import Criteria.Proofs.Value.Exactness

/-!
# Values are read again from their canonical texts

A value may be read from many texts, and most of them are not written as its format asks.  Its
canonical text is: it passes the check of the format, and the very same value is bound for it.  This
is said of decimal numbers (`decimal_rereads`), of moments and their dates (`temporal_rereads`) and
of identifiers (`identifier_rereads`).
-/

namespace Criteria

/-! ## Decimal numbers -/

/-- A number that is read has its exponents within bounds. -/
theorem Decimal.isExpressible_of_read? {text : String} {number : Decimal}
    (read : read? text = some number) : number.isExpressible = true :=
  (Option.filter_eq_some_iff.mp read).2

/-- A number within bounds is written as a numeral, and read from it. -/
theorem Decimal.read?_text {number : Decimal} (expressible : number.isExpressible = true) :
    isNumeric (String.ofList number.text) = true ∧
      read? (String.ofList number.text) = some number := by
  rcases number.exists_spelling_text with ⟨spelling, spelled, decimal⟩
  have bounded : spelling.decimal.isExpressible = true := by
    rw [decimal, expressible]
  rw [← spelled]
  refine ⟨spelling.isNumeric_text, ?_⟩
  rw [spelling.read?_text bounded, decimal]

/-- What is bound on a column of decimal numbers is the number that is read. -/
theorem Binding.ofText_decimal_eq_converted_iff [Machine]
    {type : ColumnType} (isDecimal : type = .numeric ∨ type = .decimal) {text : String}
    {value : Value} :
    ofText type text = .ok (.converted value) ↔
      ∃ number, Decimal.read? text = some number ∧ .decimal number = value := by
  rw [ofText_eq_converted_iff, ← Option.map_eq_some_iff]
  rcases isDecimal with rfl | rfl <;> exact Conversion.ofRead_eq_value_iff

/--
Whatever text a decimal number was read from, its canonical text is a numeral that spells the
number, and for that text the same number is bound: its sign, its coefficient and its exponent.
-/
theorem decimal_rereads [Machine]
    {type : ColumnType} (isDecimal : type = .numeric ∨ type = .decimal) {text : String}
    {value : Value} (bound : Binding.ofText type text = .ok (.converted value)) :
    ∃ number : Decimal, value = .decimal number ∧
      isNumeric (String.ofList number.text) = true ∧
      (∃ spelling : Spelling,
        spelling.text = String.ofList number.text ∧ spelling.decimal = number) ∧
      ∀ columnType, columnType = .numeric ∨ columnType = .decimal →
        Binding.ofText columnType (String.ofList number.text) =
          .ok (.converted (.decimal number)) := by
  rcases (Binding.ofText_decimal_eq_converted_iff isDecimal).mp bound with ⟨number, read, rfl⟩
  rcases Decimal.read?_text (Decimal.isExpressible_of_read? read) with ⟨numeric, again⟩
  refine ⟨number, rfl, numeric, number.exists_spelling_text, ?_⟩
  intro columnType decimal
  exact (Binding.ofText_decimal_eq_converted_iff decimal).mpr ⟨number, again, rfl⟩

/--
Underscores, a point without a digit after it, and zeros that the canonical text puts in front.
-/
theorem decimal_rereads_pointed :
    isNumeric "-1_000.e-9" = false ∧
      Binding.ofText .numeric "-1_000.e-9" = .ok (.converted (.decimal ⟨true, 1000, -9⟩)) ∧
        isNumeric "-0.000001000" = true ∧
          Binding.ofText .decimal "-0.000001000" =
            .ok (.converted (.decimal ⟨true, 1000, -9⟩)) := by
  have bound :
      Binding.ofText .numeric "-1_000.e-9" = .ok (.converted (.decimal ⟨true, 1000, -9⟩)) :=
    Binding.ofText_eq_converted_iff.mpr (by decide)
  have written : String.ofList (Decimal.text ⟨true, 1000, -9⟩) = "-0.000001000" := by
    decide
  rcases decimal_rereads (.inl rfl) bound with ⟨number, same, numeric, _, again⟩
  cases same
  rw [written] at numeric again
  exact ⟨by decide, bound, numeric, again .decimal (.inr rfl)⟩

/-! ## Moments and dates -/

namespace Binding

variable [Machine] {text : String} {value : Value}

theorem ofText_datetime_eq_converted_iff :
    ofText .datetime text = .ok (.converted value) ↔
      ∃ moment, Moment.read? text = some moment ∧ .moment moment = value :=
  ofText_eq_converted_iff.trans (Conversion.ofRead_eq_value_iff.trans Option.map_eq_some_iff)

theorem ofText_date_eq_converted_iff :
    ofText .date text = .ok (.converted value) ↔
      ∃ moment, Moment.read? text = some moment ∧ .date moment.date = value :=
  ofText_eq_converted_iff.trans (Conversion.ofRead_eq_value_iff.trans Option.map_eq_some_iff)

/-- Exactly what passes the check is converted, on columns of moments as on columns of dates. -/
theorem exists_ofText_iff_isMoment
    {type : ColumnType} (temporal : type = .date ∨ type = .datetime) :
    (∃ value, ofText type text = .ok (.converted value)) ↔ isMoment text = true := by
  rw [isMoment, Option.isSome_iff_exists]
  rcases temporal with rfl | rfl
  · simp only [ofText_date_eq_converted_iff]
    rw [exists_comm]
    simp
  · simp only [ofText_datetime_eq_converted_iff]
    rw [exists_comm]
    simp

end Binding

/-- What is known of the moment that was read from a text. -/
structure Moment.IsReadFrom [Machine] (moment : Moment) (text : String) : Prop where
  /-- The date is the one that is written, whatever the offset is. -/
  written : Calendar.readDate? (text.toList.take (Calendar.dateLength text.toList)) =
    some moment.date
  date : Binding.ofText .date text = .ok (.converted (.date moment.date))
  year : 1 ≤ moment.date.year ∧ moment.date.year ≤ 9999
  month : 1 ≤ moment.date.month ∧ moment.date.month ≤ 12
  day : 1 ≤ moment.date.day ∧
    moment.date.day ≤ Date.monthLength moment.date.year moment.date.month
  clock : moment.time.hour ≤ 23 ∧ moment.time.minute ≤ 59 ∧ moment.time.second ≤ 59 ∧
    moment.time.microsecond ≤ 999999
  offset : ∀ offset ∈ moment.offset?, offset.natAbs < 24 * 60 * 60 * 1000000
  momentAgain : isMoment (String.ofList moment.text) = true ∧
    Binding.ofText .datetime (String.ofList moment.text) = .ok (.converted (.moment moment))
  dateAgain : isMoment (String.ofList moment.date.text) = true ∧
    Binding.ofText .date (String.ofList moment.date.text) = .ok (.converted (.date moment.date))

theorem Moment.isReadFrom_of_read? [Machine] {text : String} {moment : Moment}
    (read : read? text = some moment) : moment.IsReadFrom text := by
  rcases readDate?_of_read? read with ⟨written, inRange⟩
  rcases isReal_iff.mp inRange.real with ⟨date, time, offset⟩
  rcases Date.isReal_iff.mp date with ⟨year, month, day⟩
  have again := read?_text inRange
  have dateAgain := read?_dateText date
  constructor
  case written => exact written
  case date => exact Binding.ofText_date_eq_converted_iff.mpr ⟨moment, read, rfl⟩
  case year => exact year
  case month => exact month
  case day => exact day
  case clock => exact ClockTime.isReal_iff.mp time
  case offset => exact offset
  case momentAgain =>
    refine ⟨?_, Binding.ofText_datetime_eq_converted_iff.mpr ⟨moment, again, rfl⟩⟩
    rw [isMoment, again]
    rfl
  case dateAgain =>
    refine ⟨?_, Binding.ofText_date_eq_converted_iff.mpr ⟨_, dateAgain, rfl⟩⟩
    rw [isMoment, dateAgain]
    rfl

/--
The same texts are converted on columns of moments and on columns of dates: those that pass the
check.  What is read is on the calendar, and its canonical text is read as the same moment, and
that of its date as the same date.
-/
theorem temporal_rereads [Machine] (text : String) :
    ((∃ value, Binding.ofText .datetime text = .ok (.converted value)) ↔ isMoment text = true) ∧
      ((∃ value, Binding.ofText .date text = .ok (.converted value)) ↔ isMoment text = true) ∧
        ∀ value, Binding.ofText .datetime text = .ok (.converted value) →
          ∃ moment, value = .moment moment ∧ moment.IsReadFrom text := by
  refine ⟨Binding.exists_ofText_iff_isMoment (.inr rfl),
    Binding.exists_ofText_iff_isMoment (.inl rfl), ?_⟩
  intro value bound
  rcases Binding.ofText_datetime_eq_converted_iff.mp bound with ⟨moment, read, rfl⟩
  exact ⟨moment, rfl, Moment.isReadFrom_of_read? read⟩

/--
The last day of a week that began in the year before, with a letter for a separator, a comma, a
digit too many and an offset of a second and a half.
-/
theorem temporal_rereads_lastWeek :
    Binding.ofText .datetime "2020-W53-7é23:59:59,1234567-00:00:01.5" =
        .ok (.converted (.moment ⟨⟨2021, 1, 3⟩, ⟨23, 59, 59, 123456⟩, some (-1500000)⟩)) ∧
      Binding.ofText .datetime "2021-01-03T23:59:59.123456-00:00:01.500000" =
          .ok (.converted (.moment ⟨⟨2021, 1, 3⟩, ⟨23, 59, 59, 123456⟩, some (-1500000)⟩)) ∧
        Binding.ofText .date "2021-01-03" = .ok (.converted (.date ⟨2021, 1, 3⟩)) := by
  have bound :
      Binding.ofText .datetime "2020-W53-7é23:59:59,1234567-00:00:01.5" =
        .ok (.converted (.moment ⟨⟨2021, 1, 3⟩, ⟨23, 59, 59, 123456⟩, some (-1500000)⟩)) :=
    Binding.ofText_eq_converted_iff.mpr (by decide +kernel)
  have momentWritten :
      String.ofList (Moment.text ⟨⟨2021, 1, 3⟩, ⟨23, 59, 59, 123456⟩, some (-1500000)⟩) =
        "2021-01-03T23:59:59.123456-00:00:01.500000" := by
    decide
  have dateWritten : String.ofList (Date.text ⟨2021, 1, 3⟩) = "2021-01-03" := by
    decide
  rcases temporal_rereads "2020-W53-7é23:59:59,1234567-00:00:01.5" with ⟨_, _, rereads⟩
  rcases rereads _ bound with ⟨moment, same, readFrom⟩
  cases same
  rw [← momentWritten, ← dateWritten]
  exact ⟨bound, readFrom.momentAgain.2, readFrom.dateAgain.2⟩

/-! ## Identifiers -/

theorem Binding.ofText_uuid_eq_converted_iff [Machine] {text : String} {value : Value} :
    ofText .uuid text = .ok (.converted value) ↔
      ∃ uuid, Uuid.read? text = some uuid ∧ .uuid uuid = value :=
  ofText_eq_converted_iff.trans (Conversion.ofRead_eq_value_iff.trans Option.map_eq_some_iff)

/--
For a text that is written as an identifier the one is bound whose canonical text it is, but for
letter case.  Any other text is bound as a literal or as an identifier all the same, and then the
canonical text of that one is bound as the same.  Hence two written identifiers are the same exactly
if they are so but for letter case.
-/
theorem identifier_rereads [Machine] (text : String) :
    (isUuid text = true →
        ∃ uuid, Binding.ofText .uuid text = .ok (.converted (.uuid uuid)) ∧
          String.ofList uuid.text = text.toLower) ∧
      (Binding.ofText .uuid text = .ok (.literal text) ∨
        ∃ uuid, Binding.ofText .uuid text = .ok (.converted (.uuid uuid)) ∧ uuid.value < 2 ^ 128 ∧
          isUuid (String.ofList uuid.text) = true ∧
            Binding.ofText .uuid (String.ofList uuid.text) = .ok (.converted (.uuid uuid))) ∧
        ∀ other, isUuid text = true → isUuid other = true →
          (Binding.ofText .uuid text = Binding.ofText .uuid other ↔
            text.toLower = other.toLower) := by
  have converted {source : String} {uuid : Uuid} (read : Uuid.read? source = some uuid) :
      Binding.ofText .uuid source = .ok (.converted (.uuid uuid)) :=
    Binding.ofText_uuid_eq_converted_iff.mpr ⟨uuid, read, rfl⟩
  refine ⟨?_, ?_, ?_⟩
  · intro written
    rcases Uuid.exists_text_of_isUuid written with ⟨uuid, read, canonical⟩
    exact ⟨uuid, converted read, canonical⟩
  · cases read : Uuid.read? text with
    | none =>
        refine .inl (Binding.ofText_eq_literal_iff.mpr ?_)
        rw [Conversion.ofText, read]
        rfl
    | some uuid =>
        exact .inr ⟨uuid, converted read, uuid.value_lt, uuid.isUuid_text,
          converted uuid.read?_text⟩
  · intro other written otherWritten
    rcases Uuid.exists_text_of_isUuid written with ⟨uuid, read, canonical⟩
    rcases Uuid.exists_text_of_isUuid otherWritten with ⟨otherUuid, otherRead, otherCanonical⟩
    rw [converted read, converted otherRead, ← canonical, ← otherCanonical]
    constructor
    · intro same
      cases same
      rfl
    · intro same
      -- Both are read from the one canonical text.
      have readSame := uuid.read?_text
      rw [same, otherUuid.read?_text] at readSame
      cases readSame
      rfl

/-- Mixed letters beside lower-case ones, and a text that hardly looks like an identifier. -/
theorem identifier_rereads_mixed :
    Binding.ofText .uuid "123E4567-e89B-12D3-A456-426614174000" =
        Binding.ofText .uuid "123e4567-e89b-12d3-a456-426614174000" ∧
      isUuid "urn:uuid:+0x_00000000-0000000000000-00000٣f" = false ∧
        Binding.ofText .uuid "urn:uuid:+0x_00000000-0000000000000-00000٣f" =
            Binding.ofText .uuid "00000000-0000-0000-0000-00000000003f" := by
  have mixed : isUuid "123E4567-e89B-12D3-A456-426614174000" = true := by decide
  have lower : isUuid "123e4567-e89b-12d3-a456-426614174000" = true := by decide
  have lowered : "123E4567-e89B-12D3-A456-426614174000".toLower =
      "123e4567-e89b-12d3-a456-426614174000".toLower := by
    rw [Uuid.toLower_eq_ofList, Uuid.toLower_eq_ofList]
    decide
  have bound : Binding.ofText .uuid "urn:uuid:+0x_00000000-0000000000000-00000٣f" =
      .ok (.converted (.uuid ⟨63, by decide⟩)) :=
    Binding.ofText_eq_converted_iff.mpr (by decide)
  have canonical : String.ofList (Uuid.text ⟨63, by decide⟩) =
      "00000000-0000-0000-0000-00000000003f" := by
    decide
  rcases identifier_rereads "123E4567-e89B-12D3-A456-426614174000" with ⟨_, _, same_iff⟩
  refine ⟨(same_iff _ mixed lower).mpr lowered, by decide, ?_⟩
  rcases identifier_rereads "urn:uuid:+0x_00000000-0000000000000-00000٣f" with
    ⟨_, literal | ⟨uuid, converted, _, _, again⟩, _⟩
  · rw [bound] at literal
    cases literal
  · rw [bound] at converted
    cases converted
    rw [canonical] at again
    rw [bound, again]

end Criteria
