import Criteria.Proofs.Number.Decimal
import Criteria.Proofs.Number.Numeral
import Criteria.Proofs.Text.Blank
import Criteria.Proofs.Text.Span

/-!
# How numbers are spelled

A spelling is a number as it is written down: blanks, a sign, digits before and after a point, an
exponent, blanks.  What it says is defined from its parts alone, as a rational number
(`Spelling.value`) and as a decimal number with its coefficient and exponent (`Spelling.decimal`).
The texts that pass for numbers are exactly the spellings (`isNumeric_iff_exists_spelling`), and a
spelling is read as the number that it says (`written?_text`).
-/

namespace Criteria

open Criteria.Text

/-! ## Signs and digits -/

/-- The sign in front of digits; it may be left out. -/
inductive SignMark where
  | absent
  | plus
  | minus
deriving DecidableEq, Repr

namespace SignMark

/-- The sign as it is written. -/
def chars : SignMark → List Char
  | .absent => []
  | .plus => ['+']
  | .minus => ['-']

def isMinus : SignMark → Bool
  | .absent | .plus => false
  | .minus => true

end SignMark

/-- A run of digits of any script. -/
structure DigitRun where
  chars : List Char
  areDigits : ∀ character ∈ chars, isDigit character = true

namespace DigitRun

/-- The run of the characters of a list. -/
def ofList (chars : List Char) (areDigits : chars.all isDigit = true) : DigitRun :=
  ⟨chars, List.all_eq_true.mp areDigits⟩

/-- The digits one by one. -/
def values (run : DigitRun) : List ℕ :=
  run.chars.filterMap digitValue?

/-- The number that the digits write in positional notation. -/
def number (run : DigitRun) : ℕ :=
  Nat.ofDigits 10 run.values.reverse

theorem length_values (run : DigitRun) : run.values.length = run.chars.length := by
  rcases run with ⟨chars, areDigits⟩
  unfold values
  induction chars with
  | nil => rfl
  | cons first rest hypothesis =>
      have digit := Option.isSome_iff_exists.mp (areDigits first List.mem_cons_self)
      rcases digit with ⟨digit, found⟩
      have others := hypothesis fun character member =>
        areDigits character (List.mem_cons_of_mem first member)
      rw [List.filterMap_cons_some found, List.length_cons, List.length_cons, others]

theorem lt_ten_of_mem_values {run : DigitRun} {digit : ℕ} (member : digit ∈ run.values) :
    digit < 10 := by
  rcases List.mem_filterMap.mp member with ⟨character, _, found⟩
  exact digitValue?_lt_ten found

theorem number_eq_valueOfDigits (run : DigitRun) : run.number = valueOfDigits run.values :=
  (valueOfDigits_eq_ofDigits run.values).symm

end DigitRun

/-! ## Spellings -/

/-- An exponent as it is written: a mark, a sign, and at least one digit. -/
structure ExponentMark where
  letter : Char
  isLetter : letter = 'e' ∨ letter = 'E'
  sign : SignMark
  digits : DigitRun
  nonempty : digits.chars ≠ []

namespace ExponentMark

/-- The exponent as it is written, with its letter. -/
def chars (mark : ExponentMark) : List Char :=
  mark.letter :: (mark.sign.chars ++ mark.digits.chars)

/-- The exponent that is written. -/
def value (mark : ExponentMark) : ℤ :=
  if mark.sign.isMinus then -mark.digits.number else mark.digits.number

end ExponentMark

/-- A number need not have blanks around it. -/
theorem isBlank_of_mem_nil : ∀ character ∈ ([] : List Char), isBlank character = true :=
  List.forall_mem_nil _

/-- A number as it is written.  There is a point exactly if there are digits after it. -/
structure Spelling where
  before : List Char
  sign : SignMark
  whole : DigitRun
  fraction : DigitRun
  exponent? : Option ExponentMark
  after : List Char
  blankBefore : ∀ character ∈ before, isBlank character = true
  blankAfter : ∀ character ∈ after, isBlank character = true
  hasDigit : whole.chars ≠ [] ∨ fraction.chars ≠ []

namespace Spelling

variable (spelling : Spelling)

/-- The exponent as it is written, if there is one. -/
def exponentChars : List Char :=
  match spelling.exponent? with
  | none => []
  | some mark => mark.chars

/-- The point and the digits after it; without digits there is no point either. -/
def pointChars : List Char :=
  if spelling.fraction.chars = [] then [] else '.' :: spelling.fraction.chars

/-- The characters after the sign. -/
def unsignedChars : List Char :=
  spelling.whole.chars ++ (spelling.pointChars ++ spelling.exponentChars)

/-- The characters between the blanks. -/
def core : List Char :=
  spelling.sign.chars ++ spelling.unsignedChars

/-- The text of a spelling, with the blanks around it. -/
def text : String :=
  String.ofList (spelling.before ++ spelling.core ++ spelling.after)

/-- The exponent that is written, or zero. -/
def exponent : ℤ :=
  match spelling.exponent? with
  | none => 0
  | some mark => mark.value

/-- How many digits stand after the point. -/
def places : ℕ :=
  spelling.fraction.chars.length

/-- The rational number that is written. -/
def value : ℚ :=
  (if spelling.sign.isMinus then -1 else 1) *
    (spelling.whole.number + spelling.fraction.number / 10 ^ spelling.places) *
      10 ^ spelling.exponent

/-- All digits, those before the point first. -/
def digits : List ℕ :=
  spelling.whole.values ++ spelling.fraction.values

/-- The decimal number that is written: its sign, its digits without the point, its exponent. -/
def decimal : Decimal where
  negative := spelling.sign.isMinus
  coefficient := Nat.ofDigits 10 spelling.digits.reverse
  exponent := spelling.exponent - spelling.places

/-! ## What a spelling says -/

theorem exponentChars_some {mark : ExponentMark} (given : spelling.exponent? = some mark) :
    spelling.exponentChars = mark.chars ∧ spelling.exponent = mark.value := by
  unfold exponentChars exponent
  rw [given]
  exact ⟨rfl, rfl⟩

theorem digits_lt_ten {digit : ℕ} (member : digit ∈ spelling.digits) : digit < 10 :=
  (List.mem_append.mp member).elim DigitRun.lt_ten_of_mem_values DigitRun.lt_ten_of_mem_values

theorem coefficient_eq_valueOfDigits :
    spelling.decimal.coefficient = valueOfDigits spelling.digits :=
  (valueOfDigits_eq_ofDigits spelling.digits).symm

/-- The coefficient is the whole part moved left by the places, and the fraction in them. -/
theorem coefficient_eq :
    spelling.decimal.coefficient =
      spelling.whole.number * 10 ^ spelling.places + spelling.fraction.number := by
  rw [coefficient_eq_valueOfDigits, digits, valueOfDigits_append, DigitRun.length_values,
    ← DigitRun.number_eq_valueOfDigits, ← DigitRun.number_eq_valueOfDigits]
  rfl

/-- The decimal number that is written is the rational number that is written. -/
theorem value_decimal : spelling.decimal.value = spelling.value := by
  have magnitude :
      spelling.decimal.magnitude =
        (spelling.whole.number + spelling.fraction.number / 10 ^ spelling.places) *
          10 ^ spelling.exponent := by
    have power : (10 : ℚ) ^ spelling.decimal.exponent =
        10 ^ spelling.exponent / 10 ^ spelling.places := by
      rw [← zpow_natCast, ← zpow_sub₀ (by norm_num)]
      rfl
    rw [Decimal.magnitude, power, coefficient_eq]
    push_cast
    field_simp
  rw [Decimal.value, magnitude, value]
  change (if spelling.sign.isMinus = true then _ else _) = _
  split <;> ring

/-- The digits of the coefficient are those that are written, without leading zeros. -/
theorem digitsOf_coefficient (nonzero : spelling.decimal.coefficient ≠ 0) :
    digitsOf spelling.decimal.coefficient = spelling.digits.dropWhile (· = 0) := by
  rw [coefficient_eq_valueOfDigits] at nonzero ⊢
  exact digitsOf_valueOfDigits (fun _ => spelling.digits_lt_ten) nonzero

end Spelling

/-! ## Reading what is spelled -/

def isSign (character : Char) : Bool :=
  character == '+' || character == '-'

theorem isSign_of_isDigit {character : Char} (digit : isDigit character = true) :
    isSign character = false := by
  have notPlus : character ≠ '+' := by
    rintro rfl
    exact absurd digit (by decide)
  have notMinus : character ≠ '-' := by
    rintro rfl
    exact absurd digit (by decide)
  simp [isSign, notPlus, notMinus]

/-- No digit of any script is blank. -/
theorem isBlank_of_isDigit {character : Char} (digit : isDigit character = true) :
    isBlank character = false := by
  have apart : ∀ first ∈ digitZeros, ∀ interval ∈ blankIntervals,
      interval.2 < first ∨ first + 10 ≤ interval.1 := by
    decide
  rcases Option.isSome_iff_exists.mp digit with ⟨value, found⟩
  simp only [digitValue?, Option.map_eq_some_iff] at found
  rcases found with ⟨first, inTable, _⟩
  have bounds := List.find?_some inTable
  simp only [Bool.and_eq_true, decide_eq_true_eq] at bounds
  rw [isBlank, List.any_eq_false]
  intro interval member
  have outside := apart first (List.mem_of_find?_eq_some inTable) interval member
  simp only [Bool.and_eq_true, decide_eq_true_eq]
  omega

theorem isBlank_of_isPart {character : Char} (isPart : Numeral.isPart character = true) :
    isBlank character = false := by
  rcases (Bool.or_eq_true _ _).mp isPart with mark | digit
  · have marks : ['+', '-', '.', 'e', 'E'].any isBlank = false := by
      decide
    exact Bool.eq_false_iff.mpr (List.any_eq_false.mp marks character (by simpa using mark))
  · exact isBlank_of_isDigit digit

theorem readSign_append (mark : SignMark) {rest : List Char} (unsigned : NoHead isSign rest) :
    Numeral.readSign (mark.chars ++ rest) = (mark.isMinus, rest) := by
  cases mark with
  | plus | minus => rfl
  | absent =>
      rw [SignMark.chars, List.nil_append, Numeral.readSign.eq_3]
      · rfl
      · rintro others rfl
        exact absurd (noHead_cons.mp unsigned) (by decide)
      · rintro others rfl
        exact absurd (noHead_cons.mp unsigned) (by decide)

/-- A run of digits is read up to where it ends. -/
theorem spanDigits_append (run : DigitRun) {rest : List Char} (ended : NoHead isDigit rest) :
    spanDigits (run.chars ++ rest) = (run.values, rest) := by
  rw [spanDigits, takeWhile_append_of_noHead run.areDigits ended,
    dropWhile_append_of_noHead run.areDigits ended]
  rfl

namespace DigitRun

variable (run : DigitRun)

theorem values_ne_nil {run : DigitRun} (nonempty : run.chars ≠ []) : run.values ≠ [] := by
  rw [← List.length_pos_iff, run.length_values]
  exact List.length_pos_iff.mpr nonempty

/--
Characters of a kind without digits do not begin a run that is there, nor follow a missing one.
-/
theorem noHead_append
    {kind : Char → Bool} (other : ∀ character, isDigit character = true → kind character = false)
    {rest : List Char} (ended : run.chars = [] → NoHead kind rest) :
    NoHead kind (run.chars ++ rest) := by
  rcases run with ⟨chars, areDigits⟩
  cases chars with
  | nil => exact ended rfl
  | cons first others => exact noHead_cons.mpr (other first (areDigits first List.mem_cons_self))

end DigitRun

/-- An exponent is read back from its characters. -/
theorem readExponent?_chars (mark : ExponentMark) :
    Numeral.readExponent? mark.chars = some mark.value := by
  have unsigned : NoHead isSign (mark.digits.chars ++ []) :=
    mark.digits.noHead_append (fun _ => isSign_of_isDigit) fun _ => noHead_nil isSign
  have sign := readSign_append mark.sign unsigned
  have digits := spanDigits_append mark.digits (noHead_nil isDigit)
  rw [List.append_nil] at sign digits
  rcases List.exists_cons_of_ne_nil (DigitRun.values_ne_nil mark.nonempty) with
    ⟨first, others, values⟩
  rw [ExponentMark.chars, Numeral.readExponent?, if_pos mark.isLetter, sign]
  simp only [digits, values]
  rw [ExponentMark.value, DigitRun.number_eq_valueOfDigits, values]

namespace Spelling

variable (spelling : Spelling)

/-- The exponent part begins with its letter, if it is there at all. -/
theorem noHead_exponentChars
    {kind : Char → Bool} (small : kind 'e' = false) (capital : kind 'E' = false) :
    NoHead kind spelling.exponentChars := by
  cases given : spelling.exponent? with
  | none =>
      rw [exponentChars, given]
      exact noHead_nil kind
  | some mark =>
      rw [(spelling.exponentChars_some given).1, ExponentMark.chars, noHead_cons]
      rcases mark.isLetter with same | same
      · rwa [same]
      · rwa [same]

theorem readExponent?_exponentChars :
    Numeral.readExponent? spelling.exponentChars = some spelling.exponent := by
  cases given : spelling.exponent? with
  | none =>
      rw [exponentChars, exponent, given]
      rfl
  | some mark =>
      rcases spelling.exponentChars_some given with ⟨chars, exponent⟩
      rw [chars, exponent]
      exact readExponent?_chars mark

/-- A fraction is read up to the exponent, with the point or without. -/
theorem readFraction_append :
    Numeral.readFraction (spelling.pointChars ++ spelling.exponentChars) =
      (!spelling.fraction.chars.isEmpty, spelling.fraction.values, spelling.exponentChars) := by
  by_cases missing : spelling.fraction.chars = []
  · have noPoint : NoHead (· == '.') spelling.exponentChars :=
      spelling.noHead_exponentChars rfl rfl
    have noDigits : spelling.fraction.values = [] := by
      rw [DigitRun.values, missing, List.filterMap_nil]
    rw [pointChars, if_pos missing, List.nil_append, Numeral.readFraction.eq_2, missing, noDigits]
    · rfl
    · rintro others same
      rw [same] at noPoint
      exact absurd (noHead_cons.mp noPoint) (by decide)
  · have ended : NoHead isDigit spelling.exponentChars :=
      spelling.noHead_exponentChars (by decide) (by decide)
    rw [pointChars, if_neg missing, List.cons_append, Numeral.readFraction,
      spanDigits_append spelling.fraction ended]
    simp [missing]

/-- What is read of a spelling: its parts, one by one. -/
def numeral : Numeral where
  negative := spelling.sign.isMinus
  whole := spelling.whole.values
  hasPoint := !spelling.fraction.chars.isEmpty
  fraction := spelling.fraction.values
  exponent := spelling.exponent

theorem noHead_unsignedChars : NoHead isSign spelling.unsignedChars := by
  refine spelling.whole.noHead_append (fun _ => isSign_of_isDigit) fun missing => ?_
  have fraction : spelling.fraction.chars ≠ [] :=
    spelling.hasDigit.resolve_left (not_not_intro missing)
  rw [pointChars, if_neg fraction, List.cons_append, noHead_cons]
  rfl

theorem noHead_after_whole : NoHead isDigit (spelling.pointChars ++ spelling.exponentChars) := by
  by_cases missing : spelling.fraction.chars = []
  · rw [pointChars, if_pos missing]
    exact spelling.noHead_exponentChars (by decide) (by decide)
  · rw [pointChars, if_neg missing, List.cons_append, noHead_cons]
    decide

/-- A numeral is read back from its spelling. -/
theorem read?_core : Numeral.read? spelling.core = some spelling.numeral := by
  have digits : (spelling.whole.values.isEmpty && spelling.fraction.values.isEmpty) = false := by
    rw [Bool.and_eq_false_iff, List.isEmpty_eq_false_iff, List.isEmpty_eq_false_iff]
    exact spelling.hasDigit.imp DigitRun.values_ne_nil DigitRun.values_ne_nil
  rw [Numeral.read?, core, readSign_append spelling.sign spelling.noHead_unsignedChars]
  simp only [unsignedChars, spanDigits_append spelling.whole spelling.noHead_after_whole,
    readFraction_append, readExponent?_exponentChars, digits]
  rfl

theorem solid_core : ∀ character ∈ spelling.core, isBlank character = false := by
  intro character member
  have isPart := List.all_eq_true.mp (Numeral.all_isPart_of_read? spelling.read?_core)
  exact isBlank_of_isPart (isPart character member)

theorem trim_text : trim spelling.text.toList = spelling.core := by
  rw [text, String.toList_ofList]
  exact trim_between spelling.blankBefore spelling.blankAfter spelling.solid_core

/-- A spelling is read as the number that it says. -/
theorem written?_text : Decimal.written? spelling.text = some spelling.decimal := by
  rw [Decimal.written?, trim_text, read?_core, Option.map_some, Numeral.toDecimal, numeral,
    DigitRun.length_values, decimal, digits, valueOfDigits_eq_ofDigits]
  rfl

/-- Every spelling is recognized. -/
theorem isNumeric_text : isNumeric spelling.text = true := by
  have pointed : spelling.numeral.endsWithPoint = false := by
    rw [Numeral.endsWithPoint, numeral]
    by_cases missing : spelling.fraction.chars = []
    · rw [missing]
      rfl
    · have digits := DigitRun.values_ne_nil missing
      rw [List.isEmpty_eq_false_iff.mpr digits, Bool.and_false]
  rw [isNumeric, trim_text, read?_core]
  simp only [pointed]
  rfl

end Spelling

/-! ## Spelling what is read -/

theorem exists_readSign (text : List Char) :
    ∃ mark : SignMark, text = mark.chars ++ (Numeral.readSign text).2 ∧
      mark.isMinus = (Numeral.readSign text).1 := by
  unfold Numeral.readSign
  split
  · exact ⟨.plus, rfl, rfl⟩
  · exact ⟨.minus, rfl, rfl⟩
  · exact ⟨.absent, rfl, rfl⟩

/-- What is read as digits is a run of them. -/
theorem exists_spanDigits (text : List Char) :
    ∃ run : DigitRun, text = run.chars ++ (spanDigits text).2 ∧
      run.values = (spanDigits text).1 := by
  refine ⟨⟨text.takeWhile isDigit, fun character member => List.mem_takeWhile_imp member⟩, ?_, rfl⟩
  exact List.takeWhile_append_dropWhile.symm

/-- The digits after a point; without a point there are none. -/
theorem exists_readFraction (text : List Char) :
    ∃ run : DigitRun, run.values = (Numeral.readFraction text).2.1 ∧
      text = (if (Numeral.readFraction text).1 then '.' :: run.chars else []) ++
        (Numeral.readFraction text).2.2 ∧
      ((Numeral.readFraction text).1 = false → run.chars = []) := by
  unfold Numeral.readFraction
  split
  · rename_i rest
    rcases exists_spanDigits rest with ⟨run, spanned, values⟩
    refine ⟨run, values, ?_, by simp⟩
    rw [if_pos rfl, List.cons_append, ← spanned]
  · exact ⟨⟨[], by simp⟩, rfl, rfl, fun _ => rfl⟩

theorem exists_readExponent?
    {text : List Char} {exponent : ℤ} (read : Numeral.readExponent? text = some exponent) :
    ∃ exponent? : Option ExponentMark,
      text = match exponent? with
        | none => []
        | some mark => mark.chars := by
  cases text with
  | nil => exact ⟨none, rfl⟩
  | cons letter rest =>
      simp only [Numeral.readExponent?] at read
      split at read
      · rename_i isLetter
        rcases exists_readSign rest with ⟨sign, signed, _⟩
        rcases exists_spanDigits (Numeral.readSign rest).2 with ⟨run, spanned, values⟩
        split at read
        · cases read
        · rename_i nonempty same
          rw [same] at spanned values
          rw [List.append_nil] at spanned
          have digits : run.chars ≠ [] := by
            intro missing
            rw [DigitRun.values, missing] at values
            exact nonempty values.symm
          refine ⟨some ⟨letter, isLetter, sign, run, digits⟩, ?_⟩
          change letter :: rest = letter :: (sign.chars ++ run.chars)
          rw [← spanned, ← signed]
        · cases read
      · cases read

/-- What is read as a numeral is spelled in some way, unless its point ends the digits. -/
theorem exists_core
    {core : List Char} {numeral : Numeral} (read : Numeral.read? core = some numeral)
    (pointed : numeral.endsWithPoint = false) :
    ∃ spelling : Spelling, spelling.core = core := by
  rcases exists_readSign core with ⟨sign, signed, _⟩
  simp only [Numeral.read?] at read
  generalize (Numeral.readSign core).2 = unsigned at read signed
  rcases exists_spanDigits unsigned with ⟨whole, spanned, wholeValues⟩
  generalize (spanDigits unsigned).2 = afterWhole at read spanned
  rcases exists_readFraction afterWhole with ⟨fraction, fractionValues, split, unpointed⟩
  split at read
  · cases read
  · rename_i someDigit
    rcases Option.map_eq_some_iff.mp read with ⟨exponent, exponentRead, rfl⟩
    rcases exists_readExponent? exponentRead with ⟨exponent?, exponentChars⟩
    have hasDigit : whole.chars ≠ [] ∨ fraction.chars ≠ [] := by
      by_contra none
      rw [not_or, not_ne_iff, not_ne_iff] at none
      rw [← wholeValues, ← fractionValues, DigitRun.values, DigitRun.values, none.1, none.2]
        at someDigit
      exact someDigit rfl
    have point :
        (if (Numeral.readFraction afterWhole).1 then '.' :: fraction.chars else []) =
          if fraction.chars = [] then [] else '.' :: fraction.chars := by
      cases hasPoint : (Numeral.readFraction afterWhole).1 with
      | false => rw [if_pos (unpointed hasPoint)]; rfl
      | true =>
          have digits : fraction.chars ≠ [] := by
            intro missing
            rw [Numeral.endsWithPoint, hasPoint, ← fractionValues, DigitRun.values, missing]
              at pointed
            cases pointed
          rw [if_neg digits]
          rfl
    refine ⟨⟨[], sign, whole, fraction, exponent?, [], by simp, by simp, hasDigit⟩, ?_⟩
    rw [signed, spanned, split, point, exponentChars]
    rfl

/-- Every text that passes for a number is spelled in some way. -/
theorem exists_spelling {text : String} (numeric : isNumeric text = true) :
    ∃ spelling : Spelling, spelling.text = text := by
  rcases (isTrimmed_trim text.toList).split with
    ⟨before, after, trimmed, blankBefore, blankAfter⟩
  unfold isNumeric at numeric
  split at numeric
  · rename_i numeral read
    rcases exists_core read (by simpa using numeric) with ⟨spelling, core⟩
    refine ⟨{ spelling with before, after, blankBefore, blankAfter }, ?_⟩
    change String.ofList (before ++ spelling.core ++ after) = text
    rw [core, ← trimmed, String.ofList_toList]
  · cases numeric

/-- A text is recognized exactly if it has a spelling. -/
theorem isNumeric_iff_exists_spelling {text : String} :
    isNumeric text = true ↔ ∃ spelling : Spelling, spelling.text = text := by
  constructor
  · exact exists_spelling
  · rintro ⟨spelling, rfl⟩
    exact spelling.isNumeric_text

end Criteria
