import Mathlib.Computability.Language
import Criteria.Proofs.Number.Spelling

/-!
# The grammar of numerals

The texts that pass for numbers are a formal language: an optional sign, digits with an optional
fraction or a fraction alone, and an optional exponent (`Grammar.numerals`).  A word of the language
is the same as a spelling without its blanks, so a text passes exactly if it is a word once its
outer blanks are gone (`isNumeric_iff_mem_numerals`).

The grammar knows digits by their kind alone.  A language that is put together from such kinds does
not change if a digit is replaced by another one, of the same script or of a different one
(`Grammar.IsDigitBlind`).
-/

namespace Criteria

open Criteria.Text
open scoped Computability

/-- A decimal digit of some script: one of the ten code points from a zero on. -/
def IsDecimalDigit (character : Char) : Prop :=
  ∃ first ∈ digitZeros, first ≤ character.toNat ∧ character.toNat < first + 10

theorem isDigit_iff_isDecimalDigit {character : Char} :
    isDigit character = true ↔ IsDecimalDigit character := by
  simp only [isDigit, digitValue?, Option.isSome_map, List.find?_isSome, Bool.and_eq_true,
    decide_eq_true_eq, IsDecimalDigit]

instance : DecidablePred IsDecimalDigit := fun _ =>
  decidable_of_iff _ isDigit_iff_isDecimalDigit

namespace Grammar

/-! ## The language -/

/-- The words of one character of a kind. -/
def oneOf (kind : Char → Prop) : Language Char :=
  {word | ∃ character, kind character ∧ word = [character]}

/-- A sign, or none. -/
def signs : Language Char :=
  1 + oneOf (· ∈ ['+', '-'])

/-- At least one digit, of any script. -/
def digitRuns : Language Char :=
  oneOf IsDecimalDigit * (oneOf IsDecimalDigit)∗

/-- A point, and digits after it. -/
def fractions : Language Char :=
  oneOf (· = '.') * digitRuns

/-- Digits with a fraction or without, or a fraction alone. -/
def significands : Language Char :=
  digitRuns * (1 + fractions) + fractions

/-- The letter of an exponent, a sign or none, and digits. -/
def exponents : Language Char :=
  oneOf (· ∈ ['e', 'E']) * (signs * digitRuns)

/-- A numeral, without blanks around it. -/
def numerals : Language Char :=
  signs * (significands * (1 + exponents))

/-- Any number of blanks. -/
def blanks : Language Char :=
  (oneOf fun character => isBlank character = true)∗

variable {kind : Char → Prop} {word : List Char}

theorem singleton_mem_oneOf {character : Char} (isKind : kind character) :
    [character] ∈ oneOf kind :=
  ⟨character, isKind, rfl⟩

theorem mem_kstar_oneOf_iff : word ∈ (oneOf kind)∗ ↔ ∀ character ∈ word, kind character := by
  rw [Language.mem_kstar]
  constructor
  · rintro ⟨letters, rfl, ofKind⟩ character member
    rcases List.mem_flatten.mp member with ⟨letter, listed, inside⟩
    rcases ofKind letter listed with ⟨single, isKind, rfl⟩
    rw [List.mem_singleton.mp inside]
    exact isKind
  · intro ofKind
    refine ⟨word.map fun character => [character], ?_, ?_⟩
    · rw [← List.flatMap_def, List.flatMap_singleton']
    · intro letter member
      rcases List.mem_map.mp member with ⟨character, listed, rfl⟩
      exact singleton_mem_oneOf (ofKind character listed)

/-! ## Words are spellings -/

theorem mem_signs_iff : word ∈ signs ↔ ∃ mark : SignMark, mark.chars = word := by
  constructor
  · rintro (rfl | ⟨character, isSign, rfl⟩)
    · exact ⟨.absent, rfl⟩
    · rcases List.mem_pair.mp isSign with rfl | rfl
      · exact ⟨.plus, rfl⟩
      · exact ⟨.minus, rfl⟩
  · rintro ⟨mark, rfl⟩
    cases mark with
    | absent => exact .inl rfl
    | plus => exact .inr (singleton_mem_oneOf (by simp))
    | minus => exact .inr (singleton_mem_oneOf (by simp))

theorem mem_digitRuns_iff :
    word ∈ digitRuns ↔ ∃ run : DigitRun, run.chars ≠ [] ∧ run.chars = word := by
  constructor
  · rintro ⟨_, ⟨first, isFirst, rfl⟩, rest, areRest, rfl⟩
    have digits : ∀ character ∈ first :: rest, isDigit character = true := by
      rw [List.forall_mem_cons]
      refine ⟨isDigit_iff_isDecimalDigit.mpr isFirst, fun character member => ?_⟩
      exact isDigit_iff_isDecimalDigit.mpr (mem_kstar_oneOf_iff.mp areRest character member)
    exact ⟨⟨first :: rest, digits⟩, List.cons_ne_nil first rest, rfl⟩
  · rintro ⟨⟨chars, areDigits⟩, nonempty, rfl⟩
    cases chars with
    | nil => exact absurd rfl nonempty
    | cons first rest =>
        have digits : ∀ character ∈ first :: rest, IsDecimalDigit character :=
          fun character member => isDigit_iff_isDecimalDigit.mp (areDigits character member)
        rw [List.forall_mem_cons] at digits
        exact Language.append_mem_mul (singleton_mem_oneOf digits.1)
          (mem_kstar_oneOf_iff.mpr digits.2)

theorem mem_fractions_iff :
    word ∈ fractions ↔ ∃ run : DigitRun, run.chars ≠ [] ∧ '.' :: run.chars = word := by
  constructor
  · rintro ⟨_, ⟨_, rfl, rfl⟩, digits, areDigits, rfl⟩
    rcases mem_digitRuns_iff.mp areDigits with ⟨run, nonempty, rfl⟩
    exact ⟨run, nonempty, rfl⟩
  · rintro ⟨run, nonempty, rfl⟩
    have point : ['.'] ∈ oneOf (· = '.') := singleton_mem_oneOf rfl
    exact Language.append_mem_mul point (mem_digitRuns_iff.mpr ⟨run, nonempty, rfl⟩)

/-- What follows the whole digits: nothing, or a point and at least one digit. -/
theorem mem_one_add_fractions_iff :
    word ∈ 1 + fractions ↔
      ∃ run : DigitRun, (if run.chars = [] then [] else '.' :: run.chars) = word := by
  constructor
  · rintro (rfl | fraction)
    · exact ⟨⟨[], nofun⟩, rfl⟩
    · rcases mem_fractions_iff.mp fraction with ⟨run, nonempty, rfl⟩
      exact ⟨run, if_neg nonempty⟩
  · rintro ⟨run, rfl⟩
    split
    · exact .inl rfl
    · rename_i nonempty
      exact .inr (mem_fractions_iff.mpr ⟨run, nonempty, rfl⟩)

/-- A significand is made of two runs of digits, of which one at least is not empty. -/
theorem mem_significands_iff :
    word ∈ significands ↔
      ∃ whole fraction : DigitRun, (whole.chars ≠ [] ∨ fraction.chars ≠ []) ∧
        whole.chars ++ (if fraction.chars = [] then [] else '.' :: fraction.chars) = word := by
  constructor
  · rintro (⟨_, digits, _, optional, rfl⟩ | fraction)
    · rcases mem_digitRuns_iff.mp digits with ⟨whole, nonempty, rfl⟩
      rcases mem_one_add_fractions_iff.mp optional with ⟨run, rfl⟩
      exact ⟨whole, run, .inl nonempty, rfl⟩
    · rcases mem_fractions_iff.mp fraction with ⟨run, nonempty, rfl⟩
      refine ⟨⟨[], nofun⟩, run, .inr nonempty, ?_⟩
      rw [if_neg nonempty]
      rfl
  · rintro ⟨whole, run, someDigit, rfl⟩
    by_cases missing : whole.chars = []
    · have nonempty := someDigit.resolve_left (not_not_intro missing)
      rw [missing, if_neg nonempty]
      exact .inr (mem_fractions_iff.mpr ⟨run, nonempty, rfl⟩)
    · exact .inl (Language.append_mem_mul (mem_digitRuns_iff.mpr ⟨whole, missing, rfl⟩)
        (mem_one_add_fractions_iff.mpr ⟨run, rfl⟩))

theorem mem_exponents_iff : word ∈ exponents ↔ ∃ mark : ExponentMark, mark.chars = word := by
  constructor
  · rintro ⟨_, ⟨letter, isLetter, rfl⟩, _, ⟨_, isSign, _, digits, rfl⟩, rfl⟩
    rcases mem_signs_iff.mp isSign with ⟨sign, rfl⟩
    rcases mem_digitRuns_iff.mp digits with ⟨run, nonempty, rfl⟩
    exact ⟨⟨letter, List.mem_pair.mp isLetter, sign, run, nonempty⟩, rfl⟩
  · rintro ⟨⟨letter, isLetter, sign, run, nonempty⟩, rfl⟩
    apply Language.append_mem_mul (singleton_mem_oneOf (List.mem_pair.mpr isLetter))
    exact Language.append_mem_mul (mem_signs_iff.mpr ⟨sign, rfl⟩)
      (mem_digitRuns_iff.mpr ⟨run, nonempty, rfl⟩)

theorem mem_one_add_exponents_iff :
    word ∈ 1 + exponents ↔
      ∃ exponent? : Option ExponentMark,
        (match exponent? with
          | none => []
          | some mark => mark.chars) = word := by
  constructor
  · rintro (rfl | exponent)
    · exact ⟨none, rfl⟩
    · rcases mem_exponents_iff.mp exponent with ⟨mark, rfl⟩
      exact ⟨some mark, rfl⟩
  · rintro ⟨exponent?, rfl⟩
    cases exponent? with
    | none => exact .inl rfl
    | some mark => exact .inr (mem_exponents_iff.mpr ⟨mark, rfl⟩)

/-- Numerals are the spellings without their blanks. -/
theorem mem_numerals_iff : word ∈ numerals ↔ ∃ spelling : Spelling, spelling.core = word := by
  constructor
  · rintro ⟨_, isSign, _, ⟨_, significand, _, exponent, rfl⟩, rfl⟩
    rcases mem_signs_iff.mp isSign with ⟨sign, rfl⟩
    rcases mem_significands_iff.mp significand with ⟨whole, fraction, hasDigit, rfl⟩
    rcases mem_one_add_exponents_iff.mp exponent with ⟨exponent?, rfl⟩
    refine ⟨⟨[], sign, whole, fraction, exponent?, [], nofun, nofun, hasDigit⟩, ?_⟩
    exact congrArg (sign.chars ++ ·) (List.append_assoc _ _ _).symm
  · rintro ⟨spelling, rfl⟩
    rw [Spelling.core, Spelling.unsignedChars, ← List.append_assoc spelling.whole.chars]
    apply Language.append_mem_mul (mem_signs_iff.mpr ⟨spelling.sign, rfl⟩)
    apply Language.append_mem_mul
    · exact mem_significands_iff.mpr ⟨spelling.whole, spelling.fraction, spelling.hasDigit, rfl⟩
    · exact mem_one_add_exponents_iff.mpr ⟨spelling.exponent?, rfl⟩

end Grammar

/-! ## Points -/

theorem SignMark.point_notMem (mark : SignMark) : '.' ∉ mark.chars := by
  cases mark with
  | absent | plus | minus => decide

theorem DigitRun.point_notMem (run : DigitRun) : '.' ∉ run.chars :=
  fun member => absurd (run.areDigits _ member) (by decide)

theorem ExponentMark.point_notMem (mark : ExponentMark) : '.' ∉ mark.chars := by
  have letter : '.' ≠ mark.letter := by
    rcases mark.isLetter with same | same
    · rw [same]
      decide
    · rw [same]
      decide
  rw [ExponentMark.chars, List.mem_cons, List.mem_append, not_or, not_or]
  exact ⟨letter, mark.sign.point_notMem, mark.digits.point_notMem⟩

namespace Spelling

variable (spelling : Spelling)

theorem point_notMem_exponentChars : '.' ∉ spelling.exponentChars := by
  cases given : spelling.exponent? with
  | none =>
      rw [exponentChars, given]
      exact List.not_mem_nil
  | some mark =>
      rw [(spelling.exponentChars_some given).1]
      exact mark.point_notMem

/-- There is no second point, and a digit follows the first. -/
theorem digit_after_point {before after : List Char}
    (split : spelling.core = before ++ '.' :: after) :
    '.' ∉ before ∧ '.' ∉ after ∧ ∃ digit ∈ after.head?, IsDecimalDigit digit := by
  have noneBefore : '.' ∉ spelling.sign.chars ++ spelling.whole.chars := by
    rw [List.mem_append, not_or]
    exact ⟨spelling.sign.point_notMem, spelling.whole.point_notMem⟩
  have noneAfter : '.' ∉ spelling.fraction.chars ++ spelling.exponentChars := by
    rw [List.mem_append, not_or]
    exact ⟨spelling.fraction.point_notMem, spelling.point_notMem_exponentChars⟩
  rw [core, unsignedChars, ← List.append_assoc, pointChars] at split
  by_cases missing : spelling.fraction.chars = []
  · rw [if_pos missing, List.nil_append] at split
    have point : '.' ∈ (spelling.sign.chars ++ spelling.whole.chars) ++ spelling.exponentChars := by
      rw [split]
      exact List.mem_append_right before List.mem_cons_self
    rcases List.mem_append.mp point with early | late
    · exact absurd early noneBefore
    · exact absurd late spelling.point_notMem_exponentChars
  · rw [if_neg missing, List.cons_append] at split
    rcases (List.append_cons_inj_of_notMem noneBefore noneAfter).mp split with ⟨rfl, _, rfl⟩
    refine ⟨noneBefore, noneAfter, ?_⟩
    rcases List.exists_cons_of_ne_nil missing with ⟨digit, rest, chars⟩
    refine ⟨digit, by rw [chars]; rfl, ?_⟩
    apply isDigit_iff_isDecimalDigit.mp
    exact spelling.fraction.areDigits digit (chars ▸ List.mem_cons_self)

/-- A numeral is made of marks and digits only. -/
theorem mem_core_cases {character : Char} (member : character ∈ spelling.core) :
    character ∈ ['+', '-', '.', 'e', 'E'] ∨ IsDecimalDigit character := by
  have isPart := List.all_eq_true.mp (Numeral.all_isPart_of_read? spelling.read?_core)
  rcases (Bool.or_eq_true _ _).mp (isPart character member) with mark | digit
  · exact .inl (List.contains_iff_mem.mp mark)
  · exact .inr (isDigit_iff_isDecimalDigit.mp digit)

end Spelling

namespace Grammar

/-! ## Digits of other scripts -/

/-- Two characters that are the same, or both digits. -/
def SameOrDigits (first second : Char) : Prop :=
  first = second ∨ (IsDecimalDigit first ∧ IsDecimalDigit second)

theorem SameOrDigits.symm {first second : Char} (alike : SameOrDigits first second) :
    SameOrDigits second first :=
  alike.imp Eq.symm And.symm

instance (first second : Char) : Decidable (SameOrDigits first second) :=
  inferInstanceAs (Decidable (_ ∨ _))

/-- A language that does not tell digits apart. -/
def IsDigitBlind (language : Language Char) : Prop :=
  ∀ word ∈ language, ∀ other, List.Forall₂ SameOrDigits other word → other ∈ language

theorem isDigitBlind_digit : IsDigitBlind (oneOf IsDecimalDigit) := by
  rintro _ ⟨character, digit, rfl⟩ other alike
  cases alike with
  | cons same nothing =>
      cases nothing
      rcases same with rfl | ⟨otherDigit, _⟩
      · exact singleton_mem_oneOf digit
      · exact singleton_mem_oneOf otherDigit

/-- A kind without digits leaves nothing to replace. -/
theorem isDigitBlind_oneOf (apart : ∀ character, kind character → isDigit character = false) :
    IsDigitBlind (oneOf kind) := by
  rintro _ ⟨character, isKind, rfl⟩ other alike
  cases alike with
  | cons same nothing =>
      cases nothing
      rcases same with rfl | ⟨_, digit⟩
      · exact singleton_mem_oneOf isKind
      · have noDigit := apart character isKind
        rw [isDigit_iff_isDecimalDigit.mpr digit] at noDigit
        cases noDigit

theorem isDigitBlind_marks {marks : List Char} (apart : marks.any isDigit = false) :
    IsDigitBlind (oneOf (· ∈ marks)) := by
  apply isDigitBlind_oneOf
  intro mark listed
  exact Bool.eq_false_iff.mpr (List.any_eq_false.mp apart mark listed)

namespace IsDigitBlind

variable {first second : Language Char}

theorem one : IsDigitBlind 1 := by
  rintro _ rfl other alike
  exact List.forall₂_nil_right_iff.mp alike

theorem add (firstBlind : IsDigitBlind first) (secondBlind : IsDigitBlind second) :
    IsDigitBlind (first + second) := by
  rintro word (member | member) other alike
  · exact .inl (firstBlind word member other alike)
  · exact .inr (secondBlind word member other alike)

theorem mul (firstBlind : IsDigitBlind first) (secondBlind : IsDigitBlind second) :
    IsDigitBlind (first * second) := by
  rintro _ ⟨start, isFirst, rest, isSecond, rfl⟩ other alike
  rw [← List.take_append_drop start.length other]
  exact Language.append_mem_mul
    (firstBlind start isFirst _ (List.forall₂_take_append other start rest alike))
    (secondBlind rest isSecond _ (List.forall₂_drop_append other start rest alike))

/-- Repetition keeps a language blind to which digits stand in its words. -/
theorem kstar (blind : IsDigitBlind first) : IsDigitBlind first∗ := by
  rintro _ ⟨words, rfl, members⟩
  induction words with
  | nil =>
      intro other alike
      rw [List.forall₂_nil_right_iff.mp alike]
      exact Language.nil_mem_kstar first
  | cons word words hypothesis =>
      intro other alike
      rw [List.forall_mem_cons] at members
      rw [← Language.one_add_self_mul_kstar_eq_kstar,
        ← List.take_append_drop word.length other]
      apply Or.inr
      exact Language.append_mem_mul
        (blind word members.1 _ (List.forall₂_take_append other word _ alike))
        (hypothesis members.2 _ (List.forall₂_drop_append other word _ alike))

end IsDigitBlind

theorem isDigitBlind_signs : IsDigitBlind signs := by
  apply IsDigitBlind.one.add
  apply isDigitBlind_marks
  decide

theorem isDigitBlind_digitRuns : IsDigitBlind digitRuns :=
  isDigitBlind_digit.mul isDigitBlind_digit.kstar

theorem isDigitBlind_fractions : IsDigitBlind fractions := by
  apply IsDigitBlind.mul _ isDigitBlind_digitRuns
  apply isDigitBlind_oneOf
  rintro _ rfl
  decide

theorem isDigitBlind_exponents : IsDigitBlind exponents := by
  apply IsDigitBlind.mul _ (isDigitBlind_signs.mul isDigitBlind_digitRuns)
  apply isDigitBlind_marks
  decide

/-- Whether a word is a numeral does not depend on which digits it has, or in which script. -/
theorem isDigitBlind_numerals : IsDigitBlind numerals := by
  have significands : IsDigitBlind significands :=
    (isDigitBlind_digitRuns.mul (IsDigitBlind.one.add isDigitBlind_fractions)).add
      isDigitBlind_fractions
  exact isDigitBlind_signs.mul (significands.mul (IsDigitBlind.one.add isDigitBlind_exponents))

theorem isDigitBlind_blanks : IsDigitBlind blanks := by
  apply IsDigitBlind.kstar
  apply isDigitBlind_oneOf
  intro character blank
  by_contra digit
  rw [Bool.not_eq_false] at digit
  rw [isBlank_of_isDigit digit] at blank
  cases blank

end Grammar

/-! ## Texts -/

variable {text other : String}

/-- A text is recognized exactly if it is a numeral once its blanks are off. -/
theorem isNumeric_iff_mem_numerals :
    isNumeric text = true ↔ trim text.toList ∈ Grammar.numerals := by
  rw [isNumeric_iff_exists_spelling, Grammar.mem_numerals_iff]
  constructor
  · rintro ⟨spelling, rfl⟩
    exact ⟨spelling, spelling.trim_text.symm⟩
  · rintro ⟨spelling, core⟩
    rcases (isTrimmed_trim text.toList).split with
      ⟨before, after, trimmed, blankBefore, blankAfter⟩
    refine ⟨{ spelling with before, after, blankBefore, blankAfter }, ?_⟩
    change String.ofList (before ++ spelling.core ++ after) = text
    rw [core, ← trimmed, String.ofList_toList]

/-- A text passes for a number exactly if it is a numeral between blanks. -/
theorem isNumeric_iff_mem_padded :
    isNumeric text = true ↔
      text.toList ∈ Grammar.blanks * (Grammar.numerals * Grammar.blanks) := by
  rw [isNumeric_iff_mem_numerals]
  constructor
  · intro numeral
    rcases (isTrimmed_trim text.toList).split with
      ⟨before, after, trimmed, blankBefore, blankAfter⟩
    rw [trimmed, List.append_assoc]
    apply Language.append_mem_mul (Grammar.mem_kstar_oneOf_iff.mpr blankBefore)
    exact Language.append_mem_mul numeral (Grammar.mem_kstar_oneOf_iff.mpr blankAfter)
  · rintro ⟨before, blankBefore, _, ⟨core, numeral, after, blankAfter, rfl⟩, whole⟩
    rcases Grammar.mem_numerals_iff.mp numeral with ⟨spelling, rfl⟩
    have trimmed : trim (before ++ spelling.core ++ after) = spelling.core :=
      trim_between (Grammar.mem_kstar_oneOf_iff.mp blankBefore)
        (Grammar.mem_kstar_oneOf_iff.mp blankAfter) spelling.solid_core
    rw [List.append_assoc] at trimmed
    rw [← whole]
    exact trimmed.symm ▸ numeral

/-- Digits can be replaced by others, of any script, one by one. -/
theorem isNumeric_of_forall₂
    (alike : List.Forall₂ Grammar.SameOrDigits other.toList text.toList)
    (numeric : isNumeric text = true) : isNumeric other = true := by
  have blind : Grammar.IsDigitBlind (Grammar.blanks * (Grammar.numerals * Grammar.blanks)) :=
    Grammar.isDigitBlind_blanks.mul
      (Grammar.isDigitBlind_numerals.mul Grammar.isDigitBlind_blanks)
  rw [isNumeric_iff_mem_padded] at numeric ⊢
  exact blind _ numeric _ alike

/--
A text passes for a number exactly if it is a numeral once its outer blanks are gone.  So it has
signs, a point, an `e` and digits of any script, and nothing else; there is no second point, and a
digit follows the first.  More or fewer blanks around it and other digits in their places, of
whatever script, make no difference.
-/
theorem isNumeric_recognizes_numerals (text : String) :
    IsTrimmed text.toList (trim text.toList) ∧
      (isNumeric text = true ↔ trim text.toList ∈ Grammar.numerals) ∧
      (isNumeric text = true →
        (∀ character ∈ trim text.toList,
          character ∈ ['+', '-', '.', 'e', 'E'] ∨ IsDecimalDigit character) ∧
        ∀ before after, trim text.toList = before ++ '.' :: after →
          '.' ∉ before ∧ '.' ∉ after ∧ ∃ digit ∈ after.head?, IsDecimalDigit digit) ∧
      (∀ before after : String,
        (∀ character ∈ before.toList, isBlank character = true) →
          (∀ character ∈ after.toList, isBlank character = true) →
            isNumeric (before ++ text ++ after) = isNumeric text) ∧
      ∀ other : String, List.Forall₂ Grammar.SameOrDigits text.toList other.toList →
        isNumeric other = isNumeric text := by
  refine ⟨isTrimmed_trim text.toList, isNumeric_iff_mem_numerals, ?_, ?_, ?_⟩
  · intro numeric
    rcases exists_spelling numeric with ⟨spelling, rfl⟩
    rw [spelling.trim_text]
    exact ⟨fun _ => spelling.mem_core_cases, fun _ _ => spelling.digit_after_point⟩
  · intro before after blankBefore blankAfter
    have trimmed : trim (before ++ text ++ after).toList = trim text.toList := by
      rw [String.toList_append, String.toList_append]
      exact trim_surrounded blankBefore blankAfter
    rw [Bool.eq_iff_iff, isNumeric_iff_mem_numerals, isNumeric_iff_mem_numerals, trimmed]
  · intro other alike
    rw [Bool.eq_iff_iff]
    constructor
    · exact isNumeric_of_forall₂ alike
    · exact isNumeric_of_forall₂ (alike.flip.imp fun _ _ => Grammar.SameOrDigits.symm)

/-- No digit after the point, an underscore, a word, a blank inside, two points. -/
example : ["7.", "1_0", "inf", "1 0", "1.2.3"].any isNumeric = false := by
  decide

/-- A numeral, and the same in digits of other scripts between blanks that are not spaces. -/
theorem isNumeric_recognizes_numerals_scripts :
    isNumeric "-12.5e+07" = true ∧
      trim "-12.5e+07".toList = ['-', '1', '2'] ++ '.' :: ['5', 'e', '+', '0', '7'] ∧
      (∃ digit ∈ ['5', 'e', '+', '0', '7'].head?, IsDecimalDigit digit) ∧
      List.Forall₂ Grammar.SameOrDigits "-12.5e+07".toList "-١२.൫e+０７".toList ∧
      isNumeric ("\u3000" ++ "-١२.൫e+０７" ++ "\u001f") = true := by
  have plain : isNumeric "-12.5e+07" = true := by decide
  have split : trim "-12.5e+07".toList = ['-', '1', '2'] ++ '.' :: ['5', 'e', '+', '0', '7'] := by
    decide
  have alike : List.Forall₂ Grammar.SameOrDigits "-12.5e+07".toList "-١२.൫e+０７".toList := by
    decide
  have spaced : ∀ character ∈ "\u3000".toList, isBlank character = true :=
    List.all_eq_true.mp (by decide)
  have separated : ∀ character ∈ "\u001f".toList, isBlank character = true :=
    List.all_eq_true.mp (by decide)
  rcases isNumeric_recognizes_numerals "-12.5e+07" with ⟨_, _, pointed, _, replaced⟩
  rcases isNumeric_recognizes_numerals "-١२.൫e+０７" with ⟨_, _, _, surrounded, _⟩
  refine ⟨plain, split, ((pointed plain).2 _ _ split).2.2, alike, ?_⟩
  rw [surrounded "\u3000" "\u001f" spaced separated, replaced "-١२.൫e+０７" alike, plain]

end Criteria
