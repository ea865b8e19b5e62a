import Mathlib.Algebra.Ring.Nat
import Mathlib.Data.List.Induction
import Criteria.Uuid

/-!
# Reading and writing identifiers

A text that is written as the canonical texts are has none of the decorations that the reader passes
over, but for its hyphens.  What is left of it without them are 32 hexadecimal digits, and the
number that they write is read (`read?_of_isUuid`).
-/

namespace Criteria

open Criteria.Text

namespace Uuid

/-! ## Hexadecimal digits -/

def isHexDigit (character : Char) : Bool :=
  (hexValue? character).isSome

/-- The digits in each of their three ranges, with what is taken off their code point. -/
theorem hexValue?_cases
    {character : Char} {digit : Nat} (found : hexValue? character = some digit) :
    48 ≤ character.toNat ∧ character.toNat ≤ 57 ∧ digit = character.toNat - 48 ∨
      97 ≤ character.toNat ∧ character.toNat ≤ 102 ∧ digit = character.toNat - 87 ∨
        65 ≤ character.toNat ∧ character.toNat ≤ 70 ∧ digit = character.toNat - 55 := by
  unfold hexValue? at found
  split at found
  · rename_i within
    cases found
    exact .inl ⟨within.1, within.2, rfl⟩
  · split at found
    · rename_i within
      cases found
      exact .inr (.inl ⟨within.1, within.2, rfl⟩)
    · split at found
      · rename_i within
        cases found
        exact .inr (.inr ⟨within.1, within.2, rfl⟩)
      · cases found

theorem hexValue?_lt
    {character : Char} {digit : Nat} (found : hexValue? character = some digit) : digit < 16 := by
  have ranges := hexValue?_cases found
  omega

/-- A hexadecimal digit is written in ASCII, and is neither a blank nor a sign. -/
theorem toNat_of_isHexDigit
    {character : Char} (isDigit : isHexDigit character = true) :
    48 ≤ character.toNat ∧ character.toNat < 127 := by
  rcases Option.isSome_iff_exists.mp isDigit with ⟨digit, found⟩
  have ranges := hexValue?_cases found
  omega

theorem ne_of_isHexDigit
    {character other : Char} (isDigit : isHexDigit character = true)
    (noDigit : isHexDigit other = false) : character ≠ other := by
  rintro rfl
  rw [isDigit] at noDigit
  cases noDigit

/-- The number that hexadecimal digits write after a number that was read before them. -/
def hexNumber (value : Nat) (digits : List Char) : Nat :=
  digits.foldl (fun value digit => 16 * value + (hexValue? digit).getD 0) value

variable {text : List Char}

/-- As many hexadecimal digits bound the number that they write. -/
theorem hexNumber_lt
    (digits : ∀ character ∈ text, isHexDigit character = true) (value : Nat) :
    hexNumber value text < (value + 1) * 16 ^ text.length := by
  induction text generalizing value with
  | nil => simp [hexNumber]
  | cons character rest induction =>
      rcases List.forall_mem_cons.mp digits with ⟨isDigit, restDigits⟩
      rcases Option.isSome_iff_exists.mp isDigit with ⟨digit, found⟩
      have small := hexValue?_lt found
      have wider : 16 * value + digit + 1 ≤ 16 * (value + 1) := by omega
      calc
        hexNumber value (character :: rest) = hexNumber (16 * value + digit) rest := by
          rw [hexNumber, List.foldl_cons, found, Option.getD_some, ← hexNumber]
        _ < (16 * value + digit + 1) * 16 ^ rest.length := induction restDigits _
        _ ≤ 16 * (value + 1) * 16 ^ rest.length := Nat.mul_le_mul_right _ wider
        _ = (value + 1) * 16 ^ (character :: rest).length := by
          rw [List.length_cons, Nat.pow_succ, Nat.mul_comm 16, Nat.mul_assoc, Nat.mul_comm 16]

theorem readMoreDigits?_of_digits
    (digits : ∀ character ∈ text, isHexDigit character = true) (value : Nat) :
    readMoreDigits? value text = some (hexNumber value text) := by
  induction text generalizing value with
  | nil => rfl
  | cons character rest induction =>
      rcases List.forall_mem_cons.mp digits with ⟨isDigit, restDigits⟩
      rcases Option.isSome_iff_exists.mp isDigit with ⟨digit, found⟩
      have noUnderscore : character ≠ '_' := ne_of_isHexDigit isDigit (by decide)
      rw [readMoreDigits?, found]
      · simp [induction restDigits, hexNumber, found]
      · rintro _ _ rfl
        exact absurd rfl noUnderscore

/-! ## Hexadecimal numbers -/

theorem dropWhile_of_forall
    {skip : Char → Bool} (kept : ∀ character ∈ text, skip character = false) :
    text.dropWhile skip = text := by
  cases text with
  | nil => rfl
  | cons character rest =>
      rw [List.dropWhile_cons_of_neg]
      simp [kept character List.mem_cons_self]

theorem isNumberBlank_of_isHexDigit
    {character : Char} (isDigit : isHexDigit character = true) :
    isNumberBlank character = false := by
  have range := toNat_of_isHexDigit isDigit
  have noSpace : character ≠ ' ' := ne_of_isHexDigit isDigit (by decide)
  simp only [isNumberBlank, Bool.or_eq_false_iff, beq_eq_false_iff_ne, ne_eq, noSpace,
    not_false_eq_true, Bool.and_eq_false_iff, decide_eq_false_iff_not, true_and]
  omega

section Digits

variable (digits : ∀ character ∈ text, isHexDigit character = true)

include digits

theorem skipPlus_of_digits : skipPlus text = text := by
  unfold skipPlus
  split
  · exact absurd rfl (ne_of_isHexDigit (digits '+' List.mem_cons_self) (by decide))
  · rfl

/-- The mark of a hexadecimal number is a letter that is no digit. -/
theorem skipMark_of_digits : skipMark text = text := by
  have noMark : ∀ mark ∈ text, ¬ (mark = 'x' ∨ mark = 'X') := by
    intro mark member
    rw [not_or]
    exact ⟨ne_of_isHexDigit (digits mark member) (by decide),
      ne_of_isHexDigit (digits mark member) (by decide)⟩
  unfold skipMark
  split
  · rw [if_neg (noMark _ (List.mem_cons_of_mem _ List.mem_cons_self))]
  · rw [if_neg (noMark _ (List.mem_cons_of_mem _ List.mem_cons_self))]
  · rfl

/-- Digits are a number as they stand, without blanks, sign or mark. -/
theorem readHex?_of_digits (nonempty : text ≠ []) : readHex? text = some (hexNumber 0 text) := by
  have unblank : text.dropWhile isNumberBlank = text :=
    dropWhile_of_forall fun character member =>
      isNumberBlank_of_isHexDigit (digits character member)
  rw [readHex?, unblank, skipPlus_of_digits digits, skipMark_of_digits digits]
  cases text with
  | nil => exact absurd rfl nonempty
  | cons character rest =>
      rcases List.forall_mem_cons.mp digits with ⟨isDigit, restDigits⟩
      rcases Option.isSome_iff_exists.mp isDigit with ⟨digit, found⟩
      rw [readDigits?, found]
      simp [readMoreDigits?_of_digits restDigits, hexNumber, found]

end Digits

/-! ## Decorations -/

/-- A word is not found in a text without its first letter. -/
theorem removeWord_of_notMem {first : Char} {word : List Char} (absent : first ∉ text) :
    removeWord (first :: word) text = text := by
  have kept (fuel : Nat) : removeWord.go (first :: word) fuel text = text := by
    induction text generalizing fuel with
    | nil => cases fuel <;> rfl
    | cons character rest induction =>
        rw [List.mem_cons, not_or] at absent
        cases fuel with
        | zero => rfl
        | succ fuel =>
            simp [removeWord.go, List.isPrefixOf, absent.1, induction absent.2]
  exact kept text.length

/-- A text of digits and hyphens has no decorations but its hyphens. -/
theorem undecorated_of_digits
    (parts : ∀ character ∈ text, isHexDigit character = true ∨ character = '-') :
    undecorated text = text.filter (· ≠ '-') := by
  have absent {other : Char} (noDigit : isHexDigit other = false) (noHyphen : other ≠ '-') :
      other ∉ text := by
    intro member
    rcases parts other member with isDigit | isHyphen
    · exact ne_of_isHexDigit isDigit noDigit rfl
    · exact noHyphen isHyphen
  have noBrace : ∀ character ∈ text, isBrace character = false := by
    intro character member
    cases brace : isBrace character with
    | false => rfl
    | true =>
        simp only [isBrace, Bool.or_eq_true, beq_iff_eq] at brace
        rcases brace with rfl | rfl
        · exact absurd member (absent (by decide) (by decide))
        · exact absurd member (absent (by decide) (by decide))
  have noBraceReversed : ∀ character ∈ text.reverse, isBrace character = false :=
    fun character member => noBrace character (List.mem_reverse.mp member)
  rw [undecorated, removeWord_of_notMem (absent (by decide) (by decide)),
    removeWord_of_notMem (absent (by decide) (by decide)), dropWhile_of_forall noBrace,
    dropWhile_of_forall noBraceReversed, List.reverse_reverse]

/-! ## Groups -/

/-- A single group is so many hexadecimal digits. -/
theorem isGrouped_singleton_iff {length : ℕ} :
    isGrouped [length] text = true ↔
      text.length = length ∧ ∀ character ∈ text, isHexDigit character = true := by
  rw [isGrouped, Bool.and_eq_true, beq_iff_eq, List.all_eq_true]
  rfl

/-- A text of several groups is the first one, a hyphen, and a text of the other ones. -/
theorem isGrouped_cons_cons_iff {length next : ℕ} {others : List ℕ} :
    isGrouped (length :: next :: others) text = true ↔
      ∃ group rest, text = group ++ '-' :: rest ∧ group.length = length ∧
        (∀ character ∈ group, isHexDigit character = true) ∧
          isGrouped (next :: others) rest = true := by
  simp only [isGrouped, Bool.and_eq_true, beq_iff_eq, List.all_eq_true]
  constructor
  · rintro ⟨⟨measured, digits⟩, restGrouped⟩
    split at restGrouped
    · rename_i rest found
      refine ⟨text.take length, rest, ?_, measured, digits, restGrouped⟩
      rw [← found, List.take_append_drop]
    · cases restGrouped
  · rintro ⟨group, rest, rfl, rfl, digits, restGrouped⟩
    rw [List.take_left, List.drop_left]
    exact ⟨⟨rfl, digits⟩, restGrouped⟩

theorem filter_hyphen_of_digits (digits : ∀ character ∈ text, isHexDigit character = true) :
    text.filter (· ≠ '-') = text := by
  rw [List.filter_eq_self]
  intro character member
  exact decide_eq_true (ne_of_isHexDigit (digits character member) (by decide))

theorem filter_hyphen_append
    {group rest : List Char} (digits : ∀ character ∈ group, isHexDigit character = true) :
    (group ++ '-' :: rest).filter (· ≠ '-') = group ++ rest.filter (· ≠ '-') := by
  have hyphen : ('-' :: rest).filter (· ≠ '-') = rest.filter (· ≠ '-') := by simp
  rw [List.filter_append, filter_hyphen_of_digits digits, hyphen]

/-- Groups of digits with hyphens between them have as many digits as their lengths add up to. -/
theorem digits_of_isGrouped {lengths : List Nat} (grouped : isGrouped lengths text = true) :
    (∀ character ∈ text, isHexDigit character = true ∨ character = '-') ∧
      (text.filter (· ≠ '-')).length = lengths.sum := by
  induction lengths generalizing text with
  | nil =>
      rw [isGrouped, List.isEmpty_iff] at grouped
      subst grouped
      exact ⟨fun _ member => absurd member List.not_mem_nil, rfl⟩
  | cons length lengths induction =>
      cases lengths with
      | nil =>
          rcases isGrouped_singleton_iff.mp grouped with ⟨measured, digits⟩
          refine ⟨fun character member => .inl (digits character member), ?_⟩
          rw [filter_hyphen_of_digits digits, measured, List.sum_singleton]
      | cons next others =>
          rcases isGrouped_cons_cons_iff.mp grouped with
            ⟨group, rest, rfl, measured, digits, restGrouped⟩
          rcases induction restGrouped with ⟨restParts, restLength⟩
          constructor
          · intro character member
            rw [List.mem_append, List.mem_cons] at member
            rcases member with inGroup | isHyphen | inRest
            · exact .inl (digits character inGroup)
            · exact .inr isHyphen
            · exact restParts character inRest
          · rw [filter_hyphen_append digits, List.length_append, measured, restLength]
            exact List.sum_cons.symm

/-- Every text that is written as an identifier is read as the number of its digits. -/
theorem read?_of_isUuid {text : String} (written : isUuid text = true) :
    ∃ uuid, read? text = some uuid ∧
      uuid.value = hexNumber 0 (text.toList.filter (· ≠ '-')) := by
  rcases digits_of_isGrouped written with ⟨parts, length⟩
  have plain := undecorated_of_digits parts
  have digits :
      ∀ character ∈ text.toList.filter (· ≠ '-'), isHexDigit character = true := by
    intro character member
    rw [List.mem_filter, decide_eq_true_eq] at member
    exact (parts character member.1).resolve_right member.2
  have ascii :
      asciiText? (text.toList.filter (· ≠ '-')) = some (text.toList.filter (· ≠ '-')) := by
    rw [asciiText?, if_pos]
    rw [List.all_eq_true]
    intro character member
    have range := toNat_of_isHexDigit (digits character member)
    exact decide_eq_true (Nat.lt_succ_of_lt range.2)
  have nonempty : text.toList.filter (· ≠ '-') ≠ [] := by
    intro empty
    rw [empty] at length
    exact absurd length (by decide)
  have small : hexNumber 0 (text.toList.filter (· ≠ '-')) < powerOfTwo 128 := by
    have bound := hexNumber_lt digits 0
    rw [length] at bound
    exact Nat.lt_of_lt_of_eq bound (by decide)
  refine ⟨⟨_, small⟩, ?_, rfl⟩
  have counted : (undecorated text.toList).length = 32 := by rw [plain, length]; rfl
  rw [read?, if_pos counted, plain, ascii, Option.bind_some, readHex?_of_digits digits nonempty,
    Option.bind_some, dif_pos small]

/-! ## Writing digits -/

/-- A digit is read back from its character. -/
theorem hexValue?_hexCharacter {digit : ℕ} (small : digit < 16) :
    hexValue? (hexCharacter digit) = some digit := by
  have all : ∀ digit < 16, hexValue? (hexCharacter digit) = some digit := by
    decide
  exact all digit small

/-- Digits are written in lower case. -/
theorem hexCharacter_of_hexValue?
    {character : Char} {digit : ℕ} (found : hexValue? character = some digit) :
    hexCharacter digit = character.toLower := by
  have all : ∀ point < 127, ∀ digit ∈ hexValue? (Char.ofNat point),
      hexCharacter digit = (Char.ofNat point).toLower := by
    decide
  have range := toNat_of_isHexDigit (Option.isSome_iff_exists.mpr ⟨digit, found⟩)
  rw [← Char.ofNat_toNat character] at found ⊢
  exact all character.toNat range.2 digit found

theorem hexNumber_append_singleton (value : ℕ) (character : Char) :
    hexNumber value (text ++ [character]) =
      16 * hexNumber value text + (hexValue? character).getD 0 := by
  rw [hexNumber, List.foldl_append, ← hexNumber]
  rfl

theorem length_hexText (count value : ℕ) : (hexText count value).length = count := by
  induction count generalizing value with
  | zero => rfl
  | succ count induction => rw [hexText, List.length_append, induction, List.length_singleton]

theorem isHexDigit_of_mem_hexText
    {count value : ℕ} {character : Char} (member : character ∈ hexText count value) :
    isHexDigit character = true := by
  induction count generalizing value with
  | zero => exact absurd member List.not_mem_nil
  | succ count induction =>
      rcases List.mem_append.mp member with before | last
      · exact induction before
      · rw [List.mem_singleton.mp last, isHexDigit,
          hexValue?_hexCharacter (Nat.mod_lt value (by decide))]
        rfl

/-- The digits that are written are read as the number modulo their power of sixteen. -/
theorem hexNumber_hexText (count value : ℕ) :
    hexNumber 0 (hexText count value) = value % 16 ^ count := by
  induction count generalizing value with
  | zero => exact (Nat.mod_one value).symm
  | succ count induction =>
      rw [hexText, hexNumber_append_singleton, induction,
        hexValue?_hexCharacter (Nat.mod_lt value (by decide)), Option.getD_some, Nat.pow_succ',
        Nat.mod_mul, Nat.add_comm]

/-- Digits that are read are written again in lower case. -/
theorem hexText_hexNumber (digits : ∀ character ∈ text, isHexDigit character = true) :
    hexText text.length (hexNumber 0 text) = text.map Char.toLower := by
  induction text using List.reverseRecOn with
  | nil => rfl
  | append_singleton before last induction =>
      rw [List.forall_mem_append, List.forall_mem_singleton] at digits
      rcases Option.isSome_iff_exists.mp digits.2 with ⟨digit, found⟩
      have small := hexValue?_lt found
      have quotient : (16 * hexNumber 0 before + digit) / 16 = hexNumber 0 before := by omega
      have remainder : (16 * hexNumber 0 before + digit) % 16 = digit := by omega
      rw [List.length_append, List.length_singleton, hexText, hexNumber_append_singleton, found,
        Option.getD_some, quotient, remainder, induction digits.1, hexCharacter_of_hexValue? found,
        List.map_append, List.map_singleton]

/-! ## Writing groups -/

theorem hyphenate_cons_cons (length next : ℕ) (others : List ℕ) :
    hyphenate (length :: next :: others) text =
      text.take length ++ '-' :: hyphenate (next :: others) (text.drop length) :=
  rfl

theorem hyphenate_map
    {change : Char → Char} (fixed : change '-' = '-') (lengths : List ℕ) :
    hyphenate lengths (text.map change) = (hyphenate lengths text).map change := by
  induction lengths generalizing text with
  | nil => rfl
  | cons length lengths induction =>
      cases lengths with
      | nil => rw [hyphenate, hyphenate, List.map_take]
      | cons next others =>
          rw [hyphenate_cons_cons, hyphenate_cons_cons, ← List.map_drop, induction, ← List.map_take,
            List.map_append, List.map_cons, fixed]

/-- Hyphens cut digits into groups of the given lengths and change nothing else. -/
theorem isGrouped_hyphenate
    {lengths : List ℕ} (digits : ∀ character ∈ text, isHexDigit character = true)
    (length : text.length = lengths.sum) :
    isGrouped lengths (hyphenate lengths text) = true ∧
      (hyphenate lengths text).filter (· ≠ '-') = text := by
  induction lengths generalizing text with
  | nil =>
      rw [List.sum_nil, List.length_eq_zero_iff] at length
      rw [length]
      exact ⟨rfl, rfl⟩
  | cons first lengths induction =>
      rw [List.sum_cons] at length
      cases lengths with
      | nil =>
          have all : text.take first = text := List.take_of_length_le (by simp [length])
          rw [hyphenate, all, isGrouped_singleton_iff]
          exact ⟨⟨length, digits⟩, filter_hyphen_of_digits digits⟩
      | cons next others =>
          have groupDigits : ∀ character ∈ text.take first, isHexDigit character = true :=
            fun character member => digits character (List.mem_of_mem_take member)
          have restLength : (text.drop first).length = (next :: others).sum := by
            rw [List.length_drop, length, Nat.add_sub_cancel_left]
          have groupLength : (text.take first).length = first := by
            rw [List.length_take, length, Nat.min_eq_left (Nat.le_add_right _ _)]
          rcases induction (fun character member => digits character (List.mem_of_mem_drop member))
            restLength with ⟨restGrouped, restDigits⟩
          rw [hyphenate_cons_cons, isGrouped_cons_cons_iff, filter_hyphen_append groupDigits,
            restDigits, List.take_append_drop]
          exact ⟨⟨_, _, rfl, groupLength, groupDigits, restGrouped⟩, rfl⟩

/-- Groups are put back where they were. -/
theorem hyphenate_of_isGrouped {lengths : List ℕ} (grouped : isGrouped lengths text = true) :
    hyphenate lengths (text.filter (· ≠ '-')) = text := by
  induction lengths generalizing text with
  | nil =>
      rw [isGrouped, List.isEmpty_iff] at grouped
      rw [grouped]
      rfl
  | cons length lengths induction =>
      cases lengths with
      | nil =>
          rcases isGrouped_singleton_iff.mp grouped with ⟨rfl, digits⟩
          rw [filter_hyphen_of_digits digits, hyphenate, List.take_length]
      | cons next others =>
          rcases isGrouped_cons_cons_iff.mp grouped with
            ⟨group, rest, rfl, rfl, digits, restGrouped⟩
          rw [filter_hyphen_append digits, hyphenate_cons_cons, List.take_left, List.drop_left,
            induction restGrouped]

/-! ## Canonical texts -/

theorem toLower_eq_ofList (text : String) :
    text.toLower = String.ofList (text.toList.map Char.toLower) := by
  have mapped : text.toLower = text.map Char.toLower := rfl
  rw [mapped, ← String.toList_map, String.ofList_toList]

variable (uuid : Uuid)

/-- The canonical text of an identifier has the strict form. -/
theorem isUuid_text : isUuid (String.ofList uuid.text) = true := by
  rw [isUuid, String.toList_ofList, text]
  exact (isGrouped_hyphenate (fun _ => isHexDigit_of_mem_hexText) (length_hexText 32 _)).1

/-- An identifier is read from its canonical text. -/
theorem read?_text : read? (String.ofList uuid.text) = some uuid := by
  rcases read?_of_isUuid uuid.isUuid_text with ⟨found, read, value⟩
  have digits : uuid.text.filter (· ≠ '-') = hexText 32 uuid.value :=
    (isGrouped_hyphenate (fun _ => isHexDigit_of_mem_hexText) (length_hexText 32 _)).2
  have bound : uuid.value < 16 ^ 32 := Nat.lt_of_lt_of_eq uuid.value_lt (by decide)
  rw [String.toList_ofList, digits, hexNumber_hexText, Nat.mod_eq_of_lt bound] at value
  rcases uuid with ⟨number, number_lt⟩
  rcases found with ⟨other, other_lt⟩
  cases value
  exact read

/-- What is written as an identifier is the canonical text of what is read, but for letter case. -/
theorem exists_text_of_isUuid {text : String} (written : isUuid text = true) :
    ∃ uuid, read? text = some uuid ∧ String.ofList uuid.text = text.toLower := by
  rcases read?_of_isUuid written with ⟨uuid, read, value⟩
  rcases digits_of_isGrouped written with ⟨parts, length⟩
  refine ⟨uuid, read, ?_⟩
  have digits :
      ∀ character ∈ text.toList.filter (· ≠ '-'), isHexDigit character = true := by
    intro character member
    rw [List.mem_filter, decide_eq_true_eq] at member
    exact (parts character member.1).resolve_right member.2
  have lowered : hexText 32 uuid.value = (text.toList.filter (· ≠ '-')).map Char.toLower := by
    rw [value, ← hexText_hexNumber digits, length]
    rfl
  rw [Uuid.text, lowered, hyphenate_map rfl, hyphenate_of_isGrouped written, toLower_eq_ofList]

end Uuid

end Criteria
