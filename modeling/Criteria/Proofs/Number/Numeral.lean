import Criteria.Number.Numeral

/-!
# What a numeral is made of

Numbers are read more leniently than numerals: underscores are skipped first.  A numeral has none.
So the two readings agree on numerals, and a numeral is a number unless its exponent is out of
bounds (`read?_of_written?`).
-/

namespace Criteria

open Criteria.Text

namespace Numeral

/-- Whether a character may stand in a numeral. -/
def isPart (character : Char) : Bool :=
  ['+', '-', '.', 'e', 'E'].contains character || isDigit character

variable {text : List Char}

theorem all_isPart_of_readSign (rest : (readSign text).2.all isPart = true) :
    text.all isPart = true := by
  unfold readSign at rest
  split at rest
  · exact List.all_cons.trans (by rw [rest]; rfl)
  · exact List.all_cons.trans (by rw [rest]; rfl)
  · exact rest

theorem all_isPart_of_spanDigits (rest : (spanDigits text).2.all isPart = true) :
    text.all isPart = true := by
  have digits : (text.takeWhile isDigit).all isPart = true := by
    rw [List.all_eq_true]
    intro character member
    have digit := List.all_eq_true.mp List.all_takeWhile character member
    rw [isPart, digit, Bool.or_true]
  have whole := List.takeWhile_append_dropWhile (p := isDigit) (l := text)
  rw [← whole, List.all_append, digits, Bool.true_and]
  exact rest

theorem all_isPart_of_readFraction (rest : (readFraction text).2.2.all isPart = true) :
    text.all isPart = true := by
  unfold readFraction at rest
  split at rest
  · have digits := all_isPart_of_spanDigits rest
    exact List.all_cons.trans (by rw [digits]; rfl)
  · exact rest

theorem all_isPart_of_readExponent? {exponent : Int} (read : readExponent? text = some exponent) :
    text.all isPart = true := by
  cases text with
  | nil => rfl
  | cons mark rest =>
      simp only [readExponent?] at read
      split at read
      · rename_i isMark
        have digits : (spanDigits (readSign rest).2).2 = [] := by
          split at read
          · cases read
          · rename_i same
            rw [same]
          · cases read
        have others : rest.all isPart = true := by
          apply all_isPart_of_readSign
          apply all_isPart_of_spanDigits
          rw [digits]
          rfl
        rw [List.all_cons, others, Bool.and_true]
        rcases isMark with rfl | rfl <;> rfl
      · cases read

/-- A text that is a numeral from end to end has nothing else in it. -/
theorem all_isPart_of_read? {numeral : Numeral} (read : read? text = some numeral) :
    text.all isPart = true := by
  simp only [read?] at read
  split at read
  · cases read
  · rcases Option.map_eq_some_iff.mp read with ⟨exponent, exponentRead, _⟩
    apply all_isPart_of_readSign
    apply all_isPart_of_spanDigits
    apply all_isPart_of_readFraction
    exact all_isPart_of_readExponent? exponentRead

theorem ne_underscore_of_isPart {character : Char} (isPart : isPart character = true) :
    character ≠ '_' := by
  rintro rfl
  revert isPart
  decide

end Numeral

namespace Decimal

/-- The number that a text writes, outer blanks aside, however large its exponent is. -/
def written? (text : String) : Option Decimal :=
  (Numeral.read? (trim text.toList)).map Numeral.toDecimal

/-- A number that is written out is read, if its exponents are within bounds. -/
theorem read?_of_written?
    {text : String} {number : Decimal} (written : written? text = some number) :
    read? text = if number.isExpressible then some number else none := by
  rcases Option.map_eq_some_iff.mp written with ⟨numeral, read, rfl⟩
  have kept : (trim text.toList).filter (· ≠ '_') = trim text.toList := by
    rw [List.filter_eq_self]
    intro character member
    have isPart := List.all_eq_true.mp (Numeral.all_isPart_of_read? read) character member
    exact decide_eq_true (Numeral.ne_underscore_of_isPart isPart)
  rw [read?, kept, read, Option.map_some, Option.filter_some]

end Decimal

/-- Whatever passes for a numeral writes a number. -/
theorem exists_written?_of_isNumeric {text : String} (numeric : isNumeric text = true) :
    ∃ number, Decimal.written? text = some number := by
  unfold isNumeric at numeric
  cases read : Numeral.read? (trim text.toList) with
  | none => simp [read] at numeric
  | some numeral => exact ⟨numeral.toDecimal, by rw [Decimal.written?, read, Option.map_some]⟩

end Criteria
