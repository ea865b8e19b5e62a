/-!
# Decimal digits

The decimal digits of every script.  Each script has its ten digits side by side, so a table of the
zeros is enough.
-/

namespace Criteria.Text

/-- The code points of the digit zero, script by script. -/
def digitZeros : List Nat := [
    0x0030, 0x0660, 0x06F0, 0x07C0, 0x0966, 0x09E6, 0x0A66, 0x0AE6, 0x0B66, 0x0BE6, 0x0C66,
    0x0CE6, 0x0D66, 0x0DE6, 0x0E50, 0x0ED0, 0x0F20, 0x1040, 0x1090, 0x17E0, 0x1810, 0x1946,
    0x19D0, 0x1A80, 0x1A90, 0x1B50, 0x1BB0, 0x1C40, 0x1C50, 0xA620, 0xA8D0, 0xA900, 0xA9D0,
    0xA9F0, 0xAA50, 0xABF0, 0xFF10, 0x104A0, 0x10D30, 0x11066, 0x110F0, 0x11136, 0x111D0,
    0x112F0, 0x11450, 0x114D0, 0x11650, 0x116C0, 0x11730, 0x118E0, 0x11950, 0x11C50, 0x11D50,
    0x11DA0, 0x16A60, 0x16AC0, 0x16B50, 0x1D7CE, 0x1D7D8, 0x1D7E2, 0x1D7EC, 0x1D7F6, 0x1E140,
    0x1E2F0, 0x1E950, 0x1FBF0]

/-- The value of a decimal digit of any script. -/
def digitValue? (character : Char) : Option Nat :=
  (digitZeros.find? fun first =>
      first ≤ character.toNat && character.toNat < first + 10).map
    (character.toNat - ·)

/-- Whether a character is a decimal digit, of any script. -/
def isDigit (character : Char) : Bool :=
  (digitValue? character).isSome

/-- The longest run of digits at the head of a text, by value, and what follows it. -/
def spanDigits (text : List Char) : List Nat × List Char :=
  ((text.takeWhile isDigit).filterMap digitValue?, text.dropWhile isDigit)

/-- The value of one of the ten ASCII digits. -/
def asciiDigit? (character : Char) : Option Nat :=
  if '0' ≤ character ∧ character ≤ '9' then some (character.toNat - 48) else none

def isAsciiDigit (character : Char) : Bool :=
  (asciiDigit? character).isSome

/-- A digit has one of the ten values. -/
theorem digitValue?_lt_ten
    {character : Char} {digit : Nat} (found : digitValue? character = some digit) :
    digit < 10 := by
  simp only [digitValue?, Option.map_eq_some_iff] at found
  obtain ⟨first, inTable, rfl⟩ := found
  have bounds := List.find?_some inTable
  simp only [Bool.and_eq_true, decide_eq_true_eq] at bounds
  omega

end Criteria.Text
