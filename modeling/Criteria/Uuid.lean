import Criteria.Number.Power
import Criteria.Text.Blank
import Criteria.Text.Digit

/-!
# Universally unique identifiers

An identifier is a number of 128 bits.  It has one canonical text, and is read from many: the reader
passes over the decorations that identifiers come with and takes what is left as a hexadecimal
number of 32 characters.
-/

namespace Criteria

open Criteria.Text

/-- A number of 128 bits. -/
structure Uuid where
  value : Nat
  value_lt : value < powerOfTwo 128
deriving DecidableEq, Repr

namespace Uuid

/-- The value of a hexadecimal digit, ASCII only, in either case. -/
def hexValue? (character : Char) : Option Nat :=
  if '0' ≤ character ∧ character ≤ '9' then some (character.toNat - 48)
  else if 'a' ≤ character ∧ character ≤ 'f' then some (character.toNat - 87)
  else if 'A' ≤ character ∧ character ≤ 'F' then some (character.toNat - 55)
  else none

/-- The hexadecimal digit of a value, in lower case. -/
def hexCharacter (value : Nat) : Char :=
  if value < 10 then Char.ofNat (48 + value) else Char.ofNat (87 + value)

/-- The last hexadecimal digits of a number, so many of them. -/
def hexText : Nat → Nat → List Char
  | 0, _ => []
  | count + 1, value => hexText count (value / 16) ++ [hexCharacter (value % 16)]

/-- The lengths of the groups of a canonical text. -/
def groupLengths : List Nat :=
  [8, 4, 4, 4, 12]

/-- Cuts a text into groups with hyphens between them. -/
def hyphenate : List Nat → List Char → List Char
  | [], _ => []
  | [length], text => text.take length
  | length :: lengths, text => text.take length ++ '-' :: hyphenate lengths (text.drop length)

/-- The canonical text: 32 lower-case digits in five groups. -/
def text (uuid : Uuid) : List Char :=
  hyphenate groupLengths (hexText 32 uuid.value)

/-- Reads groups of hexadecimal digits, with hyphens between them, up to the end of the text. -/
def isGrouped : List Nat → List Char → Bool
  | [], text => text.isEmpty
  | [length], text =>
      text.length == length && text.all fun character => (hexValue? character).isSome
  | length :: lengths, text =>
      (text.take length).length == length &&
        ((text.take length).all fun character => (hexValue? character).isSome) &&
        match text.drop length with
        | '-' :: rest => isGrouped lengths rest
        | _ => false

/-- A text without the occurrences of a word, found from left to right. -/
def removeWord (word : List Char) (text : List Char) : List Char :=
  go text.length text
where
  go : Nat → List Char → List Char
    | 0, text => text
    | _ + 1, [] => []
    | fuel + 1, character :: rest =>
        if word.isPrefixOf (character :: rest) then go fuel ((character :: rest).drop word.length)
        else character :: go fuel rest

def isBrace (character : Char) : Bool :=
  character == '{' || character == '}'

/-- The text without the namespace words, without the braces around it and without hyphens. -/
def undecorated (text : List Char) : List Char :=
  let plain := removeWord ['u', 'u', 'i', 'd', ':'] (removeWord ['u', 'r', 'n', ':'] text)
  let unbraced := ((plain.dropWhile isBrace).reverse.dropWhile isBrace).reverse
  unbraced.filter (· ≠ '-')

/--
The character in ASCII.  If the whole text is ASCII, it stays.  Otherwise a blank outside ASCII
becomes a space, a digit of another script the digit of its value, and everything else that is not
below the delete character is refused.
-/
def asciiForm? (character : Char) : Option Char :=
  if character.toNat < 127 then some character
  else if isBlank character then some ' '
  else (digitValue? character).map fun digit => Char.ofNat (48 + digit)

/-- The whole text in ASCII. -/
def asciiText? (text : List Char) : Option (List Char) :=
  if text.all (·.toNat < 128) then some text else text.mapM asciiForm?

/-- The blanks that may stand around a hexadecimal number. -/
def isNumberBlank (character : Char) : Bool :=
  character == ' ' || (9 ≤ character.toNat && character.toNat ≤ 13)

/-- Digits after the first, onto the value so far: single underscores may stand between them. -/
def readMoreDigits? (value : Nat) : List Char → Option Nat
  | [] => some value
  | '_' :: character :: rest =>
      match hexValue? character with
      | some digit => readMoreDigits? (16 * value + digit) rest
      | none => none
  | character :: rest =>
      match hexValue? character with
      | some digit => readMoreDigits? (16 * value + digit) rest
      | none => if (character :: rest).all isNumberBlank then some value else none

/-- A hexadecimal number that starts with a digit. -/
def readDigits? : List Char → Option Nat
  | [] => none
  | character :: rest =>
      match hexValue? character with
      | some digit => readMoreDigits? digit rest
      | none => none

/-- Passes over the mark of a hexadecimal number and one underscore after it. -/
def skipMark : List Char → List Char
  | '0' :: mark :: '_' :: rest =>
      if mark = 'x' ∨ mark = 'X' then rest else '0' :: mark :: '_' :: rest
  | '0' :: mark :: rest =>
      if mark = 'x' ∨ mark = 'X' then rest else '0' :: mark :: rest
  | text => text

/-- Passes over a plus sign. -/
def skipPlus : List Char → List Char
  | '+' :: rest => rest
  | text => text

/-- Reads a hexadecimal number with blanks around it, a plus sign and a mark. -/
def readHex? (text : List Char) : Option Nat :=
  readDigits? (skipMark (skipPlus (text.dropWhile isNumberBlank)))

/-- Reads an identifier from what is left of a text without its decorations. -/
def read? (text : String) : Option Uuid :=
  let plain := undecorated text.toList
  if plain.length = 32 then
    ((asciiText? plain).bind readHex?).bind fun value =>
      if within : value < powerOfTwo 128 then some ⟨value, within⟩ else none
  else none

end Uuid

/-- Whether a text is written as the canonical texts are, in either case. -/
def isUuid (text : String) : Bool :=
  Uuid.isGrouped Uuid.groupLengths text.toList

end Criteria
