import Criteria.Json.Basic
import Criteria.Text.Digit

/-!
# Reading JSON

A reader of one JSON value.  Strings are read character by character; two escapes that form a
surrogate pair are one character.  If an object gives a name twice, the last value counts.
-/

namespace Criteria

open Criteria.Text

namespace Json

/-- The blanks between the parts of a text. -/
def isSpace (character : Char) : Bool :=
  character == ' ' || character == '\n' || character == '\r' || character == '\t'

/-- The text after the white space that it begins with. -/
def skipSpace (text : List Char) : List Char :=
  text.dropWhile isSpace

/-- The value of a hexadecimal digit, in upper or lower case. -/
def hexDigit? (character : Char) : Option Nat :=
  if '0' ≤ character ∧ character ≤ '9' then some (character.toNat - 48)
  else if 'a' ≤ character ∧ character ≤ 'f' then some (character.toNat - 87)
  else if 'A' ≤ character ∧ character ≤ 'F' then some (character.toNat - 55)
  else none

/-- The 16-bit unit of four hexadecimal digits. -/
def unit? (first second third fourth : Char) : Option Nat := do
  let first ← hexDigit? first
  let second ← hexDigit? second
  let third ← hexDigit? third
  let fourth ← hexDigit? fourth
  some (((first * 16 + second) * 16 + third) * 16 + fourth)

/-- The character that a backslash and one letter stand for. -/
def shortEscape? : Char → Option Char
  | '"' => some '"'
  | '\\' => some '\\'
  | '/' => some '/'
  | 'b' => some '\x08'
  | 'f' => some '\x0c'
  | 'n' => some '\n'
  | 'r' => some '\r'
  | 't' => some '\t'
  | _ => none

/-- Whether a unit is the first of a pair. -/
def isLeadUnit (unit : Nat) : Bool :=
  0xD800 ≤ unit && unit < 0xDC00

/-- Whether a unit is the second of a pair. -/
def isTrailUnit (unit : Nat) : Bool :=
  0xDC00 ≤ unit && unit < 0xE000

/-- The character of a pair of units. -/
def pairCharacter (lead trail : Nat) : Char :=
  Char.ofNat (0x10000 + (lead - 0xD800) * 1024 + (trail - 0xDC00))

/-- Reads the inside of a string up to its closing quotation mark. -/
def readCharacters? : List Char → Option (List Char × List Char)
  | [] => none
  | '"' :: rest => some ([], rest)
  | '\\' :: 'u' :: a :: b :: c :: d :: '\\' :: 'u' :: e :: f :: g :: h :: rest =>
      match unit? a b c d, unit? e f g h with
      | some lead, some trail =>
          if isLeadUnit lead && isTrailUnit trail then
            (readCharacters? rest).map fun (characters, after) =>
              (pairCharacter lead trail :: characters, after)
          else
            (readCharacters? ('\\' :: 'u' :: e :: f :: g :: h :: rest)).map
              fun (characters, after) => (Char.ofNat lead :: characters, after)
      | _, _ => none
  | '\\' :: 'u' :: a :: b :: c :: d :: rest =>
      match unit? a b c d with
      | some unit =>
          (readCharacters? rest).map fun (characters, after) =>
            (Char.ofNat unit :: characters, after)
      | none => none
  | '\\' :: letter :: rest =>
      match shortEscape? letter with
      | some character =>
          (readCharacters? rest).map fun (characters, after) => (character :: characters, after)
      | none => none
  | character :: rest =>
      if character = '\\' ∨ character.toNat < 32 then none
      else (readCharacters? rest).map fun (characters, after) => (character :: characters, after)

/-- Reads the digits of a number that are ASCII. -/
def spanAsciiDigits (text : List Char) : List Char × List Char :=
  text.span isAsciiDigit

/-- The number that some ASCII digits write. -/
def asciiValue (digits : List Char) : Nat :=
  valueOfDigits (digits.filterMap asciiDigit?)

/-- The fraction of a number: its digits, if there is a point, and what follows. -/
def readFractionPart : List Char → Option (List Char) × List Char
  | '.' :: rest =>
      match spanAsciiDigits rest with
      | ([], _) => (none, '.' :: rest)
      | (digits, after) => (some digits, after)
  | rest => (none, rest)

/-- The exponent of a number, if there is one, and what follows. -/
def readExponentPart : List Char → Option Int × List Char
  | mark :: rest =>
      if mark = 'e' ∨ mark = 'E' then
        let (negative, unsigned) : Bool × List Char :=
          match rest with
          | '+' :: unsigned => (false, unsigned)
          | '-' :: unsigned => (true, unsigned)
          | unsigned => (false, unsigned)
        match spanAsciiDigits unsigned with
        | ([], _) => (none, mark :: rest)
        | (digits, after) =>
            let magnitude : Int := asciiValue digits
            (some (if negative then -magnitude else magnitude), after)
      else (none, mark :: rest)
  | [] => (none, [])

/-- Reads a number without its sign. -/
def readUnsigned? (negative : Bool) (text : List Char) : Option (Json × List Char) :=
  match spanAsciiDigits text with
  | ([], _) => none
  | (whole, rest) =>
      let (fraction, rest) := readFractionPart rest
      let (exponent, rest) := readExponentPart rest
      if fraction.isNone && exponent.isNone then
        let magnitude : Int := asciiValue whole
        some (.integer (if negative then -magnitude else magnitude), rest)
      else
        let places := fraction.getD []
        let number : Decimal :=
          ⟨negative, asciiValue (whole ++ places), exponent.getD 0 - places.length⟩
        some (.real (Double.ofDecimal number), rest)

/-- Reads a fixed word, which stands for the given value. -/
def readWord? (word : List Char) (value : Json) (text : List Char) : Option (Json × List Char) :=
  if word.isPrefixOf text then some (value, text.drop word.length) else none

mutual

/-- Reads a value; the fuel bounds how many values and parts may be entered. -/
def readValue? : Nat → List Char → Option (Json × List Char)
  | 0, _ => none
  | fuel + 1, text =>
      match skipSpace text with
      | '"' :: rest =>
          (readCharacters? rest).map fun (characters, after) =>
            (.string (String.ofList characters), after)
      | '[' :: rest =>
          match skipSpace rest with
          | ']' :: after => some (.array [], after)
          | rest => (readItems? fuel rest).map fun (items, after) => (.array items, after)
      | '{' :: rest =>
          match skipSpace rest with
          | '}' :: after => some (.object [], after)
          | rest =>
              (readEntries? fuel [] rest).map fun (entries, after) => (.object entries, after)
      | 'n' :: rest => readWord? "ull".toList .null rest
      | 't' :: rest => readWord? "rue".toList (.bool true) rest
      | 'f' :: rest => readWord? "alse".toList (.bool false) rest
      | '-' :: rest => readUnsigned? true rest
      | rest => readUnsigned? false rest

/-- Reads the items of an array up to its closing bracket. -/
def readItems? : Nat → List Char → Option (List Json × List Char)
  | 0, _ => none
  | fuel + 1, text =>
      match readValue? fuel text with
      | none => none
      | some (item, rest) =>
          match skipSpace rest with
          | ',' :: rest =>
              (readItems? fuel rest).map fun (items, after) => (item :: items, after)
          | ']' :: after => some ([item], after)
          | _ => none

/-- Reads the entries of an object up to its closing brace, onto the entries before them. -/
def readEntries? :
    Nat → List (String × Json) → List Char → Option (List (String × Json) × List Char)
  | 0, _, _ => none
  | fuel + 1, before, text =>
      match skipSpace text with
      | '"' :: rest =>
          match readCharacters? rest with
          | none => none
          | some (characters, rest) =>
              match skipSpace rest with
              | ':' :: rest =>
                  match readValue? fuel rest with
                  | none => none
                  | some (value, rest) =>
                      let entries := setEntry (String.ofList characters) value before
                      match skipSpace rest with
                      | ',' :: rest => readEntries? fuel entries rest
                      | '}' :: after => some (entries, after)
                      | _ => none
              | _ => none
      | _ => none

end

/-- Reads a whole text as a value; blanks may stand around it. -/
def read? (text : String) : Option Json :=
  match readValue? (text.toList.length + 1) text.toList with
  | some (value, rest) => if (skipSpace rest).isEmpty then some value else none
  | none => none

end Json

end Criteria
