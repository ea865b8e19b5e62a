import Criteria.Json.Basic

/-!
# Writing JSON

The text of a JSON value on one line, with a space after every comma and colon.  Inside strings only
the printable characters of ASCII are written as they are, and any other character by its UTF-16
units, so that the whole text is printable ASCII.
-/

namespace Criteria

namespace Json

/-- A backslash, the letter u, and the four hexadecimal digits of a 16-bit unit. -/
def unitEscape (unit : Nat) : List Char :=
  ['\\', 'u', digit (unit / 4096), digit (unit / 256), digit (unit / 16), digit unit]
where
  digit (value : Nat) : Char :=
    if value % 16 < 10 then Char.ofNat (48 + value % 16) else Char.ofNat (87 + value % 16)

/-- How a character is written inside a string. -/
def escape (character : Char) : List Char :=
  if character = '"' then ['\\', '"']
  else if character = '\\' then ['\\', '\\']
  else if character = '\n' then ['\\', 'n']
  else if character = '\r' then ['\\', 'r']
  else if character = '\t' then ['\\', 't']
  else if character = '\x08' then ['\\', 'b']
  else if character = '\x0c' then ['\\', 'f']
  else if 32 ≤ character.toNat ∧ character.toNat < 127 then [character]
  else if character.toNat < 0x10000 then unitEscape character.toNat
  else
    unitEscape (0xD800 + (character.toNat - 0x10000) / 1024) ++
      unitEscape (0xDC00 + (character.toNat - 0x10000) % 1024)

/-- A string in quotes, with all characters escaped that are not visible ASCII. -/
def stringText (text : String) : List Char :=
  '"' :: (text.toList.flatMap escape ++ ['"'])

/-- A double; the infinities are spelled out. -/
def realText (number : Double) : List Char :=
  if number.isInfinite then
    (if number.negative then ['-'] else []) ++ "Infinity".toList
  else number.text

mutual

/-- The canonical text of a value. -/
def text : Json → List Char
  | .null => "null".toList
  | .bool true => "true".toList
  | .bool false => "false".toList
  | .integer value => integerText value
  | .real value => realText value
  | .string value => stringText value
  | .array items => '[' :: (itemsText items ++ [']'])
  | .object entries => '{' :: (entriesText entries ++ ['}'])

/-- The texts of the items of an array, with commas between them. -/
def itemsText : List Json → List Char
  | [] => []
  | [item] => text item
  | item :: next :: rest => text item ++ ',' :: ' ' :: itemsText (next :: rest)

/-- The texts of the entries of an object, with commas between them. -/
def entriesText : List (String × Json) → List Char
  | [] => []
  | [(name, value)] => stringText name ++ ':' :: ' ' :: text value
  | (name, value) :: next :: rest =>
      stringText name ++ ':' :: ' ' :: (text value ++ ',' :: ' ' :: entriesText (next :: rest))

end

/-- The canonical text of a value, as a string. -/
def render (value : Json) : String :=
  String.ofList value.text

end Json

end Criteria
