import Criteria.Json.Basic
import Criteria.Text.Blank

/-!
# Files of assignments

A file gives values to names, one assignment a line: `NAME=value`, perhaps after the word `export`.
A name and a value may be quoted, and a quoted value may go over several lines.  A comment goes from
a number sign to the end of its line.  A line that cannot be read is passed over.

In a value, `${NAME}` stands for the value of another name, and `${NAME:-other}` for that value or,
if the name has none, for the other text.
-/

namespace Criteria

open Criteria.Text

/-- A name, and its value unless it stands alone. -/
structure Assignment where
  name : String
  value? : Option String
deriving DecidableEq, Repr

namespace Assignment

/-! ## Lines -/

/-- A text whose lines all end with the same break. -/
def unifyBreaks : List Char → List Char
  | '\r' :: '\n' :: rest => '\n' :: unifyBreaks rest
  | '\r' :: rest => '\n' :: unifyBreaks rest
  | character :: rest => character :: unifyBreaks rest
  | [] => []

/-- Whether a character is blank without ending the line. -/
def isInlineBlank (character : Char) : Bool :=
  isBlank character && character != '\n'

/-- The text after the blanks that it begins with, on the same line. -/
def skipBlanks (text : List Char) : List Char :=
  text.dropWhile isInlineBlank

/-- The text from the next line on. -/
def skipLine (text : List Char) : List Char :=
  (text.dropWhile (· ≠ '\n')).drop 1

/-- The end of a line, with a comment before it: what follows, if there is nothing else. -/
def readEnd? (text : List Char) : Option (List Char) :=
  match skipBlanks text with
  | '#' :: rest => some (skipLine rest)
  | '\n' :: rest => some rest
  | [] => some []
  | _ => none

/-! ## Names -/

/-- What follows the word for an exported name, if blanks follow it. -/
def skipExport (text : List Char) : List Char :=
  let word := "export".toList
  let rest := text.drop word.length
  if word.isPrefixOf text && rest.head?.any isInlineBlank then skipBlanks rest else text

/-- Whether a character can stand in a name without quotes. -/
def isNameCharacter (character : Char) : Bool :=
  !isBlank character && character != '=' && character != '#'

/-- Reads a name, quoted or not; it has at least one character. -/
def readName? (text : List Char) : Option (List Char × List Char) :=
  let (name, rest) :=
    match text with
    | '\'' :: quoted => (quoted.takeWhile (· ≠ '\''), quoted.dropWhile (· ≠ '\''))
    | _ => (text.takeWhile isNameCharacter, text.dropWhile isNameCharacter)
  match text, name, rest with
  | _, [], _ => none
  | '\'' :: _, _, [] => none
  | '\'' :: _, name, _ :: rest => some (name, rest)
  | _, name, rest => some (name, rest)

/-! ## Values -/

/--
Reads up to the mark that closes a quoted value.  A mark after a backslash does not close it, unless
no other does.
-/
def readQuoted? (mark : Char) : List Char → Option (List Char × List Char)
  | [] => none
  | '\\' :: next :: rest =>
      if next = mark then
        match readQuoted? mark rest with
        | some (inside, after) => some ('\\' :: mark :: inside, after)
        | none => some (['\\'], rest)
      else (readQuoted? mark (next :: rest)).map fun (inside, after) => ('\\' :: inside, after)
  | character :: rest =>
      if character = mark then some ([], rest)
      else (readQuoted? mark rest).map fun (inside, after) => (character :: inside, after)

/-- What may be escaped between single marks. -/
def singleEscapes : List (Char × Char) :=
  [('\\', '\\'), ('\'', '\'')]

/-- What may be escaped between double marks. -/
def doubleEscapes : List (Char × Char) :=
  singleEscapes ++
    [('"', '"'), ('a', '\x07'), ('b', '\x08'), ('f', '\x0c'), ('n', '\n'), ('r', '\r'),
      ('t', '\t'), ('v', '\x0b')]

/-- A text with its escapes replaced by what they stand for; other backslashes stay. -/
def unescape (escapes : List (Char × Char)) : List Char → List Char
  | '\\' :: letter :: rest =>
      match escapes.lookup letter with
      | some character => character :: unescape escapes rest
      | none => '\\' :: unescape escapes (letter :: rest)
  | character :: rest => character :: unescape escapes rest
  | [] => []

/-- The rest of a line up to a comment, which needs a blank before it. -/
def beforeComment : List Char → List Char
  | [] => []
  | character :: rest =>
      if isBlank character && (trimStart rest).head? == some '#' then []
      else character :: beforeComment rest

/-- Reads the value after an equals sign and blanks. -/
def readValue? (text : List Char) : Option (List Char × List Char) :=
  match text with
  | '\'' :: quoted =>
      (readQuoted? '\'' quoted).map fun (inside, rest) => (unescape singleEscapes inside, rest)
  | '"' :: quoted =>
      (readQuoted? '"' quoted).map fun (inside, rest) => (unescape doubleEscapes inside, rest)
  | _ => some (trimEnd (beforeComment (text.takeWhile (· ≠ '\n'))), text.dropWhile (· ≠ '\n'))

/-! ## Files -/

/-- Reads the equals sign and the value after a name, if there is an equals sign. -/
def readTail (text : List Char) : Except (List Char) (Option (List Char) × List Char) :=
  match skipBlanks text with
  | '=' :: rest =>
      match readValue? (skipBlanks rest) with
      | some (value, rest) => .ok (some value, rest)
      | none => .error (skipBlanks rest)
  | rest => .ok (none, rest)

/--
Reads the assignment that a text begins with, if there is one on its first line that is not blank,
and gives what follows.  On failure that is what follows the line on which reading stopped.
-/
def readFirst (text : List Char) : Option Assignment × List Char :=
  let start := skipExport (trimStart text)
  if start.head? = some '#' then (none, skipLine start)
  else
    match readName? start with
    | none => (none, skipLine start)
    | some (name, rest) =>
        match readTail rest with
        | .error stopped => (none, skipLine stopped)
        | .ok (value?, rest) =>
            match readEnd? rest with
            | some rest => (some ⟨String.ofList name, value?.map String.ofList⟩, rest)
            | none => (none, skipLine rest)

/-- Reads all assignments of a text; every step takes at least one character. -/
def readAll (text : List Char) : List Assignment :=
  go text.length text
where
  go : Nat → List Char → List Assignment
    | 0, _ => []
    | fuel + 1, text =>
        if text.isEmpty then []
        else
          let (assignment?, rest) := readFirst text
          assignment?.toList ++ go fuel rest

/-! ## Substitution -/

/-- Whether a character belongs to the name in a reference, which a colon or a brace ends. -/
def isReferenceCharacter (character : Char) : Bool :=
  character != '}' && character != ':'

/-- Reads a substitution after its opening brace: its name, its other text, and what follows. -/
def readReference? (text : List Char) : Option (String × String × List Char) :=
  let name := String.ofList (text.takeWhile isReferenceCharacter)
  match text.dropWhile isReferenceCharacter with
  | '}' :: rest => some (name, "", rest)
  | ':' :: '-' :: rest =>
      match rest.dropWhile (· ≠ '}') with
      | _ :: after => some (name, String.ofList (rest.takeWhile (· ≠ '}')), after)
      | [] => none
  | _ => none

/-- A value with its substitutions made: by the value of a name or, without one, its other text. -/
def substitute (valueOf : String → Option String) (text : List Char) : List Char :=
  go text.length text
where
  go : Nat → List Char → List Char
    | 0, text => text
    | fuel + 1, '$' :: '{' :: rest =>
        match readReference? rest with
        | some (name, other, after) => ((valueOf name).getD other).toList ++ go fuel after
        | none => '$' :: go fuel ('{' :: rest)
    | fuel + 1, character :: rest => character :: go fuel rest
    | _ + 1, [] => []

/-- The value of a name, from the assignments before, where a name alone is empty, or outside. -/
def valueOf (before : List (String × Option String)) (outside : List (String × String))
    (name : String) : Option String :=
  match before.lookup name with
  | some value? => some (value?.getD "")
  | none => outside.lookup name

/-- The values of all names, one assignment after another; the last one of a name counts. -/
def resolve (outside : List (String × String)) (assignments : List Assignment) :
    List (String × Option String) :=
  assignments.foldl
    (fun before assignment =>
      let value? := assignment.value?.map fun value =>
        String.ofList (substitute (valueOf before outside) value.toList)
      Json.setEntry assignment.name value? before)
    []

/-- The values that a file gives, the names outside it being known. -/
def readFile (outside : List (String × String)) (text : String) : List (String × String) :=
  (resolve outside (readAll (unifyBreaks text.toList))).filterMap fun (name, value?) =>
    value?.map fun value => (name, value)

end Assignment

end Criteria
