import Criteria.Table

/-!
# Identifiers

Names of tables and columns as they stand in a statement: as they are if they are plain, and
otherwise between double quotes.
-/

namespace Criteria

namespace Sql

/-- The words that are not taken for names unless they stand in quotes. -/
def reservedWords : List String :=
  ["all", "analyse", "analyze", "and", "any", "array", "as", "asc", "asymmetric", "authorization",
    "between", "binary", "both", "case", "cast", "check", "collate", "column", "constraint",
    "create", "cross", "current_date", "current_role", "current_time", "current_timestamp",
    "current_user", "default", "deferrable", "desc", "distinct", "do", "else", "end", "except",
    "false", "for", "foreign", "freeze", "from", "full", "grant", "group", "having", "ilike", "in",
    "initially", "inner", "intersect", "into", "is", "isnull", "join", "leading", "left", "like",
    "limit", "localtime", "localtimestamp", "natural", "new", "not", "notnull", "null", "off",
    "offset", "old", "on", "only", "or", "order", "outer", "overlaps", "placing", "primary",
    "references", "right", "select", "session_user", "set", "similar", "some", "symmetric", "table",
    "then", "to", "trailing", "true", "union", "unique", "user", "using", "verbose", "when",
    "where"]

/--
Whether a character may stand in a plain name.  The dotless i and the long s count as letters, since
their upper case is a letter of ASCII.
-/
def isPlainCharacter (character : Char) : Bool :=
  character.isLower || character.isDigit || ['_', '$', 'ı', 'ſ'].contains character

/-- Whether a character may not start a plain name. -/
def isBadStart (character : Char) : Bool :=
  character.isDigit || character == '$'

/-- A name without the line break that may end it. -/
def withoutFinalBreak (name : List Char) : List Char :=
  if name.getLast? = some '\n' then name.dropLast else name

/--
Whether a name can do without quotes: lower-case letters, digits, underscores and dollar signs, not
starting with a digit or a dollar sign, and not a reserved word.  A line break at the end does not
matter.
-/
def isPlain (name : String) : Bool :=
  let characters := withoutFinalBreak name.toList
  !reservedWords.contains name && !characters.isEmpty && characters.all isPlainCharacter &&
    !characters.head?.any isBadStart

/-- A name in a statement; a double quote inside quotes is written twice. -/
def identifier (name : String) : String :=
  if isPlain name then name
  else
    let doubled := name.toList.flatMap fun character =>
      if character = '"' then ['"', '"'] else [character]
    String.ofList ('"' :: doubled ++ ['"'])

/-- A column as it is written, with its table. -/
def qualified (table column : String) : String :=
  identifier table ++ "." ++ identifier column

end Sql

end Criteria
