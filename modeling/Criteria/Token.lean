import Criteria.Text.CaseFolding

/-!
# Boolean tokens

The words by which a client writes a truth value, without regard to case.
-/

namespace Criteria

open Criteria.Text

/-- The words for true, with their case folded. -/
def trueTokens : List String :=
  ["t", "true"]

/-- The words for a truth value, with their case folded. -/
def booleanTokens : List String :=
  ["t", "f", "true", "false"]

/-- Whether a text is one of the given words without regard to case. -/
def foldsInto (words : List String) (text : String) : Bool :=
  words.any fun word => foldText text.toList == word.toList

/-- Whether a text is a word for a truth value, whatever its case. -/
def isBooleanToken (text : String) : Bool :=
  foldsInto booleanTokens text

/-- Whether a text is a word for true, whatever its case. -/
def isTrueToken (text : String) : Bool :=
  foldsInto trueTokens text

end Criteria
