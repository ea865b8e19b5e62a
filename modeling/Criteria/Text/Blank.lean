/-!
# Blanks

White space, as the character database has it, together with the four information separators.
-/

namespace Criteria.Text

/-- The intervals of code points that are blank, both ends included. -/
def blankIntervals : List (Nat × Nat) :=
  [(0x09, 0x0D), (0x1C, 0x20), (0x85, 0x85), (0xA0, 0xA0), (0x1680, 0x1680), (0x2000, 0x200A),
    (0x2028, 0x2029), (0x202F, 0x202F), (0x205F, 0x205F), (0x3000, 0x3000)]

/-- Whether a character is blank. -/
def isBlank (character : Char) : Bool :=
  blankIntervals.any fun (first, last) =>
    first ≤ character.toNat && character.toNat ≤ last

/-- The text without its leading blanks. -/
def trimStart (text : List Char) : List Char :=
  text.dropWhile isBlank

/-- The text without its trailing blanks. -/
def trimEnd (text : List Char) : List Char :=
  (text.reverse.dropWhile isBlank).reverse

/-- The text without its outer blanks. -/
def trim (text : List Char) : List Char :=
  trimEnd (trimStart text)

end Criteria.Text
