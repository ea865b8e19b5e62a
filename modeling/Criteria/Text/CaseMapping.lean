/-!
# Case mappings

A case mapping sends a character to a text, almost always to a single character.  The regular part
is given by runs: stretches of code points, of every or every other one, that all move by the same
distance.  What moves to several characters is listed apart.
-/

namespace Criteria.Text

/--
A stretch of code points that move together: `first`, `first + step`, … up to `last`, where
`first` goes to `image` and every other one keeps its distance from it.
-/
structure CaseRun where
  first : Nat
  last : Nat
  step : Nat
  image : Nat
deriving DecidableEq, Repr

/-- Whether a run says anything about a code point. -/
def CaseRun.covers (run : CaseRun) (point : Nat) : Bool :=
  run.first ≤ point && point ≤ run.last && (point - run.first) % run.step == 0

/-- Where the run sends a code point that lies on it. -/
def CaseRun.send (run : CaseRun) (point : Nat) : Nat :=
  run.image + (point - run.first)

/-- A mapping of characters: its runs, and the characters that become several. -/
structure CaseMapping where
  runs : List CaseRun
  expansions : List (Nat × List Nat)

/-- The image of a code point; one that the mapping does not mention stays as it is. -/
def CaseMapping.points (mapping : CaseMapping) (point : Nat) : List Nat :=
  match mapping.expansions.lookup point with
  | some images => images
  | none =>
      match mapping.runs.find? (·.covers point) with
      | some run => [run.send point]
      | none => [point]

/-- What a mapping makes of a character. -/
def CaseMapping.image (mapping : CaseMapping) (character : Char) : List Char :=
  (mapping.points character.toNat).map Char.ofNat

end Criteria.Text
