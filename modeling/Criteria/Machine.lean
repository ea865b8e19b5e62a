/-!
# Machines

What the program meets that differs from one machine to another, and from one run to the next: for
how long an integer there is room, and how things are shown that have no text of their own.  All
definitions and results are for every machine.
-/

namespace Criteria

/--
The greatest number of digits that an integer can have when it is written out from a decimal number.
Beyond it the size of the integer is not even computed.
-/
def greatestDigits : Nat :=
  2711437152599294

/-- The machine that the program runs on. -/
class Machine where
  /-- How many digits an integer can have that there is room for. -/
  digits : Nat
  digits_le : digits ≤ greatestDigits
  /-- How the thing of a name is shown, or which text it is, where that depends on the machine. -/
  shown : String → String
  /-- Whether a part of a library is loaded, though nothing here asks for it. -/
  isLoaded : String → Bool

/--
A machine with room for some hundred megabytes, on which things are shown by their names, and
nothing is loaded that is not asked for.
-/
instance ordinaryMachine : Machine where
  digits := 1000000000
  digits_le := by decide
  shown name := "<" ++ name ++ ">"
  isLoaded _ := false

end Criteria
