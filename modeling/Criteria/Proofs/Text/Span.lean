import Mathlib.Data.List.TakeWhile

/-!
# Where a run ends

A run of characters of some kind goes on as long as it can.  It is split off a text as it stands if
the text does not go on with another character of that kind.
-/

namespace Criteria

/-- Whether a text does not go on with a character of some kind. -/
def NoHead (kind : Char → Bool) (text : List Char) : Prop :=
  ∀ first ∈ text.head?, kind first = false

theorem noHead_nil (kind : Char → Bool) : NoHead kind [] := by
  simp [NoHead]

theorem noHead_cons {kind : Char → Bool} {first : Char} {rest : List Char} :
    NoHead kind (first :: rest) ↔ kind first = false := by
  simp [NoHead]

section Run

variable {kind : Char → Bool} {run rest : List Char}
  (inside : ∀ character ∈ run, kind character = true) (ended : NoHead kind rest)

include inside ended

theorem takeWhile_append_of_noHead : (run ++ rest).takeWhile kind = run := by
  have nothing : rest.takeWhile kind = [] := by
    cases rest with
    | nil => rfl
    | cons first rest => exact List.takeWhile_cons_of_neg (by simp [noHead_cons.mp ended])
  rw [List.takeWhile_append_of_pos inside, nothing, List.append_nil]

theorem dropWhile_append_of_noHead : (run ++ rest).dropWhile kind = rest := by
  rw [List.dropWhile_append_of_pos inside]
  cases rest with
  | nil => rfl
  | cons first rest => exact List.dropWhile_cons_of_neg (by simp [noHead_cons.mp ended])

end Run

end Criteria
