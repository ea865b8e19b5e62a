import Mathlib.Data.List.TakeWhile
import Criteria.Text.Blank

/-!
# Trimming

What is trimmed off a text is blank, and what is left neither begins nor ends with a blank
(`isTrimmed_trim`).  Blanks that are put around a text go with its own (`trim_surrounded`), so what
has no blanks inside comes back from between any blanks.
-/

namespace Criteria.Text

variable {before core after : List Char}

theorem trimStart_append (blank : ∀ character ∈ before, isBlank character = true) :
    trimStart (before ++ core) = trimStart core :=
  List.dropWhile_append_of_pos blank

theorem trimEnd_append (blank : ∀ character ∈ after, isBlank character = true) :
    trimEnd (core ++ after) = trimEnd core := by
  unfold trimEnd
  rw [List.reverse_append, List.dropWhile_append_of_pos]
  simpa using blank

theorem trimStart_of_forall (solid : ∀ character ∈ core, isBlank character = false) :
    trimStart core = core := by
  cases core with
  | nil => rfl
  | cons first rest =>
      exact List.dropWhile_cons_of_neg (by simp [solid first List.mem_cons_self])

theorem trimEnd_of_forall (solid : ∀ character ∈ core, isBlank character = false) :
    trimEnd core = core := by
  have reversed : trimStart core.reverse = core.reverse :=
    trimStart_of_forall (by simpa using solid)
  rw [trimEnd, ← trimStart, reversed, List.reverse_reverse]

/-- Blanks around a text make no difference to what is left of it. -/
theorem trim_surrounded
    (blankBefore : ∀ character ∈ before, isBlank character = true)
    (blankAfter : ∀ character ∈ after, isBlank character = true) :
    trim (before ++ core ++ after) = trim core := by
  have started : trimStart (core ++ after) =
      if (trimStart core).isEmpty then trimStart after else trimStart core ++ after :=
    List.dropWhile_append
  rw [trim, List.append_assoc, trimStart_append blankBefore, started]
  split
  · rename_i nothing
    have noneAfter : trimStart after = [] := List.dropWhile_eq_nil_iff.mpr blankAfter
    rw [trim, List.isEmpty_iff.mp nothing, noneAfter]
  · exact trimEnd_append blankAfter

/-- A text without blanks comes back from between blanks. -/
theorem trim_between
    (blankBefore : ∀ character ∈ before, isBlank character = true)
    (blankAfter : ∀ character ∈ after, isBlank character = true)
    (solid : ∀ character ∈ core, isBlank character = false) :
    trim (before ++ core ++ after) = core := by
  rw [trim_surrounded blankBefore blankAfter, trim, trimStart_of_forall solid,
    trimEnd_of_forall solid]

/-- What trimming leaves of the end is followed by blanks, and does not end with one. -/
theorem exists_trimEnd (text : List Char) :
    ∃ after, text = trimEnd text ++ after ∧ (∀ character ∈ after, isBlank character = true) ∧
      ∀ last ∈ (trimEnd text).getLast?, isBlank last = false := by
  refine ⟨(text.reverse.takeWhile isBlank).reverse, ?_, ?_, ?_⟩
  · rw [trimEnd, ← List.reverse_append, List.takeWhile_append_dropWhile, List.reverse_reverse]
  · intro character member
    exact List.mem_takeWhile_imp (List.mem_reverse.mp member)
  · intro last isLast
    rw [trimEnd, List.getLast?_reverse] at isLast
    have stopped := List.head?_dropWhile_not isBlank text.reverse
    rw [Option.mem_def.mp isLast] at stopped
    exact stopped

/-- A text without its outer blanks. -/
structure IsTrimmed (text core : List Char) : Prop where
  split : ∃ before after, text = before ++ core ++ after ∧
    (∀ character ∈ before, isBlank character = true) ∧
      ∀ character ∈ after, isBlank character = true
  first : ∀ first ∈ core.head?, isBlank first = false
  last : ∀ last ∈ core.getLast?, isBlank last = false

/-- Trimming takes the blanks off both ends. -/
theorem isTrimmed_trim (text : List Char) : IsTrimmed text (trim text) := by
  rcases exists_trimEnd (trimStart text) with ⟨after, ending, blankAfter, last⟩
  rw [← trim] at ending last
  constructor
  case split =>
    refine ⟨text.takeWhile isBlank, after, ?_, ?_, blankAfter⟩
    · rw [List.append_assoc, ← ending]
      exact List.takeWhile_append_dropWhile.symm
    · exact fun character member => List.mem_takeWhile_imp member
  case first =>
    intro first isFirst
    have stopped := List.head?_dropWhile_not isBlank text
    have start : (trimStart text).head? = some first := by
      rw [ending, List.head?_append, Option.mem_def.mp isFirst, Option.some_or]
    rw [← trimStart, start] at stopped
    exact stopped
  case last => exact last

end Criteria.Text
