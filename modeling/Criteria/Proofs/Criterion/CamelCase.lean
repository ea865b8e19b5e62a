import Criteria.Column
import Criteria.Proofs.Text.Uppercasing

/-!
# Camel case

The field name of a column is its name cut at the underscores, with the parts put together again and
all but the first capitalised, each by itself (`camelCase_of_splitOn`).  Upper-casing yields no
underscore, so none is left, and a name without underscores is its own field name: field names are
normal forms (`Column.fieldName_normal`).
-/

namespace Criteria

open Criteria.Text

/-- A part with its first character in upper case, which may be several characters. -/
def capitalize : List Char → List Char
  | [] => []
  | first :: rest => uppercase first ++ rest

variable {name : List Char} {afterUnderscore : Bool}

/-! ## Names as texts -/

/-- Of the parts of a name the first follows what is before it, and the others are capitalised. -/
theorem camelCase_of_splitOn {first : List Char} {later : List (List Char)}
    (split : name.splitOn '_' = first :: later) :
    camelCase afterUnderscore name =
      (if afterUnderscore then capitalize first else first) ++ later.flatMap capitalize := by
  -- An underscore begins a new part; any other character goes to the front of the first part.
  induction name generalizing afterUnderscore first later with
  | nil =>
      cases split
      cases afterUnderscore <;> rfl
  | cons character rest hypothesis =>
      rcases List.exists_cons_of_ne_nil (List.splitOn_ne_nil '_' rest) with
        ⟨head, tail, restSplit⟩
      have cut : (character :: rest).splitOn '_' =
          if character = '_' then [] :: head :: tail else (character :: head) :: tail := by
        rw [List.splitOn_eq_splitOnP] at restSplit ⊢
        rw [List.splitOnP_cons_eq_if_modifyHead, restSplit]
        simp only [beq_iff_eq, List.modifyHead_cons]
      rw [cut] at split
      rw [camelCase]
      by_cases underscore : character = '_'
      · rw [if_pos underscore] at split ⊢
        cases split
        rw [hypothesis restSplit]
        cases afterUnderscore with
        | false | true => rfl
      · rw [if_neg underscore] at split ⊢
        cases split
        rw [hypothesis restSplit]
        cases afterUnderscore with
        | false => rfl
        | true => exact (List.append_assoc _ _ _).symm

/-- A part of a name, which has no underscore, is left as it is or capitalised. -/
theorem camelCase_of_notMem (plain : '_' ∉ name) :
    camelCase afterUnderscore name = if afterUnderscore then capitalize name else name := by
  have single : name.splitOn '_' = [name] := by
    rw [List.splitOn_eq_splitOnP]
    apply List.splitOnP_eq_singleton
    intro character member
    exact beq_false_of_ne (ne_of_mem_of_not_mem member plain)
  rw [camelCase_of_splitOn single, List.flatMap_nil, List.append_nil]

/-- What stands after an underscore does not depend on what stands before it. -/
theorem camelCase_append (first second : List Char) :
    camelCase afterUnderscore (first ++ '_' :: second) =
      camelCase afterUnderscore first ++ camelCase true second := by
  rcases List.exists_cons_of_ne_nil (List.splitOn_ne_nil '_' first) with
    ⟨head, tail, firstSplit⟩
  rcases List.exists_cons_of_ne_nil (List.splitOn_ne_nil '_' second) with
    ⟨next, later, secondSplit⟩
  have split : (first ++ '_' :: second).splitOn '_' = head :: (tail ++ next :: later) := by
    rw [List.splitOn_append_cons_self, firstSplit, secondSplit, List.cons_append]
  rw [camelCase_of_splitOn split, camelCase_of_splitOn firstSplit,
    camelCase_of_splitOn secondSplit, List.flatMap_append, List.flatMap_cons, List.append_assoc,
    if_pos rfl]

theorem underscore_notMem_camelCase : '_' ∉ camelCase afterUnderscore name := by
  induction name generalizing afterUnderscore with
  | nil => exact List.not_mem_nil
  | cons character rest hypothesis =>
      rw [camelCase]
      split_ifs with underscore
      · exact hypothesis
      · rw [List.mem_append, not_or]
        exact ⟨underscore_notMem_uppercase underscore, hypothesis⟩
      · rw [List.mem_cons, not_or]
        exact ⟨Ne.symm underscore, hypothesis⟩

/-- Only a name with underscores is changed. -/
theorem camelCase_eq_self_iff : camelCase false name = name ↔ '_' ∉ name := by
  constructor
  · intro same
    rw [← same]
    exact underscore_notMem_camelCase
  · exact camelCase_of_notMem

/-! ## Field names -/

namespace Column

theorem toList_fieldName (column : Column) :
    column.fieldName.toList = camelCase false column.name.toList :=
  String.toList_ofList

theorem fieldName_eq_name_iff {column : Column} :
    column.fieldName = column.name ↔ '_' ∉ column.name.toList := by
  rw [← String.toList_inj, toList_fieldName, camelCase_eq_self_iff]

theorem underscore_notMem_fieldName (column : Column) : '_' ∉ column.fieldName.toList := by
  rw [toList_fieldName]
  exact underscore_notMem_camelCase

/--
A field name has no underscore.  It is the name itself exactly if that has none; so a column that is
named by a field name has it for its own.  It is made of the parts between the underscores, of which
all but the first are capitalised, and what follows an underscore is the same after any beginning.
-/
theorem fieldName_normal (column : Column) :
    '_' ∉ column.fieldName.toList ∧
      (column.fieldName = column.name ↔ '_' ∉ column.name.toList) ∧
      (Column.mk column.fieldName column.type).fieldName = column.fieldName ∧
      (∃ first later, column.name.toList.splitOn '_' = first :: later ∧
        column.fieldName.toList = first ++ later.flatMap capitalize) ∧
      ∀ first second : String,
        (Column.mk (first ++ "_" ++ second) column.type).fieldName =
          (Column.mk first column.type).fieldName ++
            (Column.mk ("_" ++ second) column.type).fieldName := by
  refine ⟨column.underscore_notMem_fieldName, fieldName_eq_name_iff, ?_, ?_, ?_⟩
  · apply fieldName_eq_name_iff.mpr
    exact column.underscore_notMem_fieldName
  · rcases List.exists_cons_of_ne_nil (List.splitOn_ne_nil '_' column.name.toList) with
      ⟨first, later, split⟩
    refine ⟨first, later, split, ?_⟩
    rw [toList_fieldName]
    exact camelCase_of_splitOn split
  · intro first second
    rw [← String.toList_inj, String.toList_append]
    simp only [toList_fieldName, String.toList_append]
    rw [List.append_assoc]
    exact camelCase_append first.toList second.toList

/-- Underscores at the ends and side by side, and a letter whose upper case is two letters. -/
example : (Column.mk "_a__ßeta_" .text).fieldName = "ASSeta" := by
  decide

end Column

end Criteria
