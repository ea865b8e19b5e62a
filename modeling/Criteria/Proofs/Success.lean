import Mathlib.Data.List.Forall2

/-!
# Success of computations

A computation made of several ones succeeds exactly if its parts do, each on what the parts before
it gave.  These statements take such a computation apart, and put it together again.
-/

namespace Criteria

variable {ε α β : Type}

theorem bind_eq_ok_iff
    {first : Except ε α} {next : α → Except ε β} {result : β} :
    first >>= next = .ok result ↔
      ∃ value, first = .ok value ∧ next value = .ok result := by
  cases first with
  | error failure => simp [bind, Except.bind]
  | ok value => simp [bind, Except.bind]

theorem map_eq_ok_iff {change : α → β} {first : Except ε α} {result : β} :
    first.map change = .ok result ↔ ∃ value, first = .ok value ∧ change value = result := by
  cases first with
  | error failure => simp [Except.map]
  | ok value => simp [Except.map]

theorem bind_eq_error_iff
    {first : Except ε α} {next : α → Except ε β} {failure : ε} :
    first >>= next = .error failure ↔
      first = .error failure ∨ ∃ value, first = .ok value ∧ next value = .error failure := by
  cases first with
  | error other => simp [bind, Except.bind]
  | ok value => simp [bind, Except.bind]

theorem exists_eq_error_iff {computed : Except ε α} :
    (∃ failure, computed = .error failure) ↔ ¬ ∃ result, computed = .ok result := by
  cases computed <;> simp

theorem mapError_eq_ok_iff
    {failure : Type} {change : ε → failure} {first : Except ε α} {result : α} :
    first.mapError change = .ok result ↔ first = .ok result := by
  cases first with
  | error failure => simp [Except.mapError]
  | ok value => simp [Except.mapError]

/-- Computing on all items of a list succeeds exactly if it does on each of them. -/
theorem mapM_eq_ok_iff
    {compute : α → Except ε β} {items : List α} {results : List β} :
    items.mapM compute = .ok results ↔
      List.Forall₂ (fun item result => compute item = .ok result) items results := by
  induction items generalizing results with
  | nil =>
      rw [List.mapM_nil, List.forall₂_nil_left_iff]
      constructor
      · intro equal
        cases equal
        rfl
      · rintro rfl
        rfl
  | cons item rest induction =>
      rw [List.mapM_cons, bind_eq_ok_iff, List.forall₂_cons_left_iff]
      constructor
      · rintro ⟨first, firstOk, computed⟩
        rcases bind_eq_ok_iff.mp computed with ⟨others, othersOk, equal⟩
        cases equal
        exact ⟨first, others, firstOk, induction.mp othersOk, rfl⟩
      · rintro ⟨first, others, firstOk, othersOk, rfl⟩
        refine ⟨first, firstOk, bind_eq_ok_iff.mpr ⟨others, ?_, rfl⟩⟩
        exact induction.mpr othersOk

/-- Checking all items of a list succeeds exactly if checking each of them does. -/
theorem forM_eq_ok_iff {check : α → Except ε Unit} {items : List α} :
    items.forM check = .ok () ↔ ∀ item ∈ items, check item = .ok () := by
  induction items with
  | nil => simp [pure, Except.pure]
  | cons item rest induction =>
      rw [List.forall_mem_cons, ← induction]
      change check item >>= (fun _ => rest.forM check) = .ok () ↔ _
      rw [bind_eq_ok_iff]
      exact ⟨fun ⟨_, first, others⟩ => ⟨first, others⟩, fun ⟨first, others⟩ => ⟨(), first, others⟩⟩

/-- Whatever computing on all items of a list gives was computed on one of them. -/
theorem exists_of_mapM_eq_ok
    {compute : α → Except ε β} {items : List α} {results : List β}
    (computed : items.mapM compute = .ok results) {result : β} (member : result ∈ results) :
    ∃ item ∈ items, compute item = .ok result := by
  rw [mapM_eq_ok_iff] at computed
  induction computed with
  | nil => cases member
  | cons first _ induction =>
      rcases List.mem_cons.mp member with rfl | later
      · exact ⟨_, List.mem_cons_self, first⟩
      · rcases induction later with ⟨item, present, itemOk⟩
        exact ⟨item, List.mem_cons_of_mem _ present, itemOk⟩

/-- Whether computing on all items of a list succeeds is a matter of the items that occur. -/
theorem exists_mapM_eq_ok_iff {compute : α → Except ε β} {items : List α} :
    (∃ results, items.mapM compute = .ok results) ↔
      ∀ item ∈ items, ∃ result, compute item = .ok result := by
  simp only [mapM_eq_ok_iff]
  induction items with
  | nil => simp
  | cons item rest induction =>
      simp only [List.forall₂_cons_left_iff, List.forall_mem_cons, ← induction]
      constructor
      · rintro ⟨_, result, others, made, othersMade, rfl⟩
        exact ⟨⟨result, made⟩, others, othersMade⟩
      · rintro ⟨⟨result, made⟩, others, othersMade⟩
        exact ⟨_, result, others, made, othersMade, rfl⟩

/-- Computing on all items of a list fails exactly as it does on the first of them that fails. -/
theorem mapM_eq_error_iff
    {compute : α → Except ε β} {items : List α} {failure : ε} :
    items.mapM compute = .error failure ↔
      ∃ before item after, items = before ++ item :: after ∧
        (∃ results, before.mapM compute = .ok results) ∧ compute item = .error failure := by
  induction items with
  | nil =>
      constructor
      · intro failed
        cases failed
      · rintro ⟨before, item, after, split, _⟩
        simp at split
  | cons head rest induction =>
      rw [List.mapM_cons, bind_eq_error_iff]
      constructor
      · rintro (failed | ⟨first, firstOk, failed⟩)
        · exact ⟨[], head, rest, rfl, ⟨[], rfl⟩, failed⟩
        · rcases bind_eq_error_iff.mp failed with restFailed | ⟨others, _, impossible⟩
          · rcases induction.mp restFailed with
              ⟨before, item, after, rfl, ⟨results, computed⟩, itemFailed⟩
            refine ⟨head :: before, item, after, rfl, ⟨first :: results, ?_⟩, itemFailed⟩
            exact mapM_eq_ok_iff.mpr (.cons firstOk (mapM_eq_ok_iff.mp computed))
          · cases impossible
      · rintro ⟨before, item, after, split, ⟨results, computed⟩, failed⟩
        cases before with
        | nil =>
            cases split
            exact Or.inl failed
        | cons first others =>
            cases split
            rw [mapM_eq_ok_iff, List.forall₂_cons_left_iff] at computed
            rcases computed with ⟨value, values, firstOk, othersOk, rfl⟩
            refine Or.inr ⟨value, firstOk, bind_eq_error_iff.mpr (Or.inl ?_)⟩
            exact induction.mpr
              ⟨others, item, after, rfl, ⟨values, mapM_eq_ok_iff.mpr othersOk⟩, failed⟩

end Criteria
