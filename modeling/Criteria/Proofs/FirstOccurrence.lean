import Mathlib.Data.List.Nodup

/-!
# First occurrences

A list without its repetitions keeps each item at the place where it first occurs.  The items that
are left are in the order of their first occurrences in the list, and so in the order of the items
of any list that they were picked from (`idxOf_eraseDups_filterMap_lt_iff`).  Removing the
repetitions part by part and then from the whole is removing them from the whole
(`eraseDups_append_eraseDups`). An item whose key does not occur twice is the first with its key
(`find?_key_eq_some`).
-/

namespace Criteria

variable {α β : Type}

section Repetitions

variable [BEq α] [LawfulBEq α]

/-- It does not matter whether repetitions or unfit items go first. -/
theorem eraseDups_filter (fit : α → Bool) (items : List α) :
    (items.filter fit).eraseDups = items.eraseDups.filter fit := by
  -- The head takes its repetitions out of the rest, which is then no tail any more.
  induction length : items.length using Nat.strongRecOn generalizing items with
  | ind count induction =>
      cases items with
      | nil => rfl
      | cons head rest =>
          have shorter : (rest.filter fun item => !item == head).length < count := by
            have filtered := List.length_filter_le (fun item => !item == head) rest
            simp only [List.length_cons] at length
            omega
          have restEq := induction _ shorter (rest.filter fun item => !item == head) rfl
          rw [List.eraseDups_cons, List.filter_cons, List.filter_cons, ← restEq]
          by_cases headFits : fit head = true
          · simp only [headFits, if_true, List.eraseDups_cons, List.filter_filter]
            simp only [Bool.and_comm]
          · simp only [headFits, Bool.false_eq_true, if_false, List.filter_filter]
            congr 1
            apply List.filter_congr
            intro item _
            by_cases same : item = head
            · simp [same, headFits]
            · simp [same]

/-- After its first occurrence an item is left out. -/
theorem eraseDups_cons_eq (head : α) (rest : List α) :
    (head :: rest).eraseDups = head :: rest.eraseDups.filter fun item => !item == head := by
  rw [List.eraseDups_cons, eraseDups_filter]

theorem nodup_eraseDups (items : List α) : items.eraseDups.Nodup := by
  induction items with
  | nil => exact List.nodup_nil
  | cons head rest induction =>
      rw [eraseDups_cons_eq, List.nodup_cons]
      refine ⟨?_, induction.filter _⟩
      simp [List.mem_filter]

theorem eraseDups_of_nodup {items : List α} (nodup : items.Nodup) : items.eraseDups = items := by
  induction items with
  | nil => rfl
  | cons head rest induction =>
      rw [List.nodup_cons] at nodup
      rw [eraseDups_cons_eq, induction nodup.2, List.filter_eq_self.mpr]
      intro item member
      have other : item ≠ head := fun same => nodup.1 (same ▸ member)
      simpa using other

theorem eraseDups_replicate (count : Nat) (item : α) :
    (List.replicate (count + 1) item).eraseDups = [item] := by
  rw [List.replicate_succ, List.eraseDups_cons, List.filter_replicate]
  simp

theorem eraseDups_eraseDups (items : List α) : items.eraseDups.eraseDups = items.eraseDups :=
  eraseDups_of_nodup (nodup_eraseDups items)

/-- Whether repetitions are left out before lists are joined makes no difference in the end. -/
theorem eraseDups_append_eraseDups (first second : List α) :
    (first.eraseDups ++ second.eraseDups).eraseDups = (first ++ second).eraseDups := by
  have same (items : List α) : items.removeAll first.eraseDups = items.removeAll first := by
    apply List.filter_congr
    intro item _
    simp only [List.elem_eq_contains, Bool.not_eq_eq_eq_not, Bool.not_not]
    rw [Bool.eq_iff_iff, List.contains_iff_mem, List.contains_iff_mem, List.mem_eraseDups]
  have restricted : (second.eraseDups.removeAll first).eraseDups =
      (second.removeAll first).eraseDups := by
    simp only [List.removeAll, eraseDups_filter, eraseDups_eraseDups]
  rw [List.eraseDups_append, List.eraseDups_append, eraseDups_eraseDups, same, restricted]

end Repetitions

/-! ## The order of first occurrences -/

theorem findIdx_cons_lt_iff (first second : α → Bool) (head : α) (rest : List α) :
    (head :: rest).findIdx first < (head :: rest).findIdx second ↔
      second head = false ∧ (first head = true ∨ rest.findIdx first < rest.findIdx second) := by
  rw [List.findIdx_cons, List.findIdx_cons]
  cases first head <;> cases second head <;> simp

section Order

variable [BEq β] [LawfulBEq β]

/-- Picked items are in the order of the items that they are picked from. -/
theorem idxOf_filterMap_lt_iff (pick : α → Option β) (items : List α) (first second : β) :
    (items.filterMap pick).idxOf first < (items.filterMap pick).idxOf second ↔
      (items.findIdx fun item => pick item == some first) <
        items.findIdx fun item => pick item == some second := by
  induction items with
  | nil => rfl
  | cons head rest induction =>
      rw [findIdx_cons_lt_iff]
      cases picked : pick head with
      | none =>
          rw [List.filterMap_cons_none picked, induction]
          simp
      | some value =>
          rw [List.filterMap_cons_some picked]
          unfold List.idxOf at induction ⊢
          rw [findIdx_cons_lt_iff, induction]
          simp

/-- Leaving out other items keeps the order of those that are left. -/
theorem idxOf_filter_lt_iff {fit : β → Bool} (items : List β) {first second : β}
    (firstFits : fit first = true) (secondFits : fit second = true) :
    (items.filter fit).idxOf first < (items.filter fit).idxOf second ↔
      items.idxOf first < items.idxOf second := by
  have guarded {value : β} (valueFits : fit value = true) (item : β) :
      (Option.guard (fun item => fit item) item == some value) = (item == value) := by
    by_cases same : item = value
    · simp [same, Option.guard, valueFits]
    · cases fits : fit item <;> simp [same, Option.guard, fits]
  rw [← List.filterMap_eq_filter, idxOf_filterMap_lt_iff]
  simp only [guarded firstFits, guarded secondFits]
  rfl

/-- Without repetitions the items are in the order of their first occurrences. -/
theorem idxOf_eraseDups_lt_iff (items : List β) (first second : β) :
    items.eraseDups.idxOf first < items.eraseDups.idxOf second ↔
      items.idxOf first < items.idxOf second := by
  induction items with
  | nil => rfl
  | cons head rest induction =>
      rw [eraseDups_cons_eq]
      unfold List.idxOf
      rw [findIdx_cons_lt_iff, findIdx_cons_lt_iff]
      by_cases isSecond : head = second
      · simp [isSecond]
      · by_cases isFirst : head = first
        · simp [isFirst]
        · -- Neither is the head, so taking the head out of the rest leaves their order.
          have firstStays : (!first == head) = true := by simpa using Ne.symm isFirst
          have secondStays : (!second == head) = true := by simpa using Ne.symm isSecond
          have kept :
              (rest.eraseDups.filter fun item => !item == head).idxOf first <
                  (rest.eraseDups.filter fun item => !item == head).idxOf second ↔
                rest.eraseDups.idxOf first < rest.eraseDups.idxOf second :=
            idxOf_filter_lt_iff rest.eraseDups firstStays secondStays
          unfold List.idxOf at kept induction
          rw [kept, induction]

theorem idxOf_eraseDups_filterMap_lt_iff
    (pick : α → Option β) (items : List α) (first second : β) :
    (items.filterMap pick).eraseDups.idxOf first < (items.filterMap pick).eraseDups.idxOf second ↔
      (items.findIdx fun item => pick item == some first) <
        items.findIdx fun item => pick item == some second :=
  (idxOf_eraseDups_lt_iff _ _ _).trans (idxOf_filterMap_lt_iff pick items first second)

end Order

/-- If no two items share a key, each is found by its key. -/
theorem find?_key_eq_some [BEq β] [LawfulBEq β] {key : α → β} {items : List α}
    (distinct : (items.map key).Nodup) {item : α} (member : item ∈ items) :
    (items.find? fun other => key other == key item) = some item := by
  cases first : items.find? fun other => key other == key item with
  | none =>
      have absent := List.find?_eq_none.mp first item member
      exact absurd (beq_self_eq_true (key item)) absent
  | some other =>
      have sameKey : key other = key item := by simpa using List.find?_some first
      rw [List.inj_on_of_nodup_map distinct (List.mem_of_find?_eq_some first) member sameKey]

end Criteria
