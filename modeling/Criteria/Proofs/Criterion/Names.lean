import Mathlib.Data.List.Nodup
import Criteria.Filter
import Criteria.Proofs.Criterion.Columns
import Criteria.Proofs.FirstOccurrence

/-!
# What a column is called

A client may call a column by its name or by its field name, and messages show the field name.  The
name always leads to the column.  The field name need not be its own: another column may be named
so, and several columns may have one field name, `user_id` and `user__id` for instance.  A name is
preferred to a field name, and the first of several columns to the others.  So the field name leads
back to the column exactly if it belongs to it in that order (`names_lead_back`).
-/

namespace Criteria

namespace Table

/-- Whether no column of the table before this one has the same field name. -/
def IsFirstOfFieldName (table : Table) (column : Column) : Prop :=
  ∃ before after, table.columns = before ++ column :: after ∧
    ∀ earlier ∈ before, earlier.fieldName ≠ column.fieldName

/-- Whether the field name of a column belongs to it and to no other column. -/
structure OwnsFieldName (table : Table) (column : Column) : Prop where
  /-- No other column is named so. -/
  name : ∀ other ∈ table.columns, other.name = column.fieldName → other = column
  /-- The column is named so itself, or it is the first one with this field name. -/
  first : column.name = column.fieldName ∨ table.IsFirstOfFieldName column

variable {table : Table}

theorem resolve_string_eq_ok_iff {text : String} {column : Column} :
    table.resolve (.json (.string text)) = .ok column ↔ table.find? text = some column := by
  rw [resolve_json_eq_ok_iff]
  simp

/-- Under a field name the first column is found that has it. -/
theorem findByFieldName_eq_some_iff {column : Column} :
    (table.columns.find? fun other => other.fieldName == column.fieldName) = some column ↔
      table.IsFirstOfFieldName column := by
  simp [List.find?_eq_some_iff_append, IsFirstOfFieldName]

section Member

variable (distinct : (table.columns.map Column.name).Nodup) {column : Column}
  (member : column ∈ table.columns)

include member

/-- Some column is always found for a field name, and it is called so. -/
theorem exists_find?_fieldName :
    ∃ found ∈ table.columns, table.find? column.fieldName = some found ∧
      (found.name = column.fieldName ∨ found.fieldName = column.fieldName) := by
  have isSome : (table.find? column.fieldName).isSome = true := by
    rw [find?, Option.isSome_or, Bool.or_eq_true]
    exact .inr (List.find?_isSome.mpr ⟨column, member, beq_self_eq_true _⟩)
  rcases Option.isSome_iff_exists.mp isSome with ⟨found, same⟩
  rcases find?_eq_some same with ⟨inTable, called⟩
  exact ⟨found, inTable, same, called⟩

include distinct

theorem eq_of_name_eq {other : Column} (present : other ∈ table.columns)
    (same : other.name = column.name) : other = column :=
  List.inj_on_of_nodup_map distinct present member same

/-- A column is found under its name if no two columns share one. -/
theorem find?_name : table.find? column.name = some column := by
  rw [find?, find?_key_eq_some distinct member, Option.some_or]

/-- The field name leads back to the column exactly if it is its own. -/
theorem find?_fieldName_eq_some_iff :
    table.find? column.fieldName = some column ↔ table.OwnsFieldName column := by
  cases byName : table.columns.find? fun other => other.name == column.fieldName with
  | some other =>
      have present := List.mem_of_find?_eq_some byName
      have named : other.name = column.fieldName := by simpa using List.find?_some byName
      rw [find?, byName, Option.some_or, Option.some.injEq]
      constructor
      · rintro rfl
        exact ⟨fun another inTable same =>
          eq_of_name_eq distinct present inTable (same.trans named.symm), .inl named⟩
      · intro owns
        exact owns.name other present named
  | none =>
      have unnamed (other : Column) (present : other ∈ table.columns) :
          other.name ≠ column.fieldName := by
        simpa using List.find?_eq_none.mp byName other present
      rw [find?, byName, Option.none_or, findByFieldName_eq_some_iff]
      constructor
      · intro first
        exact ⟨fun other present same => absurd same (unnamed other present), .inr first⟩
      · intro owns
        exact owns.first.resolve_left (unnamed column member)

end Member

/--
The name of a column leads to it.  Its field name leads to some column that is called so, and to the
column itself exactly if it owns the field name.  Hence so does the name that messages show.
-/
theorem names_lead_back
    (distinct : (table.columns.map Column.name).Nodup) {column : Column}
    (member : column ∈ table.columns) :
    table.resolve (.json (.string column.name)) = .ok column ∧
      (table.resolve (.json (.string column.fieldName)) = .ok column ↔
        table.OwnsFieldName column) ∧
        (∃ found ∈ table.columns,
          table.resolve (.json (.string column.fieldName)) = .ok found ∧
            (found.name = column.fieldName ∨ found.fieldName = column.fieldName)) ∧
          ∀ (filter : Filter) (config : Config), filter.criterion.column = column →
            (table.resolve (.json (.string (filter.displayName config))) = .ok column ↔
              (config.camelize = true → table.OwnsFieldName column)) := by
  simp only [resolve_string_eq_ok_iff]
  refine ⟨find?_name distinct member, find?_fieldName_eq_some_iff distinct member,
    exists_find?_fieldName member, ?_⟩
  rintro filter config rfl
  unfold Filter.displayName
  cases config.camelize with
  | true => simp [find?_fieldName_eq_some_iff distinct member]
  | false => simp [find?_name distinct member]

/-- A column that is named as another one's field name is, and two columns of one field name. -/
def accounts : Table where
  name := "accounts"
  columns :=
    [⟨"user_id", .integer⟩, ⟨"userId", .string⟩, ⟨"nick_name", .string⟩, ⟨"nick__name", .text⟩]

theorem names_lead_back_accounts :
    (accounts.columns.map Column.name).Nodup ∧ ⟨"nick_name", .string⟩ ∈ accounts.columns ∧
      accounts.resolve (.json (.string "nick_name")) = .ok ⟨"nick_name", .string⟩ ∧
        accounts.resolve (.json (.string "nickName")) = .ok ⟨"nick_name", .string⟩ := by
  have distinct : (accounts.columns.map Column.name).Nodup := by decide
  have member : ⟨"nick_name", .string⟩ ∈ accounts.columns := by decide
  have fieldName : (⟨"nick_name", .string⟩ : Column).fieldName = "nickName" := by decide
  have owns : accounts.OwnsFieldName ⟨"nick_name", .string⟩ :=
    ⟨by decide, .inr ⟨[⟨"user_id", .integer⟩, ⟨"userId", .string⟩], [⟨"nick__name", .text⟩], rfl,
      by decide⟩⟩
  rcases names_lead_back distinct member with ⟨byName, byFieldName, _, _⟩
  rw [fieldName] at byFieldName
  exact ⟨distinct, member, byName, byFieldName.mpr owns⟩

/-- The field name of `user_id` is the name of another column. -/
theorem not_names_lead_back :
    ¬ ∀ (table : Table) (column : Column),
      (table.columns.map Column.name).Nodup → column ∈ table.columns →
        table.resolve (.json (.string column.name)) = .ok column ∧
          table.resolve (.json (.string column.fieldName)) = .ok column := by
  intro leadBack
  have fieldName : (⟨"user_id", .integer⟩ : Column).fieldName = "userId" := by decide
  have foundAnother : accounts.find? "userId" = some ⟨"userId", .string⟩ := by decide
  rcases leadBack accounts ⟨"user_id", .integer⟩ (by decide) (by decide) with ⟨_, found⟩
  rw [resolve_string_eq_ok_iff, fieldName, foundAnother] at found
  exact absurd found (by decide)

end Table

end Criteria
