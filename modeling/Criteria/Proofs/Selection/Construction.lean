import Criteria.Proofs.Success
import Criteria.Selection

/-!
# Constructed selections

Construction checks the columns of a criterion against the table and looks up the policy of its
column.  `build_eq_ok_iff` says all that a success of it means: the selection holds the criteria in
their order, each as a filter that fits the table, and nothing has been validated yet.
-/

namespace Criteria

/-- The filter belongs to the table: its columns are there and its policy is that of its column. -/
structure Filter.Fits (table : Table) (filter : Filter) : Prop where
  column : table.hasColumn filter.criterion.column.name = true
  otherColumn :
    ∀ other, filter.criterion.otherColumn? = some other → table.hasColumn other.name = true
  policy : Policy.ofType? filter.criterion.column.type = some filter.policy

/-- The filter of a criterion has the policy of its column's type. -/
theorem Filter.ofCriterion_eq_ok_iff {criterion : Criterion} {filter : Filter} :
    Filter.ofCriterion criterion = .ok filter ↔
      filter.criterion = criterion ∧ Policy.ofType? criterion.column.type = some filter.policy := by
  unfold Filter.ofCriterion
  cases found : Policy.ofType? criterion.column.type with
  | none => simp
  | some policy =>
      constructor
      · intro equal
        cases equal
        exact ⟨rfl, rfl⟩
      · rintro ⟨rfl, same⟩
        cases same
        rfl

namespace Selection

theorem checkColumn_eq_ok_iff {table : Table} {column : Column} {result : Unit} :
    checkColumn table column = .ok result ↔ table.hasColumn column.name = true := by
  unfold checkColumn
  cases table.hasColumn column.name <;> simp

/-- A criterion has a filter on a table exactly if the filter fits the table. -/
theorem filterOn_eq_ok_iff {table : Table} {criterion : Criterion} {filter : Filter} :
    filterOn table criterion = .ok filter ↔ filter.criterion = criterion ∧ filter.Fits table := by
  unfold filterOn
  constructor
  · intro made
    rcases bind_eq_ok_iff.mp made with ⟨_, columnOk, made⟩
    cases other : criterion.otherColumn? with
    | none =>
        rw [other] at made
        rcases Filter.ofCriterion_eq_ok_iff.mp made with ⟨rfl, policy⟩
        refine ⟨rfl, checkColumn_eq_ok_iff.mp columnOk, ?_, policy⟩
        simp [other]
    | some column =>
        rw [other] at made
        rcases bind_eq_ok_iff.mp made with ⟨_, otherOk, made⟩
        rcases Filter.ofCriterion_eq_ok_iff.mp made with ⟨rfl, policy⟩
        refine ⟨rfl, checkColumn_eq_ok_iff.mp columnOk, ?_, policy⟩
        simpa [other] using checkColumn_eq_ok_iff.mp otherOk
  · rintro ⟨rfl, fits⟩
    have columnOk : checkColumn table filter.criterion.column = .ok () :=
      checkColumn_eq_ok_iff.mpr fits.column
    have made : Filter.ofCriterion filter.criterion = .ok filter :=
      Filter.ofCriterion_eq_ok_iff.mpr ⟨rfl, fits.policy⟩
    refine bind_eq_ok_iff.mpr ⟨(), columnOk, ?_⟩
    cases other : filter.criterion.otherColumn? with
    | none => exact made
    | some column =>
        have otherOk : checkColumn table column = .ok () :=
          checkColumn_eq_ok_iff.mpr (fits.otherColumn column other)
        exact bind_eq_ok_iff.mpr ⟨(), otherOk, made⟩

/-- What it means that the selection is one of some criteria on a table, not looked at yet. -/
structure IsBuiltFrom
    (table : Table) (criteria : List Criterion) (selection : Selection) : Prop where
  table_eq : selection.table = table
  criteria_eq : selection.filters.map Filter.criterion = criteria
  fits : ∀ filter ∈ selection.filters, filter.Fits table
  stage_eq : selection.stage = .unvalidated

theorem forall₂_filterOn_iff
    {table : Table} {criteria : List Criterion} {filters : List Filter} :
    List.Forall₂ (fun criterion filter => filterOn table criterion = .ok filter) criteria filters ↔
      filters.map Filter.criterion = criteria ∧ ∀ filter ∈ filters, filter.Fits table := by
  induction filters generalizing criteria with
  | nil =>
      rw [List.forall₂_nil_right_iff]
      simp [eq_comm]
  | cons filter rest induction =>
      rw [List.forall₂_cons_right_iff]
      constructor
      · rintro ⟨criterion, others, made, othersMade, rfl⟩
        rcases filterOn_eq_ok_iff.mp made with ⟨rfl, fits⟩
        rcases induction.mp othersMade with ⟨rfl, othersFit⟩
        exact ⟨rfl, List.forall_mem_cons.mpr ⟨fits, othersFit⟩⟩
      · rintro ⟨rfl, allFit⟩
        rcases List.forall_mem_cons.mp allFit with ⟨fits, othersFit⟩
        exact ⟨filter.criterion, rest.map Filter.criterion,
          filterOn_eq_ok_iff.mpr ⟨rfl, fits⟩, induction.mpr ⟨rfl, othersFit⟩, rfl⟩

/-- Construction succeeds on exactly the selections that are built from the criteria. -/
theorem build_eq_ok_iff
    {table : Table} {criteria : List Criterion} {selection : Selection} {events : List Event} :
    build table criteria = .ok (selection, events) ↔
      selection.IsBuiltFrom table criteria ∧
        events = [.built table.name selection.filters.length] := by
  unfold build
  rw [bind_eq_ok_iff]
  constructor
  · rintro ⟨filters, made, equal⟩
    cases equal
    rcases forall₂_filterOn_iff.mp (mapM_eq_ok_iff.mp made) with ⟨criteriaEq, fits⟩
    exact ⟨⟨rfl, criteriaEq, fits, rfl⟩, rfl⟩
  · rintro ⟨⟨rfl, criteriaEq, fits, stageEq⟩, rfl⟩
    refine ⟨selection.filters, ?_, ?_⟩
    · exact mapM_eq_ok_iff.mpr (forall₂_filterOn_iff.mpr ⟨criteriaEq, fits⟩)
    · rw [← stageEq]

/-- Construction succeeds exactly if a filter can be made of each criterion. -/
theorem exists_build_iff {table : Table} {criteria : List Criterion} :
    (∃ selection, build table criteria = .ok selection) ↔
      ∀ criterion ∈ criteria, ∃ filter, filterOn table criterion = .ok filter := by
  rw [← exists_mapM_eq_ok_iff]
  constructor
  · rintro ⟨selection, built⟩
    rcases bind_eq_ok_iff.mp built with ⟨filters, made, _⟩
    exact ⟨filters, made⟩
  · rintro ⟨filters, made⟩
    exact ⟨_, bind_eq_ok_iff.mpr ⟨filters, made, rfl⟩⟩

/-! ## A selection of three filters -/

/-- A table of people, with a column for each of three policies. -/
def people : Table :=
  ⟨"people", [⟨"name", .string⟩, ⟨"age", .integer⟩, ⟨"active", .boolean⟩]⟩

/-- Two alternatives with a further restriction between them, the first one leading. -/
def peopleCriteria : List Criterion :=
  [⟨⟨"age", .integer⟩, .greaterThan, true, some "30", none, none⟩,
    ⟨⟨"active", .boolean⟩, .truth, false, some "F", none, none⟩,
    ⟨⟨"name", .string⟩, .like, true, some "%a%", none, none⟩]

/-- The selection that is built from these criteria. -/
def peopleSelection : Selection :=
  ⟨people, List.zipWith Filter.mk peopleCriteria [.numeric, .boolean, .string], .unvalidated⟩

theorem build_peopleCriteria :
    build people peopleCriteria = .ok (peopleSelection, [.built "people" 3]) :=
  rfl

/-- A table without a name. -/
def unnamedTable : Table :=
  ⟨"", [⟨"age", .integer⟩]⟩

/-- A comparison on the table without a name. -/
def unnamedCriteria : List Criterion :=
  [⟨⟨"age", .integer⟩, .equal, false, some "30", none, none⟩]

/-- The selection that is built on the table without a name. -/
def unnamedSelection : Selection :=
  ⟨unnamedTable, List.zipWith Filter.mk unnamedCriteria [.numeric], .unvalidated⟩

theorem build_unnamedCriteria :
    build unnamedTable unnamedCriteria = .ok (unnamedSelection, [.built "" 1]) :=
  rfl

end Selection

end Criteria
