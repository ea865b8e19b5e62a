import Mathlib.Data.List.Nodup
import Criteria.Proofs.Criterion.Columns
import Criteria.Proofs.Selection.Construction

/-!
# Columns come from the table

What a column holds decides which operations a filter may have and how its values are read, so it
must not be for a client to say.  `columns_declared` says that it is not: in a selection that was
built from the payloads of clients, every column is one that the table declares, under the name that
the payload has for it.  The check of columns at construction has nothing left to find.
-/

namespace Criteria

/-- The column is the one of its name in the table, with the type of its storage. -/
structure Table.Declares (table : Table) (column : Column) : Prop where
  mem : column ∈ table.columns
  unique : ∀ other ∈ table.columns, other.name = column.name → other = column
  storage :
    ∀ name declared, Table.declare name declared = .ok table →
      ∃ storage, (column.name, storage) ∈ declared ∧ column.type = .ofStorage storage

namespace Table

variable {table : Table}

theorem exists_storage_of_mem
    {name : String} {declared : List (String × String)}
    (declaredOk : declare name declared = .ok table) {column : Column}
    (member : column ∈ table.columns) :
    ∃ storage, (column.name, storage) ∈ declared ∧ column.type = .ofStorage storage := by
  unfold declare at declaredOk
  split at declaredOk
  · cases declaredOk
  · cases declaredOk
    rcases List.mem_map.mp member with ⟨⟨columnName, storage⟩, present, rfl⟩
    exact ⟨storage, present, rfl⟩

theorem declares_of_mem
    (distinct : (table.columns.map Column.name).Nodup) {column : Column}
    (member : column ∈ table.columns) : table.Declares column where
  mem := member
  unique := fun _ present same => List.inj_on_of_nodup_map distinct present member same
  storage := fun _ _ declaredOk => exists_storage_of_mem declaredOk member

/-- A column that an entry leads to is one of the table. -/
theorem mem_of_columnUnder
    {names : List String} {entries : List (String × Json)} {column : Column}
    (found : table.columnUnder names entries = some column) : column ∈ table.columns := by
  unfold columnUnder at found
  split at found
  · exact (find?_eq_some found).1
  · cases found

theorem hasColumn_of_mem {column : Column} (member : column ∈ table.columns) :
    table.hasColumn column.name = true :=
  List.any_eq_true.mpr ⟨column, member, by simp⟩

end Table

namespace Selection

variable {table : Table} {records : List (List (String × Json))} {criteria : List Criterion}

/-! ## Reading payloads -/

/-- The columns of a criterion are those that the table finds for the names in some entries. -/
def NamesColumns
    (table : Table) (entries : List (String × Json)) (criterion : Criterion) : Prop :=
  table.columnUnder ["field"] entries = some criterion.column ∧
    table.columnUnder Criterion.otherColumnNames entries = criterion.otherColumn?

theorem forall₂_namesColumns
    (read : (records.map Payload.ofEntries).mapM table.criterion = .ok criteria) :
    List.Forall₂ (NamesColumns table) records criteria := by
  rw [mapM_eq_ok_iff, List.forall₂_map_left_iff] at read
  exact read.imp fun _ _ => Table.columns_of_criterion

theorem columns_mem_of_mapM
    (read : (records.map Payload.ofEntries).mapM table.criterion = .ok criteria)
    {criterion : Criterion} (given : criterion ∈ criteria) :
    criterion.column ∈ table.columns ∧
      ∀ other, criterion.otherColumn? = some other → other ∈ table.columns := by
  rcases exists_of_mapM_eq_ok read given with ⟨payload, member, criterionOk⟩
  rcases List.mem_map.mp member with ⟨entries, _, rfl⟩
  rcases Table.columns_of_criterion criterionOk with ⟨column, otherColumn⟩
  refine ⟨Table.mem_of_columnUnder column, ?_⟩
  intro other found
  exact Table.mem_of_columnUnder (otherColumn.trans found)

/-- A selection is made of payloads exactly if they are read and the criteria make one. -/
theorem ofPayloads_eq_ok_iff {payloads : List Payload} {selection : Selection}
    {events : List Event} :
    ofPayloads table payloads = .ok (selection, events) ↔
      ∃ criteria, payloads.mapM table.criterion = .ok criteria ∧
        build table criteria = .ok (selection, events) :=
  bind_eq_ok_iff

/-! ## The check at construction -/

theorem checkColumn_of_mem {column : Column} (member : column ∈ table.columns) :
    checkColumn table column = .ok () :=
  checkColumn_eq_ok_iff.mpr (Table.hasColumn_of_mem member)

/-- Construction finds no unknown column among criteria whose columns are those of the table. -/
theorem build_ne_unknownColumn
    (present : ∀ criterion ∈ criteria, checkColumn table criterion.column = .ok () ∧
      ∀ other, criterion.otherColumn? = some other → checkColumn table other = .ok ())
    (name : String) (table? : Option String) :
    build table criteria ≠ .error (.unknownColumn name table?) := by
  intro failed
  rcases bind_eq_error_iff.mp failed with filtersFailed | ⟨filters, _, impossible⟩
  · rcases mapM_eq_error_iff.mp filtersFailed with ⟨before, criterion, after, rfl, _, failed⟩
    rcases present criterion (by simp) with ⟨columnOk, otherOk⟩
    have typeFailed : Filter.ofCriterion criterion = .error (.unknownColumn name table?) := by
      unfold filterOn at failed
      rw [columnOk] at failed
      cases other : criterion.otherColumn? with
      | none =>
          rw [other] at failed
          exact failed
      | some column =>
          rw [other] at failed
          have otherFound := otherOk column other
          simp only [otherFound] at failed
          exact failed
    unfold Filter.ofCriterion at typeFailed
    split at typeFailed
    · cases typeFailed
    · cases typeFailed
  · cases impossible

/--
A selection that was built from the payloads of clients has only columns that the table declares,
those that the payloads name, and each filter has the policy of its column.  The check of columns at
construction never fails then: a column that is not found is not found while payloads are read.
-/
theorem columns_declared
    {table : Table} (distinct : (table.columns.map Column.name).Nodup)
    (records : List (List (String × Json))) :
    (∀ selection events,
        ofPayloads table (records.map Payload.ofEntries) = .ok (selection, events) →
          List.Forall₂ (NamesColumns table) records (selection.filters.map Filter.criterion) ∧
            ∀ filter ∈ selection.filters,
              table.Declares filter.criterion.column ∧
                (∀ other, filter.criterion.otherColumn? = some other → table.Declares other) ∧
                Policy.ofType? filter.criterion.column.type = some filter.policy) ∧
      (∀ criteria, (records.map Payload.ofEntries).mapM table.criterion = .ok criteria →
        ∀ criterion ∈ criteria, checkColumn table criterion.column = .ok () ∧
          ∀ other, criterion.otherColumn? = some other → checkColumn table other = .ok ()) ∧
      ∀ name table?,
        ofPayloads table (records.map Payload.ofEntries) = .error (.unknownColumn name table?) →
          table? = none := by
  have checked (criteria : List Criterion)
      (read : (records.map Payload.ofEntries).mapM table.criterion = .ok criteria) :
      ∀ criterion ∈ criteria, checkColumn table criterion.column = .ok () ∧
        ∀ other, criterion.otherColumn? = some other → checkColumn table other = .ok () := by
    intro criterion given
    rcases columns_mem_of_mapM read given with ⟨column, otherColumn⟩
    exact ⟨checkColumn_of_mem column,
      fun other found => checkColumn_of_mem (otherColumn other found)⟩
  refine ⟨?_, checked, ?_⟩
  · intro selection events built
    rcases ofPayloads_eq_ok_iff.mp built with ⟨criteria, read, built⟩
    have isBuilt := (build_eq_ok_iff.mp built).1
    refine ⟨?_, ?_⟩
    · rw [isBuilt.criteria_eq]
      exact forall₂_namesColumns read
    · intro filter member
      have given : filter.criterion ∈ criteria := by
        rw [← isBuilt.criteria_eq]
        exact List.mem_map_of_mem member
      rcases columns_mem_of_mapM read given with ⟨column, otherColumn⟩
      refine ⟨Table.declares_of_mem distinct column, ?_, (isBuilt.fits filter member).policy⟩
      intro other found
      exact Table.declares_of_mem distinct (otherColumn other found)
  · intro name table? failed
    rcases bind_eq_error_iff.mp failed with readFailed | ⟨criteria, read, buildFailed⟩
    · rcases mapM_eq_error_iff.mp readFailed with ⟨_, payload, _, _, _, criterionFailed⟩
      exact Table.criterion_eq_unknownColumn criterionFailed
    · exact absurd buildFailed (build_ne_unknownColumn (checked criteria read) name table?)

/-- Payloads that spell out types, and a column to compare with under both of its names. -/
def forgedRecords : List (List (String × Json)) :=
  [[("field", .string "nickName"), ("type", .string "integer"), ("operation", .string "EQUAL"),
      ("columnValue", .null), ("column_value", .string "age"), ("value", .string "Al")],
    [("operation", .string "EQUAL"), ("field", .string "age"),
      ("column_value", .string "nick_name"), ("columnValue", .string "score"),
      ("column", .object [("type", .string "text")])]]

/-- A table with a column whose field name differs from its name. -/
def scores : Table :=
  ⟨"scores", [⟨"nick_name", .string⟩, ⟨"age", .integer⟩, ⟨"score", .decimal⟩]⟩

/-- The types are those of the table, and a null under the first name is what counts. -/
theorem columns_declared_scores :
    Table.declare "scores" [("nick_name", "String"), ("age", "Integer"), ("score", "Numeric")] =
        .ok scores ∧
      (∃ selection events,
        ofPayloads scores (forgedRecords.map Payload.ofEntries) = .ok (selection, events) ∧
          (selection.filters.map fun filter => filter.criterion.otherColumn?) =
            [none, some ⟨"score", .decimal⟩] ∧
          ∀ filter ∈ selection.filters, scores.Declares filter.criterion.column) ∧
      ∃ name table?,
        ofPayloads scores ([[("field", Json.string "ghost")]].map Payload.ofEntries) =
          .error (.unknownColumn name table?) ∧ table? = none := by
  have distinct : (scores.columns.map Column.name).Nodup := by decide
  refine ⟨rfl, ?_, ?_⟩
  · rcases columns_declared distinct forgedRecords with ⟨declared, _, _⟩
    refine ⟨_, _, rfl, rfl, ?_⟩
    intro filter member
    exact ((declared _ _ rfl).2 filter member).1
  · refine ⟨"ghost", none, rfl, ?_⟩
    exact (columns_declared distinct [[("field", .string "ghost")]]).2.2 _ _ rfl

end Selection

end Criteria
