import Criteria.Proofs.Selection.Columns

/-!
# Which error construction reports

Construction takes one criterion after another.  Of each it looks at the column, then at the other
column, then at the type of the column, and it stops at the first fault.  `Criterion.Refused` says
what the fault of a single criterion is, and `FirstRefused` which one a list is refused for.

Payloads are all read before the first of them is looked at.  So one that cannot be read is reported
even if the column of an earlier one has a type without filters (`construction_reports_first`).
-/

namespace Criteria

namespace Table

variable {table : Table}

theorem hasColumn_eq_true_iff {name : String} :
    table.hasColumn name = true ↔ name ∈ table.columns.map Column.name := by
  simp [hasColumn]

theorem hasColumn_eq_false_iff {name : String} :
    table.hasColumn name = false ↔ name ∉ table.columns.map Column.name := by
  rw [← hasColumn_eq_true_iff, Bool.not_eq_true]

end Table

/-! ## One criterion -/

namespace Criterion

/-- A filter can be made of the criterion: its columns are in the table, its type has filters. -/
structure IsAdmitted (table : Table) (criterion : Criterion) : Prop where
  column : criterion.column.name ∈ table.columns.map Column.name
  otherColumn :
    ∀ other, criterion.otherColumn? = some other → other.name ∈ table.columns.map Column.name
  type : criterion.column.isSupported = true

/-- The error that a criterion is refused with: each fault counts only without those before it. -/
inductive Refused (table : Table) (criterion : Criterion) : Error → Prop where
  | column (unknown : criterion.column.name ∉ table.columns.map Column.name) :
      Refused table criterion (.unknownColumn criterion.column.name (some table.name))
  | otherColumn
      (column : criterion.column.name ∈ table.columns.map Column.name)
      {other : Column} (given : criterion.otherColumn? = some other)
      (unknown : other.name ∉ table.columns.map Column.name) :
      Refused table criterion (.unknownColumn other.name (some table.name))
  | type
      (column : criterion.column.name ∈ table.columns.map Column.name)
      (otherColumn :
        ∀ other, criterion.otherColumn? = some other → other.name ∈ table.columns.map Column.name)
      (unsupported : criterion.column.isSupported = false) :
      Refused table criterion
        (.unsupportedColumn criterion.column.name criterion.column.type.name)

end Criterion

theorem Filter.ofCriterion_eq_error_iff {criterion : Criterion} {error : Error} :
    Filter.ofCriterion criterion = .error error ↔
      criterion.column.isSupported = false ∧
        error = .unsupportedColumn criterion.column.name criterion.column.type.name := by
  unfold Filter.ofCriterion Column.isSupported
  cases Policy.ofType? criterion.column.type with
  | none => simp [eq_comm]
  | some policy => simp

namespace Selection

variable {table : Table}

theorem checkColumn_eq_error_iff {column : Column} {error : Error} :
    checkColumn table column = .error error ↔
      column.name ∉ table.columns.map Column.name ∧
        error = .unknownColumn column.name (some table.name) := by
  rw [← Table.hasColumn_eq_false_iff, checkColumn]
  cases table.hasColumn column.name <;> simp [eq_comm]

theorem checkColumn_eq_ok_iff_mem {column : Column} :
    checkColumn table column = .ok () ↔ column.name ∈ table.columns.map Column.name :=
  checkColumn_eq_ok_iff.trans Table.hasColumn_eq_true_iff

/-- The checks come one after another, and each reports its own fault. -/
theorem filterOn_eq_error_iff {criterion : Criterion} {error : Error} :
    filterOn table criterion = .error error ↔ criterion.Refused table error := by
  unfold filterOn
  constructor
  · intro failed
    rcases bind_eq_error_iff.mp failed with columnFailed | ⟨_, columnOk, failed⟩
    · rcases checkColumn_eq_error_iff.mp columnFailed with ⟨unknown, rfl⟩
      exact .column unknown
    · have column := checkColumn_eq_ok_iff_mem.mp columnOk
      cases given : criterion.otherColumn? with
      | none =>
          rw [given] at failed
          rcases Filter.ofCriterion_eq_error_iff.mp failed with ⟨unsupported, rfl⟩
          exact .type column (by simp [given]) unsupported
      | some other =>
          rw [given] at failed
          rcases bind_eq_error_iff.mp failed with otherFailed | ⟨_, otherOk, failed⟩
          · rcases checkColumn_eq_error_iff.mp otherFailed with ⟨unknown, rfl⟩
            exact .otherColumn column given unknown
          · rcases Filter.ofCriterion_eq_error_iff.mp failed with ⟨unsupported, rfl⟩
            have otherColumn := checkColumn_eq_ok_iff_mem.mp otherOk
            exact .type column (by simpa [given] using otherColumn) unsupported
  · intro refused
    cases refused with
    | column unknown =>
        exact bind_eq_error_iff.mpr (.inl (checkColumn_eq_error_iff.mpr ⟨unknown, rfl⟩))
    | otherColumn column given unknown =>
        refine bind_eq_error_iff.mpr (.inr ⟨(), checkColumn_eq_ok_iff_mem.mpr column, ?_⟩)
        rw [given]
        exact bind_eq_error_iff.mpr (.inl (checkColumn_eq_error_iff.mpr ⟨unknown, rfl⟩))
    | type column otherColumn unsupported =>
        refine bind_eq_error_iff.mpr (.inr ⟨(), checkColumn_eq_ok_iff_mem.mpr column, ?_⟩)
        have failed := Filter.ofCriterion_eq_error_iff.mpr ⟨unsupported, rfl⟩
        cases given : criterion.otherColumn? with
        | none => exact failed
        | some other =>
            have otherOk := checkColumn_eq_ok_iff_mem.mpr (otherColumn other given)
            exact bind_eq_error_iff.mpr (.inr ⟨(), otherOk, failed⟩)

/-- A criterion is refused exactly if the table does not admit it. -/
theorem exists_filterOn_iff {criterion : Criterion} :
    (∃ filter, filterOn table criterion = .ok filter) ↔ criterion.IsAdmitted table := by
  simp only [filterOn_eq_ok_iff]
  constructor
  · rintro ⟨filter, rfl, fits⟩
    constructor
    case column => exact Table.hasColumn_eq_true_iff.mp fits.column
    case otherColumn =>
      intro other given
      exact Table.hasColumn_eq_true_iff.mp (fits.otherColumn other given)
    case type => rw [Column.isSupported, fits.policy, Option.isSome_some]
  · intro admitted
    rcases Option.isSome_iff_exists.mp admitted.type with ⟨policy, ofType⟩
    refine ⟨⟨criterion, policy⟩, rfl, ?_, ?_, ofType⟩
    · exact Table.hasColumn_eq_true_iff.mpr admitted.column
    · intro other given
      exact Table.hasColumn_eq_true_iff.mpr (admitted.otherColumn other given)

end Selection

/-! ## The first fault of a list -/

/-- An item of the list has the fault, and every item before it is sound. -/
def FirstFault {α ε : Type} (sound : α → Prop) (faulty : α → ε → Prop)
    (items : List α) (fault : ε) : Prop :=
  ∃ before item after, items = before ++ item :: after ∧
    (∀ earlier ∈ before, sound earlier) ∧ faulty item fault

/-- Computing on all items of a list fails with the first fault of an item. -/
theorem mapM_eq_error_iff_firstFault
    {α β ε : Type} {compute : α → Except ε β} {sound : α → Prop} {faulty : α → ε → Prop}
    (soundIff : ∀ item, (∃ result, compute item = .ok result) ↔ sound item)
    (faultyIff : ∀ item fault, compute item = .error fault ↔ faulty item fault)
    {items : List α} {fault : ε} :
    items.mapM compute = .error fault ↔ FirstFault sound faulty items fault := by
  simp only [mapM_eq_error_iff, exists_mapM_eq_ok_iff, soundIff, faultyIff, FirstFault]

namespace Selection

/-- The first criterion that is not admitted is refused with the error. -/
def FirstRefused (table : Table) : List Criterion → Error → Prop :=
  FirstFault (Criterion.IsAdmitted table) (Criterion.Refused table)

/-- The first criterion whose type has no filters is the one that the error is about. -/
def FirstUnsupported : List Criterion → Error → Prop :=
  FirstFault (fun criterion => criterion.column.isSupported = true)
    fun criterion error => criterion.column.isSupported = false ∧
      error = .unsupportedColumn criterion.column.name criterion.column.type.name

/-- The first payload that cannot be read as a criterion fails with the error. -/
def FirstUnread (table : Table) : List Payload → Error → Prop :=
  FirstFault (fun payload => ∃ criterion, table.criterion payload = .ok criterion)
    fun payload error => table.criterion payload = .error error

variable {table : Table} {criteria : List Criterion}

/-- Construction reports the first criterion that is refused, for the first of its faults. -/
theorem build_eq_error_iff {error : Error} :
    build table criteria = .error error ↔ FirstRefused table criteria error := by
  rw [FirstRefused, ← mapM_eq_error_iff_firstFault (fun _ => exists_filterOn_iff)
    (fun _ _ => filterOn_eq_error_iff), build, bind_eq_error_iff]
  simp

theorem exists_build_eq_error_iff :
    (∃ error, build table criteria = .error error) ↔
      ∃ criterion ∈ criteria, ¬ criterion.IsAdmitted table := by
  rw [exists_eq_error_iff, exists_build_iff]
  simp only [exists_filterOn_iff, not_forall, exists_prop]

/-- Criteria that are all admitted make a selection, which holds them as they are. -/
theorem exists_isBuiltFrom (admitted : ∀ criterion ∈ criteria, criterion.IsAdmitted table) :
    ∃ selection, build table criteria = .ok (selection, [.built table.name criteria.length]) ∧
      selection.IsBuiltFrom table criteria := by
  have made : ∀ criterion ∈ criteria, ∃ filter, filterOn table criterion = .ok filter :=
    fun criterion given => exists_filterOn_iff.mpr (admitted criterion given)
  rcases exists_build_iff.mpr made with ⟨⟨selection, events⟩, built⟩
  rcases build_eq_ok_iff.mp built with ⟨isBuilt, rfl⟩
  refine ⟨selection, ?_, isBuilt⟩
  rw [built, ← isBuilt.criteria_eq, List.length_map]

/-- A type is what a list is refused for only if all types before it have filters. -/
theorem FirstRefused.firstUnsupported {column type : String}
    (refused : FirstRefused table criteria (.unsupportedColumn column type)) :
    FirstUnsupported criteria (.unsupportedColumn column type) := by
  rcases refused with ⟨before, criterion, after, rfl, admitted, refused⟩
  refine ⟨before, criterion, after, rfl, fun earlier given => (admitted earlier given).type, ?_⟩
  cases refused with
  | type _ _ unsupported => exact ⟨unsupported, rfl⟩

/-- Among criteria whose columns are all those of the table, a type is the only fault there is. -/
theorem firstRefused_iff_firstUnsupported {error : Error}
    (declared : ∀ criterion ∈ criteria, criterion.column ∈ table.columns ∧
      ∀ other, criterion.otherColumn? = some other → other ∈ table.columns) :
    FirstRefused table criteria error ↔ FirstUnsupported criteria error := by
  have known (criterion : Criterion) (given : criterion ∈ criteria) :
      criterion.column.name ∈ table.columns.map Column.name ∧
        ∀ other, criterion.otherColumn? = some other →
          other.name ∈ table.columns.map Column.name := by
    rcases declared criterion given with ⟨column, otherColumn⟩
    refine ⟨List.mem_map_of_mem column, ?_⟩
    intro other found
    exact List.mem_map_of_mem (otherColumn other found)
  constructor
  · rintro ⟨before, criterion, after, rfl, admitted, refused⟩
    rcases known criterion (by simp) with ⟨column, otherColumn⟩
    refine ⟨before, criterion, after, rfl, fun earlier given => (admitted earlier given).type, ?_⟩
    cases refused with
    | column unknown => exact absurd column unknown
    | otherColumn _ found unknown => exact absurd (otherColumn _ found) unknown
    | type _ _ unsupported => exact ⟨unsupported, rfl⟩
  · rintro ⟨before, criterion, after, rfl, supported, unsupported, rfl⟩
    refine ⟨before, criterion, after, rfl, ?_, ?_⟩
    · intro earlier given
      rcases known earlier (by simp [given]) with ⟨column, otherColumn⟩
      exact ⟨column, otherColumn, supported earlier given⟩
    · rcases known criterion (by simp) with ⟨column, otherColumn⟩
      exact .type column otherColumn unsupported

/-! ## Payloads -/

/-- Each payload is read as the criterion at its place. -/
def ReadAs (table : Table) : List Payload → List Criterion → Prop :=
  List.Forall₂ fun payload criterion => table.criterion payload = .ok criterion

/-- A payload that cannot be read is reported before any criterion is checked. -/
theorem ofPayloads_eq_error_iff {payloads : List Payload} {error : Error} :
    ofPayloads table payloads = .error error ↔
      FirstUnread table payloads error ∨
        ∃ criteria, ReadAs table payloads criteria ∧ FirstRefused table criteria error := by
  rw [ofPayloads, bind_eq_error_iff, FirstUnread,
    mapM_eq_error_iff_firstFault (fun _ => Iff.rfl) fun _ _ => Iff.rfl]
  simp only [build_eq_error_iff, ReadAs, mapM_eq_ok_iff]

theorem FirstUnread.isOfReading {payloads : List Payload} {error : Error}
    (unread : FirstUnread table payloads error) : error.IsOfReading := by
  rcases unread with ⟨_, _, _, _, _, failed⟩
  exact Table.criterion_eq_error failed

/--
Construction fails exactly if some criterion is not admitted, and it fails with the fault of the
first such criterion.  Otherwise the selection holds the criteria in their order and as they are.
For payloads, the first that cannot be read is reported, whatever the types of those before it; only
if all of them are read can a type be the fault, and then it is the first type without filters.
Plain payloads that are all read have no other fault.
-/
theorem construction_reports_first (table : Table) :
    (∀ criteria error, build table criteria = .error error ↔ FirstRefused table criteria error) ∧
      (∀ criteria, (∃ error, build table criteria = .error error) ↔
        ∃ criterion ∈ criteria, ¬ criterion.IsAdmitted table) ∧
      (∀ criteria : List Criterion, (∀ criterion ∈ criteria, criterion.IsAdmitted table) →
        ∃ selection, build table criteria = .ok (selection, [.built table.name criteria.length]) ∧
          selection.IsBuiltFrom table criteria) ∧
      (∀ payloads error, ofPayloads table payloads = .error error ↔
        FirstUnread table payloads error ∨
          ∃ criteria, ReadAs table payloads criteria ∧ FirstRefused table criteria error) ∧
      (∀ payloads column type, ofPayloads table payloads = .error (.unsupportedColumn column type) →
        ∃ criteria, ReadAs table payloads criteria ∧
          FirstUnsupported criteria (.unsupportedColumn column type)) ∧
      ∀ (records : List (List (String × Json))) criteria,
        ReadAs table (records.map Payload.ofEntries) criteria →
          ∀ error, ofPayloads table (records.map Payload.ofEntries) = .error error ↔
            FirstUnsupported criteria error := by
  refine ⟨fun _ _ => build_eq_error_iff, fun _ => exists_build_eq_error_iff,
    fun _ => exists_isBuiltFrom, fun _ _ => ofPayloads_eq_error_iff, ?_, ?_⟩
  · intro payloads column type failed
    rcases ofPayloads_eq_error_iff.mp failed with unread | ⟨criteria, read, refused⟩
    · cases unread.isOfReading
    · exact ⟨criteria, read, refused.firstUnsupported⟩
  · intro records criteria read error
    have declared : ∀ criterion ∈ criteria, criterion.column ∈ table.columns ∧
        ∀ other, criterion.otherColumn? = some other → other ∈ table.columns :=
      fun criterion given => columns_mem_of_mapM (mapM_eq_ok_iff.mpr read) given
    rw [← firstRefused_iff_firstUnsupported declared, ← build_eq_error_iff, ofPayloads,
      mapM_eq_ok_iff.mpr read]
    rfl

/-- The values of the second column cannot be filtered on. -/
def gadgets : Table :=
  ⟨"gadgets", [⟨"id", .integer⟩, ⟨"extra", .json⟩]⟩

/-- A criterion with another column that its operation never looks at. -/
def soundCriterion : Criterion :=
  ⟨⟨"id", .integer⟩, .equal, false, some "7", none, some ⟨"extra", .json⟩⟩

/-- Both the other column and the type are at fault. -/
def faultyCriterion : Criterion :=
  ⟨⟨"extra", .json⟩, .equal, false, none, none, some ⟨"ghost", .text⟩⟩

/-- A record that can be read as a criterion. -/
def soundRecord : List (String × Json) :=
  [("field", .string "id"), ("operation", .string "LIKE")]

/-- It is read, but its column has a type without filters. -/
def unsupportedRecord : List (String × Json) :=
  [("field", .string "extra"), ("operation", .string "EQUAL"), ("columnValue", .string "id")]

/-- A record with a column that is not there and an operation that cannot be read. -/
def unreadRecord : List (String × Json) :=
  [("field", .string "ghost"), ("operation", .integer 1)]

/-- The other column goes before the type, and what cannot be read before what is unsupported. -/
theorem construction_reports_first_gadgets :
    (∃ selection, build gadgets [soundCriterion] = .ok (selection, [.built "gadgets" 1]) ∧
        selection.IsBuiltFrom gadgets [soundCriterion]) ∧
      build gadgets [soundCriterion, faultyCriterion] =
          .error (.unknownColumn "ghost" (some "gadgets")) ∧
        ofPayloads gadgets ([unsupportedRecord, unreadRecord].map Payload.ofEntries) =
            .error (.unknownColumn "ghost" none) ∧
          ofPayloads gadgets ([soundRecord, unsupportedRecord].map Payload.ofEntries) =
              .error (.unsupportedColumn "extra" "json") ∧
            ∃ criteria,
              ReadAs gadgets ([soundRecord, unsupportedRecord].map Payload.ofEntries) criteria ∧
                FirstUnsupported criteria (.unsupportedColumn "extra" "json") := by
  rcases construction_reports_first gadgets with
    ⟨refused_iff, _, accepted, unread_iff, unsupported, plain_iff⟩
  have admitted : ∀ criterion ∈ [soundCriterion], criterion.IsAdmitted gadgets := by
    simp only [List.mem_singleton, forall_eq]
    exact ⟨by decide, by rintro _ ⟨⟩; decide, rfl⟩
  have read : ReadAs gadgets ([soundRecord, unsupportedRecord].map Payload.ofEntries)
      [⟨⟨"id", .integer⟩, .like, false, none, none, none⟩,
        ⟨⟨"extra", .json⟩, .equal, false, none, none, some ⟨"id", .integer⟩⟩] :=
    .cons rfl (.cons rfl .nil)
  have failed :
      ofPayloads gadgets ([soundRecord, unsupportedRecord].map Payload.ofEntries) =
        .error (.unsupportedColumn "extra" "json") := by
    refine (plain_iff _ _ read _).mpr ⟨[_], _, [], rfl, ?_, rfl, rfl⟩
    exact List.forall_mem_singleton.mpr rfl
  refine ⟨accepted _ admitted, ?_, ?_, failed, unsupported _ _ _ failed⟩
  · have given : faultyCriterion.otherColumn? = some ⟨"ghost", .text⟩ := rfl
    have refused : faultyCriterion.Refused gadgets (.unknownColumn "ghost" (some "gadgets")) :=
      .otherColumn (by decide) given (by decide)
    exact (refused_iff _ _).mpr ⟨[soundCriterion], faultyCriterion, [], rfl, admitted, refused⟩
  · refine (unread_iff _ _).mpr (.inl ⟨[_], _, [], rfl, ?_, rfl⟩)
    exact List.forall_mem_singleton.mpr ⟨_, rfl⟩

end Selection

end Criteria
