import Criteria.Predicate.OfFilter
import Criteria.Proofs.Filter.Validity
import Criteria.Proofs.Selection.Construction
import Criteria.Proofs.Value.Conversion

/-!
# The predicates of filters

Compilation takes its steps on what a filter may lack: its columns in the table, a value, another
column, a list.  First each kind of operation is settled, given that what it needs is there.  Then
`IsValid.compiles` puts together which rule, or which check at construction, sees to each of these
needs: a valid filter that fits its table has a predicate, if there is room for the integers that
its values write.  The predicate has the same form at every position: one comparison, or the two
comparisons with a truth value.
-/

namespace Criteria

/-- That any of some comparisons holds, all of them from the filter at a position. -/
def Predicate.ofComparisons (position : Nat) : List Comparison → Predicate
  | [comparison] => .leaf position comparison
  | comparisons => .any (comparisons.map (.leaf position))

/-- Where the filter stands does not matter to what its comparisons mean. -/
theorem Predicate.meaning_ofComparisons
    (assignment : Comparison → Truth) (first second : Nat) (comparisons : List Comparison) :
    (ofComparisons first comparisons).meaning assignment =
      (ofComparisons second comparisons).meaning assignment := by
  have same :
      meaningAny assignment (comparisons.map (.leaf first)) =
        meaningAny assignment (comparisons.map (.leaf second)) := by
    induction comparisons with
    | nil => rfl
    | cons comparison rest induction =>
        simp only [List.map_cons, meaningAny, meaning, induction]
  cases comparisons with
  | nil => exact same
  | cons comparison rest =>
      cases rest with
      | nil => rfl
      | cons next others => exact same

namespace Operation

/-- How an operation relates a column to one value of the column's type, if it does. -/
def scalarRelation? : Operation → Option Relation
  | .equal => some .equal
  | .notEqual => some .notEqual
  | .greaterThan => some .greater
  | .lessThan => some .less
  | .like | .notLike | .oneOf | .truth => none

/-- How an operation relates a column to a pattern, if it does. -/
def patternRelation? : Operation → Option Relation
  | .like => some .like
  | .notLike => some .notLike
  | .equal | .notEqual | .greaterThan | .lessThan | .oneOf | .truth => none

end Operation

/-! ## What is converted -/

/-- The texts that a criterion has converted to values of its column's type. -/
def Criterion.convertedTexts (criterion : Criterion) : List String :=
  match criterion.operation with
  | .equal | .notEqual | .greaterThan | .lessThan => criterion.value?.toList
  | .oneOf => criterion.values?.getD []
  | .like | .notLike | .truth => []

/-- An operation on one value has that value converted, if there is one. -/
theorem Criterion.convertedTexts_of_scalar
    {criterion : Criterion} {relation : Relation}
    (related : criterion.operation.scalarRelation? = some relation) :
    criterion.convertedTexts = criterion.value?.toList := by
  unfold convertedTexts
  cases operation : criterion.operation with
  | equal | notEqual | greaterThan | lessThan => rfl
  | like | notLike | oneOf | truth =>
      rw [operation] at related
      cases related

/-- Whether there is room for all values that a criterion has converted. -/
def Criterion.HasRoom [Machine] (criterion : Criterion) : Prop :=
  ∀ text ∈ criterion.convertedTexts, Binding.HasRoom criterion.column.type text

instance [Machine] (criterion : Criterion) : Decidable criterion.HasRoom :=
  inferInstanceAs (Decidable (∀ _ ∈ _, _))

/-- If there is no room for one of several values, none of them is bound. -/
theorem Binding.mapM_ofText_of_not_hasRoom [Machine] {type : ColumnType} {texts : List String}
    (lack : ¬ ∀ text ∈ texts, HasRoom type text) :
    texts.mapM (ofText type) = .error .noRoom := by
  simp only [← exists_ofText_iff_hasRoom] at lack
  rw [← exists_mapM_eq_ok_iff, ← exists_eq_error_iff] at lack
  rcases lack with ⟨error, failed⟩
  rcases mapM_eq_error_iff.mp failed with ⟨_, text, _, _, _, textFailed⟩
  rw [failed, (ofText_eq_error_iff.mp textFailed).2]

namespace Filter

variable {filter : Filter} {table : Table}

theorem columnIn_of_hasColumn
    {name : String} (found : table.hasColumn name = true) :
    columnIn table name = .ok name := by
  simp [columnIn, found]

theorem eq_of_columnIn {name found : String} (present : columnIn table name = .ok found) :
    found = name := by
  unfold columnIn at present
  cases known : table.hasColumn name with
  | false => simp [known] at present
  | true => simpa [known] using present.symm

theorem value_eq_ok_iff {defect : Defect} {text : String} :
    filter.value defect = .ok text ↔ filter.criterion.value? = some text := by
  unfold value
  cases filter.criterion.value? <;> simp

theorem values_eq_ok_iff {texts : List String} :
    filter.values = .ok texts ↔ filter.criterion.values? = some texts := by
  unfold values
  cases filter.criterion.values? <;> simp

theorem IsValid.exists_value
    (valid : filter.IsValid) (single : filter.criterion.operation ≠ .oneOf)
    (compares : filter.criterion.operation.comparesColumns = false) :
    ∃ text, filter.criterion.value? = some text :=
  Option.isSome_iff_exists.mp (valid.value single compares)

variable [Machine]

/-! ## One kind of operation after another -/

/-- A value that is given is bound, whatever other column is given beside it. -/
theorem predicate_of_value
    (found : table.hasColumn filter.criterion.column.name = true)
    {relation : Relation} (related : filter.criterion.operation.scalarRelation? = some relation)
    {text : String} (given : filter.criterion.value? = some text) (position : Nat) :
    filter.predicate table position =
      (Binding.ofText filter.criterion.column.type text).map fun binding =>
        .leaf position (.value filter.criterion.column.name relation binding) := by
  have column := columnIn_of_hasColumn found
  unfold predicate
  rw [column]
  cases operation : filter.criterion.operation <;>
    simp only [operation, Operation.scalarRelation?, Option.some.injEq, reduceCtorEq] at related <;>
    subst related <;>
    simp only [equation, inequality, value, given, bind, Except.bind] <;>
    cases Binding.ofText filter.criterion.column.type text <;> rfl

/-- Without a value, the column is compared with the other column. -/
theorem predicate_of_column
    (found : table.hasColumn filter.criterion.column.name = true)
    {relation : Relation} (related : filter.criterion.operation.scalarRelation? = some relation)
    (compares : filter.criterion.operation.comparesColumns = true)
    (absent : filter.criterion.value? = none)
    {other : Column} (given : filter.criterion.otherColumn? = some other)
    (otherFound : table.hasColumn other.name = true) (position : Nat) :
    filter.predicate table position =
      .ok (.leaf position (.column filter.criterion.column.name relation other.name)) := by
  have column := columnIn_of_hasColumn found
  have otherColumn := columnIn_of_hasColumn otherFound
  unfold predicate
  rw [column]
  cases operation : filter.criterion.operation <;>
    simp only [operation, Operation.scalarRelation?, Option.some.injEq, reduceCtorEq] at related <;>
    simp only [operation, Operation.comparesColumns] at compares <;>
    subst related <;>
    simp_all [equation, bind, Except.bind, Except.map]

/-- A pattern is bound as it stands, whatever the type of the column. -/
theorem predicate_of_pattern
    (found : table.hasColumn filter.criterion.column.name = true)
    {relation : Relation} (related : filter.criterion.operation.patternRelation? = some relation)
    {text : String} (given : filter.criterion.value? = some text) (position : Nat) :
    filter.predicate table position =
      .ok (.leaf position (.value filter.criterion.column.name relation
        (.converted (.text text)))) := by
  have column := columnIn_of_hasColumn found
  unfold predicate
  rw [column]
  cases operation : filter.criterion.operation <;>
    simp only [operation, Operation.patternRelation?, Option.some.injEq, reduceCtorEq]
      at related <;>
    subst related <;>
    simp [pattern, value, given, bind, Except.bind, Except.map]

/-- The values of a list are bound one by one, in the order of the list. -/
theorem predicate_of_values
    (found : table.hasColumn filter.criterion.column.name = true)
    (operation : filter.criterion.operation = .oneOf)
    {texts : List String} (given : filter.criterion.values? = some texts) (position : Nat) :
    filter.predicate table position =
      (texts.mapM (Binding.ofText filter.criterion.column.type)).map fun bindings =>
        .leaf position (.among filter.criterion.column.name bindings) := by
  have column := columnIn_of_hasColumn found
  simp only [predicate, column, operation, membership, values, given, bind, Except.bind]
  cases texts.mapM (Binding.ofText filter.criterion.column.type) <;> rfl

/-- The comparisons with a truth value that a token asks for. -/
def tokenComparisons (column token : String) : List Comparison :=
  if isTrueToken token then [.truth column true] else [.truth column true, .truth column false]

/-- A token decides which truth values the column is compared with. -/
theorem predicate_of_token
    (found : table.hasColumn filter.criterion.column.name = true)
    (operation : filter.criterion.operation = .truth)
    {token : String} (given : filter.criterion.value? = some token) (position : Nat) :
    filter.predicate table position =
      .ok (.ofComparisons position (tokenComparisons filter.criterion.column.name token)) := by
  have column := columnIn_of_hasColumn found
  unfold predicate tokenComparisons
  rw [column]
  cases isTrue : isTrueToken token with
  | true =>
      simp [operation, value, given, isTrue, Predicate.ofComparisons, bind, Except.bind, Except.map]
  | false =>
      simp [operation, value, given, isTrue, Predicate.ofComparisons, Predicate.or,
        Predicate.disjuncts, bind, Except.bind, Except.map]

/--
Whatever a filter compiles to is one comparison, or both comparisons with a truth value, and it
makes the same comparisons at every other position.
-/
theorem exists_comparisons
    {position : Nat} {predicate : Predicate}
    (compiled : filter.predicate table position = .ok predicate) :
    ∃ comparisons,
      ((∃ comparison, comparisons = [comparison]) ∨
        ∃ column, comparisons = [.truth column true, .truth column false]) ∧
      predicate = .ofComparisons position comparisons ∧
        ∀ place, filter.predicate table place = .ok (.ofComparisons place comparisons) := by
  rcases bind_eq_ok_iff.mp compiled with ⟨column, found, compiled⟩
  cases operation : filter.criterion.operation with
  | truth =>
      simp only [operation, map_eq_ok_iff] at compiled
      rcases compiled with ⟨token, given, rfl⟩
      cases isTrue : isTrueToken token with
      | true =>
          refine ⟨[.truth column true], .inl ⟨_, rfl⟩, rfl, fun place => ?_⟩
          refine bind_eq_ok_iff.mpr ⟨column, found, ?_⟩
          simp only [operation, given, Except.map, isTrue]
          rfl
      | false =>
          refine ⟨[.truth column true, .truth column false], .inr ⟨column, rfl⟩, rfl, ?_⟩
          intro place
          refine bind_eq_ok_iff.mpr ⟨column, found, ?_⟩
          simp only [operation, given, Except.map, isTrue]
          rfl
  | equal | notEqual | greaterThan | lessThan | like | notLike | oneOf =>
      simp only [operation, map_eq_ok_iff] at compiled
      rcases compiled with ⟨comparison, made, rfl⟩
      refine ⟨[comparison], .inl ⟨comparison, rfl⟩, rfl, fun place => ?_⟩
      refine bind_eq_ok_iff.mpr ⟨column, found, ?_⟩
      simp only [operation, made, Except.map]
      rfl

/-- There are only two forms that the predicate of a filter can have. -/
theorem predicate_cases
    {position : Nat} {predicate : Predicate}
    (compiled : filter.predicate table position = .ok predicate) :
    (∃ comparison, predicate = .leaf position comparison) ∨
      ∃ column, predicate =
        .any [.leaf position (.truth column true), .leaf position (.truth column false)] := by
  rcases exists_comparisons compiled with
    ⟨_, ⟨comparison, rfl⟩ | ⟨column, rfl⟩, rfl, _⟩
  · exact .inl ⟨comparison, rfl⟩
  · exact .inr ⟨column, rfl⟩

/-! ## Valid filters -/

/-- A value that is given is the only text that needs room. -/
theorem hasRoom_iff_of_value
    {relation : Relation} (related : filter.criterion.operation.scalarRelation? = some relation)
    {text : String} (given : filter.criterion.value? = some text) :
    filter.criterion.HasRoom ↔ Binding.HasRoom filter.criterion.column.type text := by
  rw [Criterion.HasRoom, Criterion.convertedTexts_of_scalar related, given, Option.toList_some,
    List.forall_mem_singleton]

/-- What a filter comes to: comparisons, the same at every position, unless there is no room. -/
inductive Compiles (filter : Filter) (table : Table) : Prop where
  | room (comparisons : List Comparison) (hasRoom : filter.criterion.HasRoom)
      (compiled : ∀ position,
        filter.predicate table position = .ok (.ofComparisons position comparisons))
  | noRoom (lack : ¬ filter.criterion.HasRoom)
      (failed : ∀ position, filter.predicate table position = .error .noRoom)

/-- A filter with a value compiles exactly if there is room for it. -/
theorem compiles_of_value
    (found : table.hasColumn filter.criterion.column.name = true)
    {relation : Relation} (related : filter.criterion.operation.scalarRelation? = some relation)
    {text : String} (given : filter.criterion.value? = some text) : filter.Compiles table := by
  have predicate := predicate_of_value found related given
  have room_iff := hasRoom_iff_of_value related given
  by_cases room : Binding.HasRoom filter.criterion.column.type text
  · rcases Binding.exists_ofText_iff_hasRoom.mpr room with ⟨binding, bound⟩
    refine .room [.value filter.criterion.column.name relation binding] (room_iff.mpr room) ?_
    intro position
    rw [predicate, bound]
    rfl
  · refine .noRoom (mt room_iff.mp room) fun position => ?_
    rw [predicate, Binding.ofText_eq_error_iff.mpr ⟨room, rfl⟩]
    rfl

/-- A filter with a list compiles exactly if there is room for all values in it. -/
theorem compiles_of_values
    (found : table.hasColumn filter.criterion.column.name = true)
    (operation : filter.criterion.operation = .oneOf)
    {texts : List String} (given : filter.criterion.values? = some texts) :
    filter.Compiles table := by
  have predicate := predicate_of_values found operation given
  have room_iff : filter.criterion.HasRoom ↔
      ∀ text ∈ texts, Binding.HasRoom filter.criterion.column.type text := by
    simp only [Criterion.HasRoom, Criterion.convertedTexts, operation, given, Option.getD_some]
  by_cases room : ∀ text ∈ texts, Binding.HasRoom filter.criterion.column.type text
  · have each := fun text member => Binding.exists_ofText_iff_hasRoom.mpr (room text member)
    rcases exists_mapM_eq_ok_iff.mpr each with ⟨bindings, bound⟩
    refine .room [.among filter.criterion.column.name bindings] (room_iff.mpr room) ?_
    intro position
    rw [predicate, bound]
    rfl
  · refine .noRoom (mt room_iff.mp room) fun position => ?_
    rw [predicate, Binding.mapM_ofText_of_not_hasRoom room]
    rfl

/-- A filter that has nothing converted needs no room. -/
theorem compiles_of_nothing_converted
    (nothing : filter.criterion.convertedTexts = []) (comparisons : List Comparison)
    (compiled : ∀ position,
      filter.predicate table position = .ok (.ofComparisons position comparisons)) :
    filter.Compiles table := by
  refine .room comparisons ?_ compiled
  rw [Criterion.HasRoom, nothing]
  exact List.forall_mem_nil _

/-- A valid filter that may compare two columns does so if it has no value. -/
theorem compiles_of_comparesColumns
    (fits : filter.Fits table) (valid : filter.IsValid)
    {relation : Relation} (related : filter.criterion.operation.scalarRelation? = some relation)
    (compares : filter.criterion.operation.comparesColumns = true) : filter.Compiles table := by
  cases given : filter.criterion.value? with
  | some text => exact compiles_of_value fits.column related given
  | none =>
      cases other : filter.criterion.otherColumn? with
      | none =>
          have operand := valid.operand compares
          simp [given, other] at operand
      | some column =>
          have otherFound := fits.otherColumn column other
          refine compiles_of_nothing_converted ?_ [_]
            (predicate_of_column fits.column related compares given other otherFound)
          rw [Criterion.convertedTexts_of_scalar related, given, Option.toList_none]

/-- A valid filter that fits its table lacks nothing but room. -/
theorem IsValid.compiles (valid : filter.IsValid) (fits : filter.Fits table) :
    filter.Compiles table := by
  cases operation : filter.criterion.operation with
  | equal | notEqual =>
      exact compiles_of_comparesColumns fits valid
        (by rw [operation]; rfl) (by rw [operation]; rfl)
  | greaterThan | lessThan =>
      rcases valid.exists_value (by simp [operation]) (by rw [operation]; rfl) with ⟨text, given⟩
      exact compiles_of_value fits.column (by rw [operation]; rfl) given
  | like | notLike =>
      rcases valid.exists_value (by simp [operation]) (by rw [operation]; rfl) with ⟨text, given⟩
      exact compiles_of_nothing_converted (by rw [Criterion.convertedTexts, operation]) [_]
        (predicate_of_pattern fits.column (by rw [operation]; rfl) given)
  | oneOf =>
      rcases Option.isSome_iff_exists.mp (valid.values operation) with ⟨texts, given⟩
      exact compiles_of_values fits.column operation given
  | truth =>
      rcases valid.token operation with ⟨token, given, _⟩
      exact compiles_of_nothing_converted (by rw [Criterion.convertedTexts, operation]) _
        (predicate_of_token fits.column operation given)

end Filter

end Criteria
