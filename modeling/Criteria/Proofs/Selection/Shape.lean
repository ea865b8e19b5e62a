import Criteria.Proofs.Selection.Run
import Criteria.Proofs.Sql.Shape

/-!
# Text without values

Two lists of filters may differ in the values that clients gave, and in nothing else that the
compiler looks at: which of two kinds a token is, and which texts convert.  `text_eq_of_sameShape`
says that the texts of their predicates are the same then, down to the names of the parameters.  So
nothing that a client gives as a value reaches the text of a statement.
-/

namespace Criteria

/-- Whether a text converts to a value of the type of the column. -/
def Column.converts [Machine] (column : Column) (text : String) : Bool :=
  match Conversion.ofText column.type text with
  | .value _ => true
  | .unreadable | .noRoom => false

/-- That two criteria differ only in values, which the compiler treats in the same way. -/
structure Criterion.SameShape [Machine] (first second : Criterion) : Prop where
  column : first.column = second.column
  operation : first.operation = second.operation
  isOr : first.isOr = second.isOr
  otherColumn : first.otherColumn? = second.otherColumn?
  value : first.value?.isSome = second.value?.isSome
  values : first.values?.isSome = second.values?.isSome
  token :
    first.operation = .truth → first.value?.map isTrueToken = second.value?.map isTrueToken
  conversion :
    first.operation.scalarRelation?.isSome = true →
      first.value?.map first.column.converts = second.value?.map second.column.converts
  /-- Either no text of a list is a literal, whatever the lengths, or the same ones are. -/
  items :
    first.operation = .oneOf →
      (first.values?.all (fun texts => texts.all first.column.converts) = true ∧
          second.values?.all (fun texts => texts.all second.column.converts) = true) ∨
        first.values?.map (fun texts => texts.map first.column.converts) =
          second.values?.map (fun texts => texts.map second.column.converts)

section Machine

variable [Machine]

/-! ## Bindings -/

namespace Binding

/-- The shape of what is bound for a text, given whether the text converts. -/
def shapeOf (converts : Bool) : Binding :=
  if converts then .converted .anonymous else .literal ""

/-- Of what is bound for a text, the shape tells only whether the text converts. -/
theorem shape_of_ofText
    {column : Column} {text : String} {binding : Binding}
    (bound : ofText column.type text = .ok binding) :
    binding.shape = shapeOf (column.converts text) := by
  unfold ofText at bound
  unfold Column.converts
  cases converted : Conversion.ofText column.type text with
  | value value =>
      rw [converted] at bound
      cases bound
      rfl
  | unreadable =>
      rw [converted] at bound
      cases bound
      rfl
  | noRoom =>
      rw [converted] at bound
      cases bound

theorem map_shape_of_mapM
    {column : Column} {texts : List String} {bindings : List Binding}
    (bound : texts.mapM (ofText column.type) = .ok bindings) :
    bindings.map shape = (texts.map column.converts).map shapeOf := by
  rw [mapM_eq_ok_iff] at bound
  induction bound with
  | nil => rfl
  | cons first _ induction => rw [List.map_cons, shape_of_ofText first, induction]; rfl

end Binding

/-- Of a list of values, the shape tells which of them convert, unless all do. -/
theorem Comparison.among_shape
    {column : Column} {texts : List String} {bindings : List Binding}
    (bound : texts.mapM (Binding.ofText column.type) = .ok bindings) (name : String) :
    (Comparison.among name bindings).shape =
      .among name
        (if (texts.map column.converts).all id then []
        else (texts.map column.converts).map Binding.shapeOf) := by
  have shapes := Binding.map_shape_of_mapM bound
  have isLiteral (converts : Bool) : (Binding.shapeOf converts).isLiteral = !converts := by
    cases converts <;> rfl
  have someLiteral :
      bindings.any Binding.isLiteral = !(texts.map column.converts).all id := by
    calc
      bindings.any Binding.isLiteral = (bindings.map Binding.shape).any Binding.isLiteral := by
          simp [List.any_map, Function.comp_def]
      _ = !(texts.map column.converts).all id := by
          rw [shapes, List.any_map, List.not_all_eq_any_not]
          simp [Function.comp_def, isLiteral]
  rw [Comparison.shape, someLiteral, shapes]
  cases (texts.map column.converts).all id <;> rfl

/-! ## Filters -/

namespace Filter

variable {first second : Filter} {table : Table}

variable (same : first.criterion.SameShape second.criterion)

include same

/-- Texts that both convert, or both do not, are bound in one shape. -/
theorem shape_eq_of_ofText
    (scalar : first.criterion.operation.scalarRelation?.isSome = true)
    {firstText secondText : String} (firstGiven : first.criterion.value? = some firstText)
    (secondGiven : second.criterion.value? = some secondText)
    {left right : Binding}
    (leftOk : Binding.ofText first.criterion.column.type firstText = .ok left)
    (rightOk : Binding.ofText second.criterion.column.type secondText = .ok right) :
    left.shape = right.shape := by
  have conversion := same.conversion scalar
  rw [firstGiven, secondGiven, Option.map_some, Option.map_some, Option.some.injEq,
    same.column] at conversion
  rw [same.column] at leftOk
  rw [Binding.shape_of_ofText leftOk, Binding.shape_of_ofText rightOk, conversion]

/-- Equations of filters that differ only in values have one shape. -/
theorem equation_shape
    (scalar : first.criterion.operation.scalarRelation?.isSome = true)
    {column : String} {relation : Relation} {left right : Comparison}
    (firstOk : first.equation table column relation = .ok left)
    (secondOk : second.equation table column relation = .ok right) :
    left.shape = right.shape := by
  have present := same.value
  unfold equation at firstOk secondOk
  cases firstGiven : first.criterion.value? with
  | some firstText =>
      rw [firstGiven, Option.isSome_some] at present
      rcases Option.isSome_iff_exists.mp present.symm with ⟨secondText, secondGiven⟩
      rw [firstGiven] at firstOk
      rw [secondGiven] at secondOk
      rcases map_eq_ok_iff.mp firstOk with ⟨left, leftOk, rfl⟩
      rcases map_eq_ok_iff.mp secondOk with ⟨right, rightOk, rfl⟩
      rw [Comparison.shape, Comparison.shape,
        shape_eq_of_ofText same scalar firstGiven secondGiven leftOk rightOk]
  | none =>
      rw [firstGiven, Option.isSome_none] at present
      have secondAbsent := Option.isSome_eq_false_iff.mp present.symm
      rw [Option.isNone_iff_eq_none] at secondAbsent
      rw [firstGiven, same.otherColumn] at firstOk
      rw [secondAbsent, ← same.column] at secondOk
      have equal := firstOk.symm.trans secondOk
      cases equal
      rfl

theorem inequality_shape
    (scalar : first.criterion.operation.scalarRelation?.isSome = true)
    {column : String} {relation : Relation} {left right : Comparison}
    (firstOk : first.inequality column relation = .ok left)
    (secondOk : second.inequality column relation = .ok right) :
    left.shape = right.shape := by
  rcases bind_eq_ok_iff.mp firstOk with ⟨firstText, firstGiven, firstOk⟩
  rcases bind_eq_ok_iff.mp secondOk with ⟨secondText, secondGiven, secondOk⟩
  rcases map_eq_ok_iff.mp firstOk with ⟨left, leftOk, rfl⟩
  rcases map_eq_ok_iff.mp secondOk with ⟨right, rightOk, rfl⟩
  rw [value_eq_ok_iff] at firstGiven secondGiven
  rw [Comparison.shape, Comparison.shape,
    shape_eq_of_ofText same scalar firstGiven secondGiven leftOk rightOk]

/-- So have membership tests, unless different items of the lists convert. -/
theorem membership_shape
    (operation : first.criterion.operation = .oneOf)
    {column : String} {left right : Comparison}
    (firstOk : first.membership column = .ok left)
    (secondOk : second.membership column = .ok right) :
    left.shape = right.shape := by
  rcases bind_eq_ok_iff.mp firstOk with ⟨firstTexts, firstGiven, firstOk⟩
  rcases bind_eq_ok_iff.mp secondOk with ⟨secondTexts, secondGiven, secondOk⟩
  rcases map_eq_ok_iff.mp firstOk with ⟨left, leftOk, rfl⟩
  rcases map_eq_ok_iff.mp secondOk with ⟨right, rightOk, rfl⟩
  rw [Comparison.among_shape leftOk, Comparison.among_shape rightOk]
  have items := same.items operation
  simp only [values_eq_ok_iff.mp firstGiven, values_eq_ok_iff.mp secondGiven, Option.all_some,
    Option.map_some, Option.some.injEq, ← same.column] at items
  rw [← same.column]
  rcases items with ⟨firstConvert, secondConvert⟩ | samePattern
  · rw [List.all_map, List.all_map, Function.id_comp, firstConvert, secondConvert, if_pos rfl,
      if_pos rfl]
  · rw [samePattern]

/-- Filters that differ only in values have predicates of one shape, where they have any. -/
theorem predicate_shape
    {position : Nat} {left right : Predicate}
    (firstOk : first.predicate table position = .ok left)
    (secondOk : second.predicate table position = .ok right) :
    left.shape = right.shape := by
  rcases bind_eq_ok_iff.mp firstOk with ⟨firstColumn, firstFound, firstOk⟩
  rcases bind_eq_ok_iff.mp secondOk with ⟨secondColumn, secondFound, secondOk⟩
  have sameColumn : firstColumn = secondColumn := by
    rw [eq_of_columnIn firstFound, eq_of_columnIn secondFound, same.column]
  subst sameColumn
  have sameOperation := same.operation
  cases operation : first.criterion.operation with
  | equal | notEqual =>
      have scalar : first.criterion.operation.scalarRelation?.isSome = true := by
        rw [operation]
        rfl
      rw [operation] at sameOperation
      simp only [operation, ← sameOperation, map_eq_ok_iff] at firstOk secondOk
      rcases firstOk with ⟨left, leftOk, rfl⟩
      rcases secondOk with ⟨right, rightOk, rfl⟩
      rw [Predicate.shape, Predicate.shape, equation_shape same scalar leftOk rightOk]
  | greaterThan | lessThan =>
      have scalar : first.criterion.operation.scalarRelation?.isSome = true := by
        rw [operation]
        rfl
      rw [operation] at sameOperation
      simp only [operation, ← sameOperation, map_eq_ok_iff] at firstOk secondOk
      rcases firstOk with ⟨left, leftOk, rfl⟩
      rcases secondOk with ⟨right, rightOk, rfl⟩
      rw [Predicate.shape, Predicate.shape, inequality_shape same scalar leftOk rightOk]
  | like | notLike =>
      rw [operation] at sameOperation
      simp only [operation, ← sameOperation, map_eq_ok_iff, pattern] at firstOk secondOk
      rcases firstOk with ⟨_, ⟨firstText, _, rfl⟩, rfl⟩
      rcases secondOk with ⟨_, ⟨secondText, _, rfl⟩, rfl⟩
      rfl
  | oneOf =>
      rw [operation] at sameOperation
      simp only [operation, ← sameOperation, map_eq_ok_iff] at firstOk secondOk
      rcases firstOk with ⟨left, leftOk, rfl⟩
      rcases secondOk with ⟨right, rightOk, rfl⟩
      rw [Predicate.shape, Predicate.shape, membership_shape same operation leftOk rightOk]
  | truth =>
      have token := same.token operation
      rw [operation] at sameOperation
      simp only [operation, ← sameOperation, map_eq_ok_iff, value_eq_ok_iff] at firstOk secondOk
      rcases firstOk with ⟨firstToken, firstGiven, rfl⟩
      rcases secondOk with ⟨secondToken, secondGiven, rfl⟩
      rw [firstGiven, secondGiven, Option.map_some, Option.map_some, Option.some.injEq] at token
      rw [token]

end Filter

namespace Selection

variable {table : Table}

/-- Filters that differ only in values are joined to predicates of one shape. -/
theorem compileOnto_shape
    {first second : List Filter}
    (same : List.Forall₂ (fun left right => left.criterion.SameShape right.criterion) first second)
    {firstBefore secondBefore firstResult secondResult : Predicate} {position : Nat}
    (sameBefore : firstBefore.shape = secondBefore.shape)
    (firstOk : compileOnto table firstBefore position first = .ok firstResult)
    (secondOk : compileOnto table secondBefore position second = .ok secondResult) :
    firstResult.shape = secondResult.shape := by
  -- What the earlier filters gave differs in values too, so only its shape is carried along.
  induction same generalizing firstBefore secondBefore position with
  | nil =>
      cases firstOk
      cases secondOk
      exact sameBefore
  | cons sameFilter _ induction =>
      rcases bind_eq_ok_iff.mp firstOk with ⟨firstLeaf, firstLeafOk, firstOk⟩
      rcases bind_eq_ok_iff.mp secondOk with ⟨secondLeaf, secondLeafOk, secondOk⟩
      refine induction ?_ firstOk secondOk
      rw [Predicate.shape_join, Predicate.shape_join, sameBefore, sameFilter.isOr,
        Filter.predicate_shape sameFilter firstLeafOk secondLeafOk]

end Selection

end Machine

namespace Selection

/-- One of two values that may not convert, or a given name; and a token for false. -/
def memberCriteria (values : List String) (name token : String) : List Criterion :=
  [⟨⟨"age", .integer⟩, .oneOf, false, none, some values, none⟩,
    ⟨⟨"name", .string⟩, .equal, true, some name, none, none⟩,
    ⟨⟨"active", .boolean⟩, .truth, false, some token, none, none⟩]

/-- The selection that is built from these criteria. -/
def memberSelection (values : List String) (name token : String) : Selection :=
  ⟨people, List.zipWith Filter.mk (memberCriteria values name token) [.numeric, .string, .boolean],
    .unvalidated⟩

/-- A value that does not convert is a parameter of its own, and so are those beside it. -/
example :
    ((compile people (memberSelection ["25", "0) OR (1 = 1"] "me" "F").filters).toOption.map
        fun predicate => (Sql.render "people" predicate).sql) =
      some ("(people.age IN (:age_1, :param_1) OR people.name = :name_1) AND " ++
        "(people.active = true OR people.active = false)") := by
  decide

end Selection

end Criteria
