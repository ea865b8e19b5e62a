import Criteria.Proofs.Predicate.Leaves
import Criteria.Sql.Rendering

/-!
# Parameters of a predicate

A parameter whose slot has a name already is not listed a second time, so a value could be lost if
two comparisons had one slot.  No two have, as long as each filter binds values in one comparison
only.  Then the parameters of a text hold the values of the comparisons, from left to right
(`values_render`).
-/

namespace Criteria

namespace Comparison

/-- What a comparison is bound to, from left to right. -/
def bindings : Comparison → List Binding
  | .value _ _ binding => [binding]
  | .column _ _ _ => []
  | .among _ bindings => bindings
  | .truth _ _ => []

/-- Whether a comparison has parameters; a membership test has one even if it lists nothing. -/
def isBound : Comparison → Bool
  | .value _ _ _ => true
  | .column _ _ _ => false
  | .among _ _ => true
  | .truth _ _ => false

end Comparison

/-- Where the parameters of some comparisons come from, each comparison counted once. -/
def Predicate.boundPositions (leaves : List (Nat × Comparison)) : List Nat :=
  (leaves.filter fun leaf => leaf.2.isBound).map Prod.fst

namespace Sql

/-- The values that a parameter stands for. -/
def Parameter.values : Parameter → List Value
  | .single value => [value]
  | .many values => values

/-- The values of some parameters, one parameter after another. -/
def parameterValues (parameters : List (String × Parameter)) : List Value :=
  parameters.flatMap fun parameter => parameter.2.values

/-! ## Fresh slots -/

/-- No slot of a filter has a name, from a number on. -/
def Naming.IsFreshFrom (naming : Naming) (position number : Nat) : Prop :=
  ∀ entry ∈ naming.names, entry.1.position = position → entry.1.number < number

section Fresh

variable {naming : Naming} {position number : Nat}

theorem Naming.IsFreshFrom.lookup
    (fresh : naming.IsFreshFrom position number) :
    naming.names.lookup ⟨position, number⟩ = none := by
  rw [List.lookup_eq_none_iff]
  intro entry member
  have smaller := fresh entry member
  rw [bne_iff_ne]
  intro same
  rw [← same] at smaller
  exact Nat.lt_irrefl _ (smaller rfl)

/-- Names given to other slots leave a slot fresh. -/
theorem Naming.IsFreshFrom.name
    (fresh : naming.IsFreshFrom position number) {slot : Slot}
    (apart : slot.position = position → slot.number < number)
    (base : String) (parameter : Parameter) :
    (naming.name slot base parameter).2.IsFreshFrom position number := by
  unfold Naming.name
  cases naming.names.lookup slot with
  | some name => exact fresh
  | none => exact List.forall_mem_cons.mpr ⟨apart, fresh⟩

/-- A fresh slot adds its parameter at the end. -/
theorem values_name
    (fresh : naming.IsFreshFrom position number) (base : String) (parameter : Parameter) :
    parameterValues (naming.name ⟨position, number⟩ base parameter).2.parameters =
      parameterValues naming.parameters ++ parameter.values := by
  simp [Naming.name, fresh.lookup, parameterValues]

theorem values_nameEach
    (fresh : naming.IsFreshFrom position number) (column : String) (bindings : List Binding) :
    parameterValues (naming.nameEach position column number bindings).2.parameters =
      parameterValues naming.parameters ++ bindings.map Binding.value := by
  induction bindings generalizing naming number with
  | nil => simp [Naming.nameEach]
  | cons binding rest induction =>
      have named := values_name fresh (baseFor column binding) (.single binding.value)
      have wider : naming.IsFreshFrom position (number + 1) :=
        fun entry member same => Nat.lt_succ_of_lt (fresh entry member same)
      have nextFresh :
          (naming.name ⟨position, number⟩ (baseFor column binding)
            (.single binding.value)).2.IsFreshFrom position (number + 1) :=
        wider.name (fun _ => Nat.lt_succ_self number) _ _
      have others := induction nextFresh
      simp only [Naming.nameEach, others, named, Parameter.values, List.append_assoc,
        List.map_cons, List.singleton_append]

theorem Naming.IsFreshFrom.nameEach
    {other : Nat} (fresh : naming.IsFreshFrom other 0) (apart : position ≠ other)
    (column : String) (bindings : List Binding) :
    (naming.nameEach position column number bindings).2.IsFreshFrom other 0 := by
  induction bindings generalizing naming number with
  | nil => exact fresh
  | cons binding rest induction =>
      exact induction (fresh.name (fun same => absurd same apart) _ _)

end Fresh

/-! ## Texts -/

section Texts

variable {naming : Naming} (table : String)

/-- A comparison adds the values that it is bound to, in their order. -/
theorem values_comparisonText
    {position : Nat} {comparison : Comparison}
    (fresh : comparison.isBound = true → naming.IsFreshFrom position 0) :
    parameterValues (comparisonText table position naming comparison).2.parameters =
      parameterValues naming.parameters ++ comparison.bindings.map Binding.value := by
  cases comparison with
  | value column relation binding =>
      exact values_name (fresh rfl) (baseFor column binding) (.single binding.value)
  | column column relation other => simp [comparisonText, Comparison.bindings]
  | truth column expected => simp [comparisonText, Comparison.bindings]
  | among column bindings =>
      cases someLiteral : bindings.any Binding.isLiteral with
      | true =>
          simp only [comparisonText, someLiteral, ↓reduceIte]
          exact values_nameEach (fresh rfl) column bindings
      | false =>
          simp only [comparisonText, someLiteral, Bool.false_eq_true, ↓reduceIte]
          exact values_name (fresh rfl) (baseName column) (.many (bindings.map Binding.value))

theorem Naming.IsFreshFrom.comparisonText
    {position other : Nat} {comparison : Comparison} (fresh : naming.IsFreshFrom other 0)
    (apart : comparison.isBound = true → position ≠ other) :
    (comparisonText table position naming comparison).2.IsFreshFrom other 0 := by
  cases comparison with
  | value column relation binding => exact fresh.name (fun same => absurd same (apart rfl)) _ _
  | column column relation other => exact fresh
  | truth column expected => exact fresh
  | among column bindings =>
      cases someLiteral : bindings.any Binding.isLiteral with
      | true =>
          simp only [Sql.comparisonText, someLiteral, ↓reduceIte]
          exact fresh.nameEach (apart rfl) column bindings
      | false =>
          simp only [Sql.comparisonText, someLiteral, Bool.false_eq_true, ↓reduceIte]
          exact fresh.name (fun same => absurd same (apart rfl)) _ _

/-- After a comparison, whose slots are used up, those of later comparisons are still fresh. -/
theorem fresh_after
    {position : Nat} {comparison : Comparison} {rest : List (Nat × Comparison)}
    (distinct : (Predicate.boundPositions ((position, comparison) :: rest)).Nodup)
    (fresh :
      ∀ other ∈ Predicate.boundPositions ((position, comparison) :: rest),
        naming.IsFreshFrom other 0) :
    (Predicate.boundPositions rest).Nodup ∧
      ∀ other ∈ Predicate.boundPositions rest,
        (comparisonText table position naming comparison).2.IsFreshFrom other 0 := by
  cases bound : comparison.isBound with
  | false =>
      simp only [Predicate.boundPositions, List.filter_cons, bound, Bool.false_eq_true,
        ↓reduceIte] at distinct fresh
      refine ⟨distinct, fun other member => ?_⟩
      exact (fresh other member).comparisonText table (by simp [bound])
  | true =>
      simp only [Predicate.boundPositions, List.filter_cons, bound, ↓reduceIte,
        List.map_cons, List.nodup_cons] at distinct fresh
      refine ⟨distinct.2, fun other member => ?_⟩
      refine (fresh other (List.mem_cons_of_mem _ member)).comparisonText table ?_
      rintro - rfl
      exact distinct.1 member

/-- The comparison that a token is, if it is one, with its position. -/
def Token.leaf? : Token → Option (Nat × Comparison)
  | .comparison position compared => some (position, compared)
  | .always | .and | .or | .opening | .closing => none

/-- The values of a row of tokens, from left to right, come after those of what is named before. -/
theorem values_tokenTexts
    {row : List Token}
    (distinct : (Predicate.boundPositions (row.filterMap Token.leaf?)).Nodup)
    (fresh :
      ∀ position ∈ Predicate.boundPositions (row.filterMap Token.leaf?),
        naming.IsFreshFrom position 0) :
    parameterValues (tokenTexts table naming row).2.parameters =
      parameterValues naming.parameters ++
        (row.filterMap Token.leaf?).flatMap fun leaf => leaf.2.bindings.map Binding.value := by
  induction row generalizing naming with
  | nil => simp [tokenTexts]
  | cons token rest induction =>
      cases token with
      | always | and | or | opening | closing => exact induction distinct fresh
      | comparison position comparison =>
          have leaves :
              (Token.comparison position comparison :: rest).filterMap Token.leaf? =
                (position, comparison) :: rest.filterMap Token.leaf? := rfl
          rw [leaves] at distinct fresh ⊢
          have written :
              parameterValues (comparisonText table position naming comparison).2.parameters =
                parameterValues naming.parameters ++ comparison.bindings.map Binding.value := by
            apply values_comparisonText
            intro bound
            exact fresh position (by simp [Predicate.boundPositions, bound])
          rcases fresh_after table distinct fresh with ⟨restDistinct, restFresh⟩
          have others := induction restDistinct restFresh
          calc
            parameterValues
                (tokenTexts table naming (.comparison position comparison :: rest)).2.parameters =
                parameterValues (tokenTexts table
                  (comparisonText table position naming comparison).2 rest).2.parameters := rfl
            _ = _ := by rw [others, written, List.flatMap_cons, List.append_assoc]

end Texts

/-! ## The tokens of a tree -/

mutual

/-- The comparisons among the tokens of a predicate are those of the predicate. -/
theorem leaves_tokens (predicate : Predicate) :
    (tokens predicate).filterMap Token.leaf? = predicate.leaves := by
  cases predicate with
  | unrestricted | always | leaf position comparison => rfl
  | all operands => exact leaves_conjunctionTokens operands
  | any operands => exact leaves_disjunctionTokens operands

theorem leaves_conjunctionTokens (operands : List Predicate) :
    (conjunctionTokens operands).filterMap Token.leaf? = Predicate.leavesOf operands := by
  match operands with
  | [] => rfl
  | [operand] => simp [conjunctionTokens, Predicate.leavesOf, leaves_operandTokens operand]
  | operand :: next :: rest =>
      have first := leaves_operandTokens operand
      have others := leaves_conjunctionTokens (next :: rest)
      rw [conjunctionTokens, List.filterMap_append, first, Predicate.leavesOf, ← others]
      rfl

theorem leaves_operandTokens (operand : Predicate) :
    (operandTokens operand).filterMap Token.leaf? = operand.leaves := by
  cases operand with
  | unrestricted | always | leaf position comparison => rfl
  | all operands => exact leaves_conjunctionTokens operands
  | any operands =>
      have inner := leaves_disjunctionTokens operands
      have closing : [Token.closing].filterMap Token.leaf? = [] := rfl
      calc
        (operandTokens (.any operands)).filterMap Token.leaf? =
            (disjunctionTokens operands ++ [Token.closing]).filterMap Token.leaf? := rfl
        _ = Predicate.leavesOf operands := by
            rw [List.filterMap_append, inner, closing, List.append_nil]

theorem leaves_disjunctionTokens (operands : List Predicate) :
    (disjunctionTokens operands).filterMap Token.leaf? = Predicate.leavesOf operands := by
  match operands with
  | [] => rfl
  | [operand] => simp [disjunctionTokens, Predicate.leavesOf, leaves_tokens operand]
  | operand :: next :: rest =>
      have first := leaves_tokens operand
      have others := leaves_disjunctionTokens (next :: rest)
      rw [disjunctionTokens, List.filterMap_append, first, Predicate.leavesOf, ← others]
      rfl

end

/-- No value of a predicate is lost, and none is bound twice or at another's place. -/
theorem values_render
    (table : String) {predicate : Predicate}
    (distinct : (Predicate.boundPositions predicate.leaves).Nodup) :
    parameterValues (render table predicate).parameters =
      (predicate.comparisons.flatMap Comparison.bindings).map Binding.value := by
  have written : parameterValues (tokenTexts table .empty (tokens predicate)).2.parameters =
      predicate.leaves.flatMap fun leaf => leaf.2.bindings.map Binding.value := by
    rw [← leaves_tokens predicate] at distinct ⊢
    refine values_tokenTexts table distinct ?_
    intro position _ entry member
    exact absurd member List.not_mem_nil
  calc
    parameterValues (render table predicate).parameters =
        predicate.leaves.flatMap fun leaf => leaf.2.bindings.map Binding.value := written
    _ = (predicate.comparisons.flatMap Comparison.bindings).map Binding.value := by
        rw [Predicate.comparisons, List.flatMap_map, List.map_flatMap]

end Sql

end Criteria
