import Criteria.Proofs.Predicate.Proper
import Criteria.Proofs.Sql.Grammar
import Criteria.Sql.Rendering

/-!
# Reading what was written

The text of a predicate is a sequence of texts: comparisons, connectives and parentheses.  Read by
the grammar of conditions, it says what the predicate means, and there is no other way to read it
(`reads_signs`).  Parentheses stand where a disjunction is an operand of a conjunction, which is
where they are needed; chains under one connective may be written without any, since the connectives
are associative.
-/

namespace Criteria

namespace Sql

/-- The sign that a text is.  Whatever is no connective and no parenthesis is a leaf. -/
def Sign.ofText {α : Type} (text : String) (value : α) : Sign α :=
  if text = " AND " then .connective .and
  else if text = " OR " then .connective .or
  else if text = "(" then .opening
  else if text = ")" then .closing
  else .leaf value

/-- What a token compares, if it is a comparison. -/
def Token.compared? : Token → Option Comparison
  | .comparison _ compared => some compared
  | _ => none

/-- The texts that the text of a predicate is made of. -/
def texts (table : String) (predicate : Predicate) : List String :=
  (tokenTexts table .empty (tokens predicate)).1

/-- The text of a predicate as a row of signs, each known by its text alone. -/
def signs (table : String) (predicate : Predicate) : List (Sign (Option Comparison)) :=
  List.zipWith Sign.ofText (texts table predicate) ((tokens predicate).map Token.compared?)

/-- The truth value of a leaf; one that is no comparison is the condition that always holds. -/
def leafMeaning (assignment : Comparison → Truth) : Option Comparison → Truth
  | some comparison => assignment comparison
  | none => .true

theorem render_sql (table : String) (predicate : Predicate) :
    (render table predicate).sql = String.join (texts table predicate) :=
  rfl

/-! ## Signs are known by their texts -/

/-- The sign that a token is meant to be. -/
def Token.sign : Token → Sign (Option Comparison)
  | .comparison _ compared => .leaf (some compared)
  | .always => .leaf none
  | .and => .connective .and
  | .or => .connective .or
  | .opening => .opening
  | .closing => .closing

/-- Every comparison starts with its column, which has a point in it. -/
theorem point_mem_comparisonText
    (table : String) (position : Nat) (naming : Naming) (comparison : Comparison) :
    '.' ∈ (comparisonText table position naming comparison).1.toList := by
  cases comparison with
  | value column relation binding => simp [comparisonText, qualified]
  | column column relation other => simp [comparisonText, qualified]
  | truth column expected => simp [comparisonText, qualified]
  | among column bindings =>
      unfold comparisonText
      by_cases someLiteral : bindings.any Binding.isLiteral = true
      · simp [someLiteral, qualified]
      · simp [someLiteral, qualified]

theorem ofText_tokenText (table : String) (naming : Naming) (token : Token) :
    Sign.ofText (tokenText table naming token).1 token.compared? = token.sign := by
  cases token with
  | comparison position comparison =>
      have point := point_mem_comparisonText table position naming comparison
      have differs (text : String) (pointless : '.' ∉ text.toList) :
          (comparisonText table position naming comparison).1 ≠ text := by
        rintro rfl
        exact pointless point
      have notAnd := differs " AND " (by decide)
      have notOr := differs " OR " (by decide)
      have notOpening := differs "(" (by decide)
      have notClosing := differs ")" (by decide)
      simp [tokenText, Sign.ofText, Token.compared?, Token.sign, notAnd, notOr, notOpening,
        notClosing]
  | always | and | or | opening | closing =>
      simp [tokenText, truthText, Sign.ofText, Token.compared?, Token.sign]

theorem signs_eq (table : String) (predicate : Predicate) :
    signs table predicate = (tokens predicate).map Token.sign := by
  unfold signs texts
  generalize Naming.empty = naming
  induction tokens predicate generalizing naming with
  | nil => rfl
  | cons token rest induction =>
      simp only [tokenTexts, List.map_cons, List.zipWith_cons_cons, ofText_tokenText, induction]

/-! ## What tokens mean -/

/-- Whatever follows, the tokens are read at the level, and have the meaning. -/
def Means (level : Level) (tokens : List Token) (meaning : (Comparison → Truth) → Truth) : Prop :=
  ∀ rest, ∃ condition, Reads level (tokens.map Token.sign ++ rest) condition rest ∧
    ∀ assignment, condition.meaning (leafMeaning assignment) = meaning assignment

namespace Means

variable {row others : List Token} {meaning otherMeaning : (Comparison → Truth) → Truth}

theorem ofComparison (position : Nat) (comparison : Comparison) :
    Means .operand [.comparison position comparison] fun assignment => assignment comparison := by
  intro rest
  exact ⟨.leaf (some comparison), .leaf, fun _ => rfl⟩

theorem ofAlways : Means .operand [.always] fun _ => .true := by
  intro rest
  exact ⟨.leaf none, .leaf, fun _ => rfl⟩

/-- In parentheses alternatives count as one operand. -/
theorem group (means : Means (.chain .or) row meaning) :
    Means .operand (.opening :: (row ++ [.closing])) meaning := by
  intro rest
  rcases means (.closing :: rest) with ⟨condition, reads, same⟩
  refine ⟨condition, ?_, same⟩
  have grouped := Reads.group reads
  simpa [Token.sign] using grouped

theorem last {connective : Connective} (means : Means connective.tighter row meaning) :
    Means (.chain connective) row meaning := by
  intro rest
  rcases means rest with ⟨condition, reads, same⟩
  exact ⟨condition, .last reads, same⟩

/-- An operand alone is a conjunction of one, and that is a disjunction of one. -/
theorem alone (means : Means .operand row meaning) : Means (.chain .or) row meaning := by
  have conjunction : Means (.chain .and) row meaning := last means
  exact last conjunction

theorem join
    {connective : Connective} {token : Token} (sign : token.sign = .connective connective)
    (means : Means (.chain connective) row meaning)
    (othersMean : Means (.chain connective) others otherMeaning) :
    Means (.chain connective) (row ++ token :: others) fun assignment =>
      connective.apply (meaning assignment) (otherMeaning assignment) := by
  intro rest
  rcases othersMean rest with ⟨right, rightReads, rightSame⟩
  rcases means (.connective connective :: (others.map Token.sign ++ rest)) with
    ⟨left, leftReads, leftSame⟩
  rcases leftReads.exists_join rightReads with ⟨joined, joinedReads, joinedSame⟩
  refine ⟨joined, ?_, ?_⟩
  · simpa [sign] using joinedReads
  · intro assignment
    rw [joinedSame, leftSame, rightSame]

end Means

/-! ## What predicates mean -/

mutual

/-- The tokens of a proper predicate are read as what it means. -/
theorem tokens_means (predicate : Predicate) (proper : predicate.IsProper) :
    Means (.chain .or) (tokens predicate) fun assignment => predicate.meaning assignment := by
  cases predicate with
  | unrestricted | always => exact Means.alone Means.ofAlways
  | leaf position comparison => exact Means.alone (Means.ofComparison position comparison)
  | all operands => exact Means.last (conjunctionTokens_means operands proper.1 proper.2)
  | any operands => exact disjunctionTokens_means operands proper.1 proper.2

theorem conjunctionTokens_means (operands : List Predicate)
    (nonempty : operands ≠ []) (proper : Predicate.AreProper operands) :
    Means (.chain .and) (conjunctionTokens operands) fun assignment =>
      Predicate.meaningAll assignment operands := by
  match operands with
  | [] => exact absurd rfl nonempty
  | [operand] =>
      simpa [conjunctionTokens, Predicate.meaningAll] using operandTokens_means operand proper.1
  | operand :: next :: rest =>
      exact Means.join rfl (operandTokens_means operand proper.1)
        (conjunctionTokens_means (next :: rest) (List.cons_ne_nil _ _) proper.2)

/-- A disjunction is an operand only in parentheses, a conjunction also without. -/
theorem operandTokens_means (operand : Predicate) (proper : operand.IsProper) :
    Means (.chain .and) (operandTokens operand) fun assignment => operand.meaning assignment := by
  cases operand with
  | unrestricted | always => exact Means.last Means.ofAlways
  | leaf position comparison => exact Means.last (Means.ofComparison position comparison)
  | all operands => exact conjunctionTokens_means operands proper.1 proper.2
  | any operands =>
      exact Means.last (Means.group (disjunctionTokens_means operands proper.1 proper.2))

theorem disjunctionTokens_means (operands : List Predicate)
    (nonempty : operands ≠ []) (proper : Predicate.AreProper operands) :
    Means (.chain .or) (disjunctionTokens operands) fun assignment =>
      Predicate.meaningAny assignment operands := by
  match operands with
  | [] => exact absurd rfl nonempty
  | [operand] =>
      simpa [disjunctionTokens, Predicate.meaningAny] using tokens_means operand proper.1
  | operand :: next :: rest =>
      exact Means.join rfl (tokens_means operand proper.1)
        (disjunctionTokens_means (next :: rest) (List.cons_ne_nil _ _) proper.2)

end

/-- The text of a proper predicate is read in one way, and then has its meaning. -/
theorem reads_signs (table : String) {predicate : Predicate} (proper : predicate.IsProper) :
    ∃ condition,
      (∀ other, Reads (.chain .or) (signs table predicate) other [] ↔ other = condition) ∧
        ∀ assignment,
          condition.meaning (leafMeaning assignment) = predicate.meaning assignment := by
  rcases tokens_means predicate proper [] with ⟨condition, reads, same⟩
  rw [List.append_nil, ← signs_eq table] at reads
  refine ⟨condition, ?_, same⟩
  intro other
  constructor
  · intro otherReads
    exact otherReads.eq_of_nil reads
  · rintro rfl
    exact reads

end Sql

end Criteria
