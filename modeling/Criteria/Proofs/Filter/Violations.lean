import Mathlib.Data.List.Nodup
import Mathlib.Tactic.Tauto
import Criteria.Proofs.Filter.Validity

/-!
# Which violations a filter has

Every rule speaks for itself, so what validation reports can be read off the filter without running
any rule: `Filter.Breaks` says for each kind of violation which filters have it.
`validate_tells` says that validation reports exactly these kinds, one violation each, in the order
of the rules, for any policy whatever.  The conditions leave room for two violations at most.
-/

namespace Criteria

/-! ## Violations without their reasons -/

namespace Rule

theorem map_kind_evaluate (rule : Rule) (config : Config) (criterion : Criterion) :
    (rule.evaluate config criterion).map Violation.kind =
      if rule.passes criterion then none else some rule.kind := by
  rw [evaluate_eq_ite]
  split <;> rfl

theorem map_kind_evaluateAll (rules : List Rule) (config : Config) (criterion : Criterion) :
    (evaluateAll rules config criterion).map Violation.kind =
      rules.filterMap fun rule => if rule.passes criterion then none else some rule.kind := by
  rw [evaluateAll, List.map_filterMap]
  exact List.filterMap_congr fun rule _ => rule.map_kind_evaluate config criterion

/-- A violation is worded by the rule that it violates. -/
theorem exists_rule_of_mem_evaluateAll
    {rules : List Rule} {config : Config} {criterion : Criterion} {violation : Violation}
    (reported : violation ∈ evaluateAll rules config criterion) :
    ∃ rule ∈ rules, rule.passes criterion = false ∧
      violation = ⟨rule.kind, rule.message config⟩ := by
  rcases List.mem_filterMap.mp reported with ⟨rule, member, evaluated⟩
  rw [evaluate_eq_ite] at evaluated
  split at evaluated
  · cases evaluated
  · rename_i fails
    exact ⟨rule, member, Bool.eq_false_iff.mpr fails, (Option.some.inj evaluated).symm⟩

end Rule

namespace Filter

/-- The kinds of the violations of a filter, in their order. -/
def violationKinds (filter : Filter) (config : Config) : List ViolationKind :=
  (filter.validate config).map Violation.kind

/-- Which violations are found does not depend on the configuration. -/
theorem violationKinds_eq (filter : Filter) (first second : Config) :
    filter.violationKinds first = filter.violationKinds second := by
  unfold violationKinds validate
  rw [Rule.map_kind_evaluateAll, Rule.map_kind_evaluateAll]

end Filter

/-! ## One condition for each kind -/

namespace ViolationKind

/-- The kinds in the order in which the rules report them. -/
def ranked : List ViolationKind :=
  [.operationNotSupported, .booleanTokenInvalid, .valuesRequired, .valueOrColumnRequired,
    .valueRequired, .valueFormatInvalid]

/-- Whether the kind is about something that is not there. -/
def isPresence : ViolationKind → Bool
  | .valueRequired | .valuesRequired | .valueOrColumnRequired => true
  | .operationNotSupported | .booleanTokenInvalid | .valueFormatInvalid => false

theorem nodup_ranked : ranked.Nodup := by
  decide

theorem mem_ranked (kind : ViolationKind) : kind ∈ ranked := by
  cases kind <;> decide

end ViolationKind

namespace Filter

/-- What is wrong with a filter that has a violation of the given kind. -/
def Breaks (filter : Filter) : ViolationKind → Prop
  | .operationNotSupported =>
      filter.criterion.operation ∉ filter.policy.operations ∧ filter.criterion.operation ≠ .truth
  | .booleanTokenInvalid =>
      filter.criterion.operation = .truth ∧
        ∀ value ∈ filter.criterion.value?, isBooleanToken value = false
  | .valuesRequired => filter.criterion.operation = .oneOf ∧ filter.criterion.values? = none
  | .valueOrColumnRequired =>
      (filter.criterion.operation = .equal ∨ filter.criterion.operation = .notEqual) ∧
        filter.criterion.value? = none ∧ filter.criterion.otherColumn? = none
  | .valueRequired =>
      filter.criterion.operation ≠ .oneOf ∧ filter.criterion.operation ≠ .equal ∧
        filter.criterion.operation ≠ .notEqual ∧ filter.criterion.value? = none
  | .valueFormatInvalid =>
      filter.criterion.operation ≠ .truth ∧ filter.criterion.operation ≠ .oneOf ∧
        filter.criterion.otherColumn? = none ∧
          ∃ format ∈ filter.policy.format?, ∃ value ∈ filter.criterion.value?,
            format.accepts value = false

instance (filter : Filter) : DecidablePred filter.Breaks
  | .operationNotSupported => inferInstanceAs (Decidable (_ ∧ _))
  | .booleanTokenInvalid => inferInstanceAs (Decidable (_ ∧ _))
  | .valuesRequired => inferInstanceAs (Decidable (_ ∧ _))
  | .valueOrColumnRequired => inferInstanceAs (Decidable (_ ∧ _))
  | .valueRequired => inferInstanceAs (Decidable (_ ∧ _))
  | .valueFormatInvalid => inferInstanceAs (Decidable (_ ∧ _))

variable (filter : Filter)

theorem comparesColumns_eq_true_iff (operation : Operation) :
    operation.comparesColumns = true ↔ operation = .equal ∨ operation = .notEqual := by
  cases operation <;> decide

theorem passes_operationAllowed_iff :
    (Rule.operationAllowed filter.policy.allowed).passes filter.criterion = true ↔
      ¬ filter.Breaks .operationNotSupported := by
  rw [Rule.operationAllowed_passes_iff, mem_allowed_iff, Breaks]
  tauto

theorem passes_tokenRecognized_iff :
    Rule.tokenRecognized.passes filter.criterion = true ↔
      ¬ filter.Breaks .booleanTokenInvalid := by
  rw [Rule.tokenRecognized_passes_iff, Breaks, not_and]
  simp

theorem passes_valuesPresent_iff :
    Rule.valuesPresent.passes filter.criterion = true ↔ ¬ filter.Breaks .valuesRequired := by
  rw [Rule.valuesPresent_passes_iff, Breaks, not_and, ← Option.ne_none_iff_isSome]

theorem passes_valueOrColumnPresent_iff :
    Rule.valueOrColumnPresent.passes filter.criterion = true ↔
      ¬ filter.Breaks .valueOrColumnRequired := by
  rw [Rule.valueOrColumnPresent_passes_iff, Breaks, comparesColumns_eq_true_iff,
    ← Option.ne_none_iff_isSome, ← Option.ne_none_iff_isSome]
  tauto

theorem passes_valuePresent_iff :
    Rule.valuePresent.passes filter.criterion = true ↔ ¬ filter.Breaks .valueRequired := by
  rw [Rule.valuePresent_passes_iff, Breaks, ← Bool.not_eq_true, comparesColumns_eq_true_iff,
    ← Option.ne_none_iff_isSome]
  tauto

theorem passes_valueFormatted_iff
    {format : ValueFormat} (formatted : filter.policy.format? = some format) :
    (Rule.valueFormatted format.accepts format.message).passes filter.criterion = true ↔
      ¬ filter.Breaks .valueFormatInvalid := by
  rw [Rule.valueFormatted_passes_iff, Breaks, formatted]
  simp only [Operation.isUnformatted, Bool.or_eq_false_iff, beq_eq_false_iff_ne, Option.mem_def,
    Option.some.injEq, exists_eq_left', ne_eq, not_and, not_exists, Bool.not_eq_false, and_imp]

/-- Each rule of a policy is passed by the filters that its kind of violation is not about. -/
theorem passes_iff_not_breaks {rule : Rule} (member : rule ∈ filter.policy.rules) :
    rule.passes filter.criterion = true ↔ ¬ filter.Breaks rule.kind := by
  rcases Policy.mem_rules_cases member with
    rfl | rfl | rfl | rfl | rfl | ⟨format, formatted, rfl⟩
  · exact filter.passes_operationAllowed_iff
  · exact filter.passes_tokenRecognized_iff
  · exact filter.passes_valuesPresent_iff
  · exact filter.passes_valueOrColumnPresent_iff
  · exact filter.passes_valuePresent_iff
  · exact filter.passes_valueFormatted_iff formatted

/-- The rules stand in the order of their kinds; the last one may be left out. -/
theorem map_kind_rules (policy : Policy) :
    policy.rules.map Rule.kind =
      ViolationKind.ranked.filter fun kind =>
        kind != .valueFormatInvalid || policy.format?.isSome := by
  cases formatted : policy.format? <;> simp [Policy.rules, formatted] <;> rfl

/-- Validation reports the kinds whose conditions hold, in their order. -/
theorem violationKinds_eq_filter (config : Config) :
    filter.violationKinds config = ViolationKind.ranked.filter fun kind => filter.Breaks kind := by
  have judged (rule : Rule) (member : rule ∈ filter.policy.rules) :
      (if rule.passes filter.criterion then none else some rule.kind) =
        if filter.Breaks rule.kind then some rule.kind else none := by
    by_cases breaks : filter.Breaks rule.kind
    · have fails : ¬ rule.passes filter.criterion = true := fun passes =>
        (filter.passes_iff_not_breaks member).mp passes breaks
      rw [if_neg fails, if_pos breaks]
    · rw [if_pos ((filter.passes_iff_not_breaks member).mpr breaks), if_neg breaks]
  -- Without a format there is no rule about one, and no filter breaks it.
  have ruled (kind : ViolationKind) (breaks : filter.Breaks kind) :
      (kind != .valueFormatInvalid || filter.policy.format?.isSome) = true := by
    cases kind with
    | valueFormatInvalid =>
        rcases breaks with ⟨_, _, _, format, formatted, _⟩
        rw [Option.mem_def.mp formatted]
        rfl
    | _ => rfl
  calc
    filter.violationKinds config
        = filter.policy.rules.filterMap fun rule =>
            if filter.Breaks rule.kind then some rule.kind else none := by
          rw [violationKinds, validate, Rule.map_kind_evaluateAll]
          exact List.filterMap_congr judged
    _ = (filter.policy.rules.map Rule.kind).filter fun kind => filter.Breaks kind := by
          rw [← List.filterMap_eq_filter, List.filterMap_map]
          simp only [Function.comp_def, Option.guard, decide_eq_true_eq]
    _ = ViolationKind.ranked.filter fun kind => filter.Breaks kind := by
          rw [map_kind_rules, List.filter_filter]
          refine List.filter_congr fun kind _ => ?_
          by_cases breaks : filter.Breaks kind
          · simp [breaks, ruled kind breaks]
          · simp [breaks]

/-- A kind is reported exactly of the filters that break its rule. -/
theorem mem_violationKinds_iff {config : Config} {kind : ViolationKind} :
    kind ∈ filter.violationKinds config ↔ filter.Breaks kind := by
  rw [violationKinds_eq_filter, List.mem_filter, decide_eq_true_eq]
  exact and_iff_right kind.mem_ranked

/-! ## How many there can be -/

/-- What is missing has no format, so that no two such violations occur together. -/
theorem not_breaks_presence_and_format
    {kind : ViolationKind} (presence : kind.isPresence = true) (breaks : filter.Breaks kind) :
    ¬ filter.Breaks .valueFormatInvalid := by
  rintro ⟨_, single, alone, _, _, value, given, _⟩
  rw [Option.mem_def] at given
  cases kind with
  | valueRequired => simp [breaks.2.2.2] at given
  | valuesRequired => exact single breaks.1
  | valueOrColumnRequired => simp [breaks.2.1] at given
  | operationNotSupported | booleanTokenInvalid | valueFormatInvalid => cases presence

/-- Of conditions that exclude each other at most one holds. -/
theorem length_filter_breaks_le_one
    {kinds : List ViolationKind}
    (exclusive : kinds.Pairwise fun first second => filter.Breaks first → ¬ filter.Breaks second) :
    (kinds.filter fun kind => filter.Breaks kind).length ≤ 1 := by
  induction exclusive with
  | nil => exact Nat.zero_le 1
  | @cons first rest excluded _ hypothesis =>
      by_cases breaks : filter.Breaks first
      · have others : (rest.filter fun kind => filter.Breaks kind) = [] := by
          rw [List.filter_eq_nil_iff]
          intro kind member
          simpa using excluded kind member breaks
        simp [breaks, others]
      · simpa [breaks] using hypothesis

/-- The operation is either undeclared or the one that takes a token. -/
theorem pairwise_operation :
    [ViolationKind.operationNotSupported, .booleanTokenInvalid].Pairwise fun first second =>
      filter.Breaks first → ¬ filter.Breaks second := by
  rw [List.pairwise_pair]
  exact fun undeclared token => undeclared.2 token.1

/--
The operands that have to be there depend on the operation, and only what is there has a format.
-/
theorem pairwise_operands :
    [ViolationKind.valuesRequired, .valueOrColumnRequired, .valueRequired,
      .valueFormatInvalid].Pairwise fun first second =>
        filter.Breaks first → ¬ filter.Breaks second := by
  have formatted {kind : ViolationKind} (presence : kind.isPresence = true) :=
    filter.not_breaks_presence_and_format presence
  simp only [List.pairwise_cons, List.mem_cons, List.not_mem_nil, or_false, forall_eq_or_imp,
    forall_eq, List.Pairwise.nil, and_true, IsEmpty.forall_iff, implies_true]
  refine ⟨⟨?_, ?_, formatted rfl⟩, ⟨?_, formatted rfl⟩, formatted rfl⟩
  · rintro ⟨list, _⟩ ⟨compared, _⟩
    simp [list] at compared
  · exact fun list single => single.1 list.1
  · exact fun compared single => compared.1.elim single.2.1 single.2.2.1

/-- No filter breaks more than two rules. -/
theorem length_filter_breaks_le :
    (ViolationKind.ranked.filter fun kind => filter.Breaks kind).length ≤ 2 := by
  have split : ViolationKind.ranked =
      [.operationNotSupported, .booleanTokenInvalid] ++
        [.valuesRequired, .valueOrColumnRequired, .valueRequired, .valueFormatInvalid] := rfl
  rw [split, List.filter_append, List.length_append]
  exact Nat.add_le_add (filter.length_filter_breaks_le_one filter.pairwise_operation)
    (filter.length_filter_breaks_le_one filter.pairwise_operands)

/-- What the violations of a filter are: the kinds it breaks, each once, worded by their rules. -/
structure Tells (filter : Filter) (config : Config) (violations : List Violation) : Prop where
  kinds : violations.map Violation.kind =
    ViolationKind.ranked.filter fun kind => filter.Breaks kind
  nodup : (violations.map Violation.kind).Nodup
  /-- No violation hides another. -/
  mem_iff : ∀ kind, kind ∈ violations.map Violation.kind ↔ filter.Breaks kind
  worded : ∀ violation ∈ violations, ∃ rule ∈ filter.policy.rules,
    violation = ⟨rule.kind, rule.message config⟩
  /-- A value that is given counts, also the empty one. -/
  value_given : ∀ value ∈ filter.criterion.value?, ∀ violation ∈ violations,
    violation.kind ≠ .valueRequired ∧ violation.kind ≠ .valueOrColumnRequired
  /-- A list that is given counts, also the empty one. -/
  values_given : ∀ values ∈ filter.criterion.values?, ∀ violation ∈ violations,
    violation.kind ≠ .valuesRequired
  length_le : violations.length ≤ 2
  exclusive : ∀ first ∈ violations, ∀ second ∈ violations, first.kind.isPresence = true →
    second.kind ≠ .valueFormatInvalid

/-- What validation reports of a filter tells all that is wrong with it, under any configuration. -/
theorem validate_tells (config : Config) : filter.Tells config (filter.validate config) := by
  have kinds := filter.violationKinds_eq_filter config
  rw [violationKinds] at kinds
  have mem_iff (kind : ViolationKind) :
      kind ∈ (filter.validate config).map Violation.kind ↔ filter.Breaks kind := by
    simp [kinds, ViolationKind.mem_ranked]
  have breaks_of_mem {violation : Violation} (reported : violation ∈ filter.validate config) :
      filter.Breaks violation.kind :=
    (mem_iff _).mp (List.mem_map_of_mem reported)
  constructor
  case kinds => exact kinds
  case nodup =>
    rw [kinds]
    exact ViolationKind.nodup_ranked.filter _
  case mem_iff => exact mem_iff
  case worded =>
    intro violation reported
    rcases Rule.exists_rule_of_mem_evaluateAll reported with ⟨rule, member, _, worded⟩
    exact ⟨rule, member, worded⟩
  case value_given =>
    intro value given violation reported
    have breaks := breaks_of_mem reported
    rw [Option.mem_def] at given
    constructor
    · intro same
      rw [same] at breaks
      exact absurd breaks.2.2.2 (by simp [given])
    · intro same
      rw [same] at breaks
      exact absurd breaks.2.1 (by simp [given])
  case values_given =>
    intro values given violation reported same
    have breaks := breaks_of_mem reported
    rw [same] at breaks
    exact absurd breaks.2 (by simp [Option.mem_def.mp given])
  case length_le =>
    rw [← List.length_map Violation.kind, kinds]
    exact filter.length_filter_breaks_le
  case exclusive =>
    intro first firstReported second secondReported presence same
    have breaks := breaks_of_mem secondReported
    rw [same] at breaks
    exact filter.not_breaks_presence_and_format presence (breaks_of_mem firstReported) breaks

/-- The empty text is there, but it is no number, and numbers have no patterns. -/
example (config : Config) :
    Filter.violationKinds
        ⟨⟨⟨"age", .integer⟩, .like, false, some "", none, none⟩, .numeric⟩ config =
      [.operationNotSupported, .valueFormatInvalid] := by
  rfl

end Filter

end Criteria
