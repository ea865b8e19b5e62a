import Criteria.Proofs.FirstOccurrence
import Criteria.Proofs.Filter.Violations

/-!
# Which operations a rule lets through

A rule is made from any list of operations, with repetitions and in any order.  It lets through
those that are listed and the comparison with a truth value, and to all other filters it names what
it lets through: every operation once, in the order of the list (`Rule.ShowsOnce`).  The reason does
not depend on the filter or the configuration, so it is the same every time, and a message about the
filter gives it once (`operationAllowed_reports`).  A policy makes its rule from a list in the order
of all operations, whatever it declares.
-/

namespace Criteria

theorem Operation.ofName?_name (operation : Operation) :
    Operation.ofName? operation.name = some operation := by
  cases operation <;> rfl

theorem Operation.name_injective : Function.Injective Operation.name := by
  intro first second same
  have found := Operation.ofName?_name first
  rw [same, Operation.ofName?_name] at found
  exact (Option.some.inj found).symm

theorem Operation.nodup_all : Operation.all.Nodup := by
  decide

namespace Rule

/-- What is shown of the operations that a rule lets through. -/
structure ShowsOnce (operations shown : List Operation) : Prop where
  nodup : (shown.map Operation.name).Nodup
  mem_iff : ∀ operation, operation ∈ shown ↔ operation ∈ operations ∨ operation = .truth
  /-- The listed ones stand in the order in which they first occur. -/
  ordered :
    ∀ first ∈ operations, ∀ second ∈ operations,
      shown.idxOf first < shown.idxOf second ↔ operations.idxOf first < operations.idxOf second
  /-- The comparison with a truth value stands last, if it is not listed. -/
  last : .truth ∉ operations → shown.getLast? = some .truth

/-- The violation of a rule that shows the given operations. -/
def notAmong (shown : List Operation) : Violation where
  kind := .operationNotSupported
  message :=
    "only supports the following operations: " ++ ", ".intercalate (shown.map Operation.name)

/-- The operations that a rule made from a list lets through, each once. -/
def admitted (operations : List Operation) : List Operation :=
  (operations ++ [Operation.truth]).eraseDups

variable {operations : List Operation}

theorem admitted_of_mem (listed : .truth ∈ operations) :
    admitted operations = operations.eraseDups := by
  have nothing : [Operation.truth].removeAll operations = [] := by
    simp [List.removeAll, listed]
  rw [admitted, List.eraseDups_append, nothing, List.eraseDups_nil, List.append_nil]

theorem admitted_of_notMem (unlisted : .truth ∉ operations) :
    admitted operations = operations.eraseDups ++ [.truth] := by
  have itself : [Operation.truth].removeAll operations = [.truth] := by
    simp [List.removeAll, unlisted]
  rw [admitted, List.eraseDups_append, itself]
  rfl

theorem admitted_showsOnce (operations : List Operation) :
    ShowsOnce operations (admitted operations) := by
  constructor
  case nodup => exact (nodup_eraseDups _).map Operation.name_injective
  case mem_iff =>
    intro operation
    rw [admitted, List.mem_eraseDups, List.mem_append, List.mem_singleton]
  case ordered =>
    intro first firstListed second secondListed
    rw [admitted, idxOf_eraseDups_lt_iff, List.idxOf_append_of_mem firstListed,
      List.idxOf_append_of_mem secondListed]
  case last =>
    intro unlisted
    rw [admitted_of_notMem unlisted, List.getLast?_concat]

/-- A list without repetitions that has all it has to is shown as it stands. -/
theorem admitted_of_nodup (nodup : operations.Nodup) (listed : .truth ∈ operations) :
    admitted operations = operations := by
  rw [admitted_of_mem listed, eraseDups_of_nodup nodup]

theorem message_operationAllowed (operations : List Operation) (config : Config) :
    (operationAllowed operations).message config = (notAmong (admitted operations)).message :=
  rfl

theorem evaluate_operationAllowed (config : Config) (criterion : Criterion) :
    (operationAllowed operations).evaluate config criterion =
      if criterion.operation ∈ operations ∨ criterion.operation = .truth then none
      else some (notAmong (admitted operations)) := by
  rw [evaluate_eq_ite]
  simp only [operationAllowed_passes_iff]
  rfl

end Rule

namespace Filter

/-- However often a violation is reported, its reason is given once. -/
theorem describe_replicate (filter : Filter) (config : Config) (violation : Violation)
    {count : Nat} (positive : 0 < count) :
    filter.describe config (List.replicate count violation) =
      some (filter.heading config ++ violation.message) := by
  cases count with
  | zero => exact absurd positive (Nat.lt_irrefl 0)
  | succ count =>
      have found : List.replicate (count + 1) violation ≠ [] := List.cons_ne_nil _ _
      rw [describe_of_ne_nil filter config found, List.map_replicate, eraseDups_replicate,
        String.intercalate_singleton]

end Filter

namespace Rule

/-- The violation is the same each time, also if the configuration changes in between. -/
theorem filterMap_evaluate_operationAllowed {criterion : Criterion}
    (unlisted : criterion.operation ∉ operations) (other : criterion.operation ≠ .truth)
    (configs : List Config) :
    (configs.filterMap fun config => (operationAllowed operations).evaluate config criterion) =
      List.replicate configs.length (notAmong (admitted operations)) := by
  have refused (config : Config) :
      (operationAllowed operations).evaluate config criterion =
        some (notAmong (admitted operations)) := by
    rw [evaluate_operationAllowed, if_neg (not_or.mpr ⟨unlisted, other⟩)]
  rw [List.filterMap_congr fun config _ => refused config, List.filterMap_eq_map',
    List.map_const']

/-- The list of a policy is in the order of all operations and has no repetitions. -/
theorem admitted_allowed (policy : Policy) : admitted policy.allowed = policy.allowed := by
  apply admitted_of_nodup
  · exact Operation.nodup_all.filter _
  · exact (Filter.mem_allowed_iff policy .truth).mpr (.inr rfl)

/--
For any list of operations: the rule reports the filters whose operation is neither listed nor the
comparison with a truth value.  All of them have the same violation, under any configuration.  It
names the operations that are let through, each once, in the order of the list, and a message about
a filter that gives it any number of times has its reason once.  The rule of a policy comes first
among its rules and names what the policy declares in the order of all operations.
-/
theorem operationAllowed_reports (operations : List Operation) :
    (∃ shown, ShowsOnce operations shown ∧
      (∀ (config : Config) (criterion : Criterion),
        (operationAllowed operations).evaluate config criterion =
          if criterion.operation ∈ operations ∨ criterion.operation = .truth then none
          else some (notAmong shown)) ∧
      (∀ criterion : Criterion, criterion.operation ∉ operations → criterion.operation ≠ .truth →
        ∀ configs : List Config,
          (configs.filterMap fun config =>
              (operationAllowed operations).evaluate config criterion) =
            List.replicate configs.length (notAmong shown)) ∧
      ∀ (filter : Filter) (config : Config) (count : Nat), 0 < count →
        filter.describe config (List.replicate count (notAmong shown)) =
          some (filter.heading config ++ (notAmong shown).message)) ∧
    ∀ policy : Policy,
      policy.rules.head? = some (operationAllowed policy.allowed) ∧
        (∀ config, (operationAllowed policy.allowed).message config =
          (notAmong policy.allowed).message) ∧
        policy.allowed.Sublist Operation.all ∧
        ∀ operation, operation ∈ policy.allowed ↔
          operation ∈ policy.operations ∨ operation = .truth := by
  constructor
  · refine ⟨admitted operations, admitted_showsOnce operations, ?_, ?_, ?_⟩
    · exact evaluate_operationAllowed
    · exact fun _ => filterMap_evaluate_operationAllowed
    · exact fun filter config _ => filter.describe_replicate config _
  · intro policy
    refine ⟨rfl, fun config => ?_, List.filter_sublist, Filter.mem_allowed_iff policy⟩
    rw [message_operationAllowed, admitted_allowed]

/-- A pattern where only comparisons by order are listed, one of them twice. -/
def patternFilter : Filter :=
  ⟨⟨⟨"last_name", .string⟩, .like, false, some "A%", none, none⟩, .string⟩

theorem operationAllowed_reports_twice :
    (operationAllowed [.lessThan, .truth, .lessThan, .greaterThan]).evaluate
        ⟨true, false, ⟨2024, 5, 6⟩⟩ patternFilter.criterion =
      some ⟨.operationNotSupported,
        "only supports the following operations: LESS_THAN, WITH, GREATER_THAN"⟩ ∧
      patternFilter.criterion.operation ∉
        [Operation.lessThan, .truth, .lessThan, .greaterThan] ∧
      patternFilter.criterion.operation ≠ .truth ∧
      ∃ violation,
        ([⟨true, false, ⟨2024, 5, 6⟩⟩, ⟨false, true, ⟨2024, 5, 7⟩⟩].filterMap fun config =>
            (operationAllowed [.lessThan, .truth, .lessThan, .greaterThan]).evaluate config
              patternFilter.criterion) = [violation, violation] ∧
        patternFilter.describe ⟨true, false, ⟨2024, 5, 6⟩⟩ [violation, violation] =
          some ("lastName (type: string, operation: LIKE, value: \"A%\"): " ++
            "only supports the following operations: LESS_THAN, WITH, GREATER_THAN") := by
  have reported :
      (operationAllowed [.lessThan, .truth, .lessThan, .greaterThan]).evaluate
          ⟨true, false, ⟨2024, 5, 6⟩⟩ patternFilter.criterion =
        some ⟨.operationNotSupported,
          "only supports the following operations: LESS_THAN, WITH, GREATER_THAN"⟩ := by
    decide
  have unlisted : patternFilter.criterion.operation ∉
      [Operation.lessThan, .truth, .lessThan, .greaterThan] := by
    decide
  have other : patternFilter.criterion.operation ≠ .truth := by decide
  rcases operationAllowed_reports [.lessThan, .truth, .lessThan, .greaterThan] with
    ⟨⟨shown, _, evaluated, repeated, described⟩, _⟩
  have worded := evaluated ⟨true, false, ⟨2024, 5, 6⟩⟩ patternFilter.criterion
  rw [reported, if_neg (not_or.mpr ⟨unlisted, other⟩), Option.some.injEq] at worded
  refine ⟨reported, unlisted, other, notAmong shown, repeated _ unlisted other _, ?_⟩
  refine (described patternFilter _ 2 (by decide)).trans ?_
  rw [← worded]
  decide

end Rule

end Criteria
