import Criteria.Truth

/-!
# How conditions are read

A written condition is a row of signs: leaves, connectives and parentheses.  It is read as one is
used to: what stands in parentheses first, then chains of conjunctions, then chains of disjunctions.
The grammar is a relation (`Sql.Reads`) between a row of signs, what is read from its front, and
what is left of it.  Its main property is that there is no second way to read a condition
(`Sql.Reads.unique`).
-/

namespace Criteria

namespace Sql

/-- What joins two conditions in a text. -/
inductive Connective where
  | and
  | or
deriving DecidableEq, Repr

/-- What a connective means for two truth values. -/
def Connective.apply : Connective → Truth → Truth → Truth
  | .and => Truth.and
  | .or => Truth.or

theorem Connective.apply_assoc (connective : Connective) (first second third : Truth) :
    connective.apply (connective.apply first second) third =
      connective.apply first (connective.apply second third) := by
  cases connective with
  | and => exact Truth.and_assoc first second third
  | or => exact Truth.or_assoc first second third

/-- A sign of a written condition.  What a leaf says is of no concern to how it is read. -/
inductive Sign (α : Type) where
  | leaf (value : α)
  | connective (connective : Connective)
  | opening
  | closing

/-- A condition as it is read from a text, joined two by two. -/
inductive Condition (α : Type) where
  | leaf (value : α)
  | join (connective : Connective) (left right : Condition α)

/-- The truth value of a condition, given those of its leaves. -/
def Condition.meaning {α : Type} (value : α → Truth) : Condition α → Truth
  | .leaf held => value held
  | .join connective left right =>
      connective.apply (left.meaning value) (right.meaning value)

/-- What is read at one go: an operand, or a chain of operands under one connective. -/
inductive Level where
  | operand
  | chain (connective : Connective)

/-- The operands of a conjunction are operands; those of a disjunction may be conjunctions. -/
def Connective.tighter : Connective → Level
  | .and => .operand
  | .or => .chain .and

/-- From the front of a row of signs a condition is read, and some signs are left. -/
inductive Reads {α : Type} :
    Level → List (Sign α) → Condition α → List (Sign α) → Prop where
  | leaf {value : α} {rest : List (Sign α)} :
      Reads .operand (.leaf value :: rest) (.leaf value) rest
  | group {signs rest : List (Sign α)} {inner : Condition α} :
      Reads (.chain .or) signs inner (.closing :: rest) →
        Reads .operand (.opening :: signs) inner rest
  | last {connective : Connective} {signs rest : List (Sign α)} {only : Condition α} :
      Reads connective.tighter signs only rest → Reads (.chain connective) signs only rest
  | more {connective : Connective} {signs middle rest : List (Sign α)}
      {first others : Condition α} :
      Reads connective.tighter signs first (.connective connective :: middle) →
        Reads (.chain connective) middle others rest →
          Reads (.chain connective) signs (.join connective first others) rest

variable {α : Type}

/-- What is left does not go on with what was read. -/
def Level.Stops : Level → List (Sign α) → Prop
  | .operand, _ => True
  | .chain .and, rest => rest.head? ≠ some (.connective .and)
  | .chain .or, rest => ∀ connective, rest.head? ≠ some (.connective connective)

theorem Level.Stops.tighter
    {connective : Connective} {rest : List (Sign α)}
    (stops : (Level.chain connective).Stops rest) :
    connective.tighter.Stops rest := by
  cases connective with
  | and => trivial
  | or => exact stops .and

theorem Connective.tighter_stops (connective : Connective) (middle : List (Sign α)) :
    connective.tighter.Stops (.connective connective :: middle) := by
  cases connective with
  | and => trivial
  | or => simp [Connective.tighter, Level.Stops]

theorem Level.Stops.ne_connective
    {connective : Connective} {rest middle : List (Sign α)}
    (stops : (Level.chain connective).Stops rest) :
    rest ≠ .connective connective :: middle := by
  rintro rfl
  cases connective with
  | and => exact stops rfl
  | or => exact stops .or rfl

namespace Reads

variable {level : Level} {signs rest : List (Sign α)} {condition : Condition α}

/-- Up to where reading has to stop, there is one way to read. -/
theorem unique
    (reads : Reads level signs condition rest) (stops : level.Stops rest)
    {other : Condition α} {otherRest : List (Sign α)}
    (otherReads : Reads level signs other otherRest) (otherStops : level.Stops otherRest) :
    condition = other ∧ rest = otherRest := by
  induction reads generalizing other otherRest with
  | leaf =>
      cases otherReads with
      | leaf => exact ⟨rfl, rfl⟩
  | group _ induction =>
      cases otherReads with
      | group inner =>
          have closes (left : List (Sign α)) : (Level.chain .or).Stops (.closing :: left) := by
            simp [Level.Stops]
          rcases induction (closes _) inner (closes _) with ⟨rfl, same⟩
          cases same
          exact ⟨rfl, rfl⟩
  | last _ induction =>
      cases otherReads with
      | last only => exact induction stops.tighter only otherStops.tighter
      | more first others =>
          -- Then the chain would go on after what was read of it.
          have same := (induction stops.tighter first (Connective.tighter_stops _ _)).2
          exact absurd same stops.ne_connective
  | @more connective _ middle _ _ _ _ _ firstInduction othersInduction =>
      have continues := Connective.tighter_stops connective middle
      cases otherReads with
      | last only =>
          have same := (firstInduction continues only otherStops.tighter).2
          exact absurd same.symm otherStops.ne_connective
      | more first others =>
          rcases firstInduction continues first (Connective.tighter_stops _ _) with ⟨rfl, same⟩
          cases same
          rcases othersInduction stops others otherStops with ⟨rfl, rfl⟩
          exact ⟨rfl, rfl⟩

/-- A whole row of signs is read as one condition at most. -/
theorem eq_of_nil
    {connective : Connective} {other : Condition α}
    (reads : Reads (.chain connective) signs condition [])
    (otherReads : Reads (.chain connective) signs other []) :
    condition = other := by
  have ends : (Level.chain connective).Stops ([] : List (Sign α)) := by
    cases connective <;> simp [Level.Stops]
  exact (reads.unique ends otherReads ends).1

/-- Two chains of one connective make one chain, whichever way it is taken apart. -/
theorem exists_join
    {connective : Connective} {middle : List (Sign α)} {others : Condition α}
    (first : Reads (.chain connective) signs condition (.connective connective :: middle))
    (second : Reads (.chain connective) middle others rest) :
    ∃ joined, Reads (.chain connective) signs joined rest ∧
      ∀ value, joined.meaning value =
        connective.apply (condition.meaning value) (others.meaning value) := by
  generalize chain : Level.chain connective = level at first
  generalize whole : Sign.connective connective :: middle = left at first
  induction first with
  | leaf | group => cases chain
  | last only =>
      cases chain
      subst whole
      exact ⟨_, .more only second, fun _ => rfl⟩
  | more head _ _ induction =>
      cases chain
      subst whole
      rcases induction rfl rfl with ⟨joined, joinedReads, same⟩
      refine ⟨_, .more head joinedReads, ?_⟩
      intro value
      simp only [Condition.meaning, same, Connective.apply_assoc]

end Reads

end Sql

end Criteria
