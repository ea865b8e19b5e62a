import Criteria.Number.Shortest

/-!
# JSON values

A number that is written without a point and an exponent is an integer, of any size; every other
number is a double.  The entries of an object keep their order, and no name occurs twice.
-/

namespace Criteria

/-- A value as clients send it; of a record the order of the entries is kept. -/
inductive Json where
  | null
  | bool (value : Bool)
  | integer (value : Int)
  | real (value : Double)
  | string (value : String)
  | array (items : List Json)
  | object (entries : List (String × Json))
deriving Inhabited, Repr

namespace Json

/-- Sets the value of a name: in place if the name has one, else at the end. -/
def setEntry {α : Type} (name : String) (value : α) : List (String × α) → List (String × α)
  | [] => [(name, value)]
  | entry :: rest =>
      if entry.1 = name then (name, value) :: rest else entry :: setEntry name value rest

/-- The name that was set has the value, and every other name has what it had. -/
theorem lookup_setEntry
    {α : Type} (name other : String) (value : α) (entries : List (String × α)) :
    (setEntry name value entries).lookup other =
      if other = name then some value else entries.lookup other := by
  induction entries with
  | nil =>
      simp only [setEntry, List.lookup_cons, List.lookup_nil]
      by_cases same : other = name
      · simp [same]
      · simp [same, beq_eq_false_iff_ne.mpr same]
  | cons entry rest hypothesis =>
      obtain ⟨key, held⟩ := entry
      simp only [setEntry]
      split
      · rename_i found
        subst found
        simp only [List.lookup_cons]
        by_cases same : other = key
        · simp [same]
        · simp [same, beq_eq_false_iff_ne.mpr same]
      · rename_i missed
        simp only [List.lookup_cons, hypothesis]
        by_cases same : other = name
        · subst same
          simp [beq_eq_false_iff_ne.mpr (Ne.symm missed)]
        · simp [same]

end Json

end Criteria
