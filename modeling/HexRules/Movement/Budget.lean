import HexRules.Movement.Step

/-!
# The initial budget

A unit's budget is a number among its properties. Where a relation subtracts from a property of
its subject, that property is the budget; otherwise a property of the name `budget` is. A unit
without either gets an allotment for every concept there is.
-/

namespace HexRules.Movement

/-- The name of a property that is a budget without a relation that says so. -/
def budgetName : String := "budget"

/-- The allotment where no budget is known. -/
def fallbackBudget (perConcept : Int) (concepts : Concepts) : Int :=
  perConcept * (max 1 concepts.concepts.length : Nat)

/-- The bindings and names under which the budget is looked for, in this order: what a relation
    subtracts from, under each binding that makes the unit its subject; then the usual name,
    under each binding. -/
def Mover.budgetNames (m : Mover) : List (Binding × String) :=
  (m.relations.flatMap fun r =>
    match r.effect.subtracts? with
    | some target =>
      (m.bindings.filter (·.binds r.conceptId r.subjectRole)).map fun b => (b, target)
    | none => []) ++
  m.bindings.map fun b => (b, budgetName)

/-- The number that a unit has under a name of a binding. -/
def readNumber (data : EntityData) (entry : Binding × String) : Except Failure (Option Int) :=
  (PropertyValue.asInt ((entry.1.propertyFor entry.2).bind data.get?)).mapError .notFinite

/-- The budget among the unit's properties. -/
def Mover.ownBudget (m : Mover) : Except Failure (Option Int) :=
  m.budgetNames.findSomeM? (readNumber m.data)

/-- The budget that the unit starts with. -/
def Mover.budget (m : Mover) (perConcept : Int) : Except Failure Int := do
  let own ← m.ownBudget
  return own.getD (fallbackBudget perConcept m.concepts)

end HexRules.Movement
