import HexRules.Ontology.Formula
import HexRules.Registry

/-!
# Constraints

A constraint is a formula that should hold within a concept. A guard is a constraint that was
generated for a relation, and bears the relation's identifier.

Results:
* `isGuardOf_iff`: a guard of a relation is generated and bears its identifier.
-/

namespace HexRules

/-- A formula that should hold within a concept. -/
structure Constraint where
  id : Ident
  name : String
  description : String
  conceptId : Ident
  relationId : Option Ident
  formula : Formula
  autoGenerated : Bool
  deriving BEq, Repr

instance : Identified Constraint := ⟨Constraint.id⟩

namespace Constraint

/-- Whether the constraint is a guard of the relation with an identifier. -/
def isGuardOf (c : Constraint) (relation : Ident) : Bool :=
  c.autoGenerated && decide (c.relationId = some relation)

theorem isGuardOf_iff {c : Constraint} {relation : Ident} :
    c.isGuardOf relation = true ↔ c.autoGenerated = true ∧ c.relationId = some relation := by
  simp [isGuardOf]

end Constraint

/-- All constraints. -/
structure Constraints where
  constraints : List Constraint
  deriving BEq, Repr

namespace Constraints

/-- The registry without entries. -/
def empty : Constraints := ⟨[]⟩

/-- The constraint with an identifier. -/
def get? (reg : Constraints) (id : Ident) : Option Constraint :=
  Registry.find? id reg.constraints

/-- The first guard of a relation. -/
def guardOf? (reg : Constraints) (relation : Ident) : Option Constraint :=
  reg.constraints.find? (·.isGuardOf relation)

/-- Adds a constraint. -/
def add (reg : Constraints) (c : Constraint) : Except RegistryError Constraints := do
  let constraints ← Registry.add .constraint (some c.name) c reg.constraints
  return ⟨constraints⟩

/-- Adds a constraint at the end, whatever its identifier. -/
def append (reg : Constraints) (c : Constraint) : Constraints := ⟨reg.constraints ++ [c]⟩

/-- Removes a constraint, and gives it back. -/
def remove (reg : Constraints) (id : Ident) : Except RegistryError (Constraint × Constraints) := do
  let c ← Registry.require .constraint id reg.constraints
  return (c, ⟨Registry.without id reg.constraints⟩)

end Constraints

end HexRules
