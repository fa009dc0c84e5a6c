import HexRules.Ontology.Relation
import HexRules.Entity

/-!
# Conditions of a block

A block has a condition on the subject, the unit, and the object, the tile. Only the types of the
two can be asked; a leaf that asks for something else counts as true, so that a block whose
condition cannot be judged stays in force.
-/

namespace HexRules.Movement

/-- The data of the object in a role of a relation: the unit, if there is one, is the subject, the
    tile, if there is one, the object, and nothing is in another role. -/
def player (r : Relation) (unit tile : Option EntityData) (role : Ident) : Option EntityData :=
  if role = r.subjectRole then unit
  else if role = r.objectRole then tile
  else none

mutual

/-- Whether a formula holds of the objects in the roles. -/
def holds (player : Ident → Option EntityData) : Formula → Bool
  | .isType role type =>
    match player role with
    | some data => decide (data.typeId = type)
    | none => false
  | .isNotType role type =>
    match player role with
    | some data => !decide (data.typeId = type)
    | none => false
  | .conjunction operands => holdsAll player operands
  | .disjunction operands => holdsAny player operands
  | .negation operand => !holds player operand
  | .propertyCompare .. => true
  | .crossCompare .. => true
  | .pathBudget .. => true

/-- Whether all formulas hold. -/
def holdsAll (player : Ident → Option EntityData) : List Formula → Bool
  | [] => true
  | f :: rest => holds player f && holdsAll player rest

/-- Whether one of the formulas holds. -/
def holdsAny (player : Ident → Option EntityData) : List Formula → Bool
  | [] => false
  | f :: rest => holds player f || holdsAny player rest

end

/-- Whether a block with a condition, or without one, is in force for a unit and a tile. -/
def blocks (r : Relation) (unit : EntityData) (tile : Option EntityData) : Option Formula → Bool
  | none => true
  | some condition => holds (player r (some unit) tile) condition

end HexRules.Movement
