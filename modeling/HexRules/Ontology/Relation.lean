import HexRules.Ontology.Formula
import HexRules.Registry

/-!
# Relations

A relation is a rule between two roles of a concept, the subject and the object: when it is
triggered it changes a number of the subject, blocks it, or lets it pass.
-/

namespace HexRules

/-- When a relation takes effect. -/
inductive Trigger
  | onEnter
  | onExit
  | whilePresent
  deriving DecidableEq, Repr

namespace Trigger

def name : Trigger → String
  | .onEnter => "on_enter"
  | .onExit => "on_exit"
  | .whilePresent => "while_present"

/-- All triggers. -/
def all : List Trigger := [.onEnter, .onExit, .whilePresent]

def ofName? (word : String) : Option Trigger := all.find? (·.name == word)

end Trigger

/-- How a number is changed by another. -/
inductive Operation
  | add
  | subtract
  | multiply
  | min
  | max
  deriving DecidableEq, Repr

namespace Operation

def name : Operation → String
  | .add => "add"
  | .subtract => "subtract"
  | .multiply => "multiply"
  | .min => "min"
  | .max => "max"

/-- All operations. -/
def all : List Operation := [.add, .subtract, .multiply, .min, .max]

def ofName? (word : String) : Option Operation := all.find? (·.name == word)

end Operation

/-- The kinds of effects. -/
inductive EffectKind
  | modify
  | block
  | allow
  deriving DecidableEq, Repr

namespace EffectKind

def name : EffectKind → String
  | .modify => "modify_property"
  | .block => "block"
  | .allow => "allow"

/-- All kinds. -/
def all : List EffectKind := [.modify, .block, .allow]

def ofName? (word : String) : Option EffectKind := all.find? (·.name == word)

end EffectKind

/-- What a relation does to its subject. -/
inductive Effect
  /-- Changes the property `target` of the subject by the property `source` of the object. -/
  | modify (target source : String) (operation : Operation)
  /-- Keeps the subject out, where the condition holds; always, without one. -/
  | block (condition : Option Formula)
  /-- Lets the subject pass, where the condition holds. -/
  | allow (condition : Option Formula)
  deriving BEq, Repr

namespace Effect

/-- The kind of an effect. -/
def kind : Effect → EffectKind
  | .modify .. => .modify
  | .block _ => .block
  | .allow _ => .allow

/-- The condition of an effect, if it has one. -/
def condition? : Effect → Option Formula
  | .modify .. => none
  | .block condition => condition
  | .allow condition => condition

/-- The property that the effect subtracts from, if it subtracts. -/
def subtracts? : Effect → Option String
  | .modify target _ .subtract => some target
  | _ => none

end Effect

/-- A rule between a subject and an object. -/
structure Relation where
  id : Ident
  name : String
  conceptId : Ident
  subjectRole : Ident
  objectRole : Ident
  trigger : Trigger
  effect : Effect
  deriving BEq, Repr

instance : Identified Relation := ⟨Relation.id⟩

namespace Relation

/-- Whether the relation subtracts from a number of its subject. -/
def isSubtract (r : Relation) : Bool := r.effect.subtracts?.isSome

end Relation

/-- All relations. -/
structure Relations where
  relations : List Relation
  deriving BEq, Repr

namespace Relations

/-- The registry without entries. -/
def empty : Relations := ⟨[]⟩

/-- The relation with an identifier. -/
def get? (reg : Relations) (id : Ident) : Option Relation := Registry.find? id reg.relations

/-- The relation with an identifier, which must be there. -/
def require (reg : Relations) (id : Ident) : Except RegistryError Relation :=
  Registry.require .relation id reg.relations

/-- The relations that take effect when a hex is entered. -/
def onEnter (reg : Relations) : List Relation := reg.relations.filter (·.trigger = .onEnter)

/-- Adds a relation. -/
def add (reg : Relations) (r : Relation) : Except RegistryError Relations := do
  let relations ← Registry.add .relation (some r.name) r reg.relations
  return ⟨relations⟩

/-- Puts another relation in the place of a registered one. -/
def update (reg : Relations) (id : Ident) (new : Relation) : Except RegistryError Relations := do
  let _ ← reg.require id
  return ⟨Registry.replace id new reg.relations⟩

/-- Removes a relation, and gives it back. -/
def remove (reg : Relations) (id : Ident) : Except RegistryError (Relation × Relations) := do
  let r ← reg.require id
  return (r, ⟨Registry.without id reg.relations⟩)

end Relations

end HexRules
