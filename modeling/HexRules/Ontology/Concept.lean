import HexRules.Entity

/-!
# Concepts and bindings

A concept names a behaviour and the roles that take part in it. A binding lets an entity type
play a role, and gives names to its properties under which rules of the concept find them.

`Concepts` is the registry of both. Removing a concept leaves its bindings in place.
-/

namespace HexRules

/-- A role in a concept, and what may play it. -/
structure ConceptRole where
  id : Ident
  name : String
  allowed : List EntityRole
  deriving DecidableEq, Repr

instance : Identified ConceptRole := ⟨ConceptRole.id⟩

/-- A behaviour with its roles. -/
structure Concept where
  id : Ident
  name : String
  description : String
  roles : List ConceptRole
  deriving DecidableEq, Repr

instance : Identified Concept := ⟨Concept.id⟩

namespace Concept

/-- The role with an identifier. -/
def role? (c : Concept) (id : Ident) : Option ConceptRole := Registry.find? id c.roles

/-- Whether there is a role with an identifier. -/
def hasRole (c : Concept) (id : Ident) : Bool := (c.role? id).isSome

end Concept

/-- A property under the name that rules use. -/
structure PropertyBinding where
  propertyId : Ident
  localName : String
  deriving DecidableEq, Repr

/-- An entity type in a role of a concept. -/
structure Binding where
  id : Ident
  typeId : Ident
  conceptId : Ident
  roleId : Ident
  properties : List PropertyBinding
  deriving DecidableEq, Repr

instance : Identified Binding := ⟨Binding.id⟩

namespace Binding

/-- Whether this is a binding to a role of a concept. -/
def binds (b : Binding) (concept role : Ident) : Bool :=
  decide (b.conceptId = concept ∧ b.roleId = role)

/-- The property that a name stands for. -/
def propertyFor (b : Binding) (localName : String) : Option Ident :=
  (b.properties.find? fun p => p.localName = localName).map PropertyBinding.propertyId

end Binding

/-- All concepts and their bindings. -/
structure Concepts where
  concepts : List Concept
  bindings : List Binding
  deriving DecidableEq, Repr

namespace Concepts

/-- The registry without entries. -/
def empty : Concepts := ⟨[], []⟩

/-- The concept with an identifier. -/
def get? (reg : Concepts) (id : Ident) : Option Concept := Registry.find? id reg.concepts

/-- The concept with an identifier, which must be there. -/
def require (reg : Concepts) (id : Ident) : Except RegistryError Concept :=
  Registry.require .concept id reg.concepts

/-- The binding with an identifier. -/
def binding? (reg : Concepts) (id : Ident) : Option Binding := Registry.find? id reg.bindings

/-- The bindings of an entity type. -/
def bindingsOfType (reg : Concepts) (type : Ident) : List Binding :=
  reg.bindings.filter (·.typeId = type)

/-- The bindings to a role of a concept. -/
def bindingsOfRole (reg : Concepts) (concept role : Ident) : List Binding :=
  reg.bindings.filter (·.binds concept role)

/-- Adds a concept. -/
def addConcept (reg : Concepts) (c : Concept) : Except RegistryError Concepts := do
  let concepts ← Registry.add .concept (some c.name) c reg.concepts
  return { reg with concepts := concepts }

/-- Removes a concept, and gives it back. -/
def removeConcept (reg : Concepts) (id : Ident) : Except RegistryError (Concept × Concepts) := do
  let c ← reg.require id
  return (c, { reg with concepts := Registry.without id reg.concepts })

/-- Adds a binding. -/
def addBinding (reg : Concepts) (b : Binding) : Except RegistryError Concepts := do
  let bindings ← Registry.add .binding none b reg.bindings
  return { reg with bindings := bindings }

/-- Removes a binding, and gives it back. -/
def removeBinding (reg : Concepts) (id : Ident) : Except RegistryError (Binding × Concepts) := do
  let b ← Registry.require .binding id reg.bindings
  return (b, { reg with bindings := Registry.without id reg.bindings })

/-- Puts a further role at the end of the first concept with an identifier. -/
def appendRole (reg : Concepts) (id : Ident) (role : ConceptRole) :
    Except RegistryError Concepts := do
  let c ← reg.require id
  let new := { c with roles := c.roles ++ [role] }
  return { reg with concepts := Registry.replaceFirst id new reg.concepts }

/-- Puts a further name at the end of the first binding with an identifier. -/
def appendProperty (reg : Concepts) (id : Ident) (p : PropertyBinding) :
    Except RegistryError Concepts := do
  let b ← Registry.require .binding id reg.bindings
  let new := { b with properties := b.properties ++ [p] }
  return { reg with bindings := Registry.replaceFirst id new reg.bindings }

end Concepts

end HexRules
