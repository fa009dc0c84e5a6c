import HexRules.Ontology.Concept
import HexRules.Ontology.Relation

/-!
# Reading through bindings

A relation names properties by the names that bindings give. A value is found by way of the first
binding of the object's type to the role that has the name.
-/

namespace HexRules.Movement

/-- Whether a binding ties an entity type to a role of a concept. -/
def ties (type concept role : Ident) (b : Binding) : Bool :=
  decide (b.typeId = type) && b.binds concept role

/-- Whether some binding ties an entity type to a role of a concept. -/
def bindsRole (bindings : List Binding) (type concept role : Ident) : Bool :=
  bindings.any (ties type concept role)

/-- Whether one of a unit's bindings makes it the subject of a relation. -/
def subjectBound (unitBindings : List Binding) (r : Relation) : Bool :=
  unitBindings.any fun b => b.binds r.conceptId r.subjectRole

/-- The property that a name stands for, by way of the first binding that ties the type to the
    role and has the name. -/
def resolveProperty (bindings : List Binding) (type concept role : Ident) (localName : String) :
    Option Ident :=
  (bindings.filter (ties type concept role)).findSome? fun b => b.propertyFor localName

/-- The value behind a name. -/
def resolve (bindings : List Binding) (data : EntityData) (localName : String)
    (concept role : Ident) : Option PropertyValue :=
  (resolveProperty bindings data.typeId concept role localName).bind data.get?

end HexRules.Movement
