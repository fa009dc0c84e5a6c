import HexRules.Entity.Codec
import HexRules.Ontology.Concept
import HexRules.Ontology.Constraint
import HexRules.Ontology.Formula.Codec
import HexRules.Ontology.Relation

/-!
# Documents of the ontology

The documents of concepts, bindings, relations and constraints, and of their registries. A
relation can also be read as an amendment of another one: then the fields that are absent are
those of the other.

What holds formulas can be written as JSON if the formulas are not too deep. An effect counts as
one more level around its condition, unless its kind was known beforehand; a relation or a
constraint does not count.
-/

namespace HexRules

/-! ## Concepts and bindings -/

namespace ConceptRole

def encode (role : ConceptRole) : Document :=
  .object [("id", .ofIdent role.id), ("name", .text role.name),
    ("allowed_entity_roles", .ofList EntityRole.encode role.allowed)]

def decode : Document → Decode ConceptRole :=
  Decode.object fun fields =>
    ConceptRole.mk <$> Decode.idField fields
      <*> Decode.field fields "name" Decode.text
      <*> Decode.fieldOr fields "allowed_entity_roles" (pure []) (Decode.list EntityRole.decode)

end ConceptRole

namespace Concept

def encode (c : Concept) : Document :=
  .object [("id", .ofIdent c.id), ("name", .text c.name), ("description", .text c.description),
    ("role_labels", .ofList ConceptRole.encode c.roles)]

def decode : Document → Decode Concept :=
  Decode.object fun fields =>
    Concept.mk <$> Decode.idField fields
      <*> Decode.field fields "name" Decode.text
      <*> Decode.fieldOr fields "description" (pure "") Decode.text
      <*> Decode.fieldOr fields "role_labels" (pure []) (Decode.list ConceptRole.decode)

end Concept

namespace PropertyBinding

def encode (p : PropertyBinding) : Document :=
  .object [("property_id", .ofIdent p.propertyId), ("concept_local_name", .text p.localName)]

def decode : Document → Decode PropertyBinding :=
  Decode.object fun fields =>
    PropertyBinding.mk <$> Decode.field fields "property_id" Decode.ident
      <*> Decode.field fields "concept_local_name" Decode.text

end PropertyBinding

namespace Binding

def encode (b : Binding) : Document :=
  .object [("id", .ofIdent b.id), ("entity_type_id", .ofIdent b.typeId),
    ("concept_id", .ofIdent b.conceptId), ("concept_role_id", .ofIdent b.roleId),
    ("property_bindings", .ofList PropertyBinding.encode b.properties)]

def decode : Document → Decode Binding :=
  Decode.object fun fields =>
    Binding.mk <$> Decode.idField fields
      <*> Decode.field fields "entity_type_id" Decode.ident
      <*> Decode.field fields "concept_id" Decode.ident
      <*> Decode.field fields "concept_role_id" Decode.ident
      <*> Decode.fieldOr fields "property_bindings" (pure [])
        (Decode.list PropertyBinding.decode)

end Binding

namespace Concepts

def encode (reg : Concepts) : Document :=
  .object [("concepts", .ofList Concept.encode reg.concepts),
    ("bindings", .ofList Binding.encode reg.bindings)]

def decode : Document → Decode Concepts :=
  Decode.object fun fields =>
    Concepts.mk <$> Decode.fieldOr fields "concepts" (pure []) (Decode.list Concept.decode)
      <*> Decode.fieldOr fields "bindings" (pure []) (Decode.list Binding.decode)

end Concepts

/-! ## Relations -/

namespace Trigger

def encode (trigger : Trigger) : Document := .text trigger.name

def decode : Document → Decode Trigger := Decode.named ofName?

end Trigger

namespace Operation

def encode (operation : Operation) : Document := .text operation.name

def decode : Document → Decode Operation := Decode.named ofName?

end Operation

namespace Effect

/-- The fields after the tag. -/
def encodeFields : Effect → List (String × Document)
  | .modify target source operation =>
    [("target_property", .text target), ("source_property", .text source),
      ("operation", operation.encode)]
  | .block condition => [("condition", .ofOption Formula.encode condition)]
  | .allow condition => [("condition", .ofOption Formula.encode condition)]

def encode (e : Effect) : Document := .object (("kind", .text e.kind.name) :: e.encodeFields)

/-- Whether an effect can be written as JSON, with its tag or as part of something else. -/
def isWritable (e : Effect) : Bool := decide (e.encode.levels ≤ Formula.maxWrittenLevels)

/-- Whether an effect of a kind that was known beforehand can be written as JSON. -/
def isWritableAs (e : Effect) : Bool := e.condition?.all Formula.isWritable

/-- The condition of an effect, which may be absent. -/
def decodeCondition (fields : List (String × Document)) : Decode (Option Formula) :=
  Decode.fieldOr fields "condition" (pure none) (Decode.nullable Formula.decodePart)

/-- Reads the fields of an effect of a known kind. -/
def decodeFields (kind : EffectKind) (fields : List (String × Document)) : Decode Effect :=
  (fun _ e => e) <$> Decode.onlyTag fields kind.name <*>
    match kind with
    | .modify =>
      Effect.modify <$> Decode.field fields "target_property" Decode.text
        <*> Decode.field fields "source_property" Decode.text
        <*> Decode.field fields "operation" Operation.decode
    | .block => Effect.block <$> decodeCondition fields
    | .allow => Effect.allow <$> decodeCondition fields

/-- Reads an effect that must be of the given kind; the tag may be left out. -/
def decodeAs (kind : EffectKind) : Document → Decode Effect := Decode.object (decodeFields kind)

/-- Reads an effect of the kind that its tag tells. -/
def decode : Document → Decode Effect :=
  Decode.tagged EffectKind.ofName? decodeFields EffectKind.name

end Effect

namespace Relation

def encode (r : Relation) : Document :=
  .object [("id", .ofIdent r.id), ("name", .text r.name), ("concept_id", .ofIdent r.conceptId),
    ("subject_role_id", .ofIdent r.subjectRole), ("object_role_id", .ofIdent r.objectRole),
    ("trigger", r.trigger.encode), ("effect", r.effect.encode)]

def decode : Document → Decode Relation :=
  Decode.object fun fields =>
    Relation.mk <$> Decode.idField fields
      <*> Decode.field fields "name" Decode.text
      <*> Decode.field fields "concept_id" Decode.ident
      <*> Decode.field fields "subject_role_id" Decode.ident
      <*> Decode.field fields "object_role_id" Decode.ident
      <*> Decode.fieldOr fields "trigger" (pure .onEnter) Trigger.decode
      <*> Decode.field fields "effect" Effect.decode

/-- Whether a relation can be written as JSON. -/
def isWritable (r : Relation) : Bool := r.effect.isWritable

/-- Reads an amendment of a relation. -/
def decodeAmendment (r : Relation) : Document → Decode Relation :=
  Decode.object fun fields =>
    Relation.mk <$> Decode.fieldOr fields "id" (pure r.id) Decode.ident
      <*> Decode.fieldOr fields "name" (pure r.name) Decode.text
      <*> Decode.fieldOr fields "concept_id" (pure r.conceptId) Decode.ident
      <*> Decode.fieldOr fields "subject_role_id" (pure r.subjectRole) Decode.ident
      <*> Decode.fieldOr fields "object_role_id" (pure r.objectRole) Decode.ident
      <*> Decode.fieldOr fields "trigger" (pure r.trigger) Trigger.decode
      <*> Decode.fieldOr fields "effect" (pure r.effect) Effect.decode

end Relation

namespace Relations

def encode (reg : Relations) : Document :=
  .object [("relations", .ofList Relation.encode reg.relations)]

def decode : Document → Decode Relations :=
  Decode.object fun fields =>
    Relations.mk <$> Decode.fieldOr fields "relations" (pure []) (Decode.list Relation.decode)

/-- Whether relations can be written as JSON. -/
def isWritable (reg : Relations) : Bool := reg.relations.all Relation.isWritable

end Relations

/-! ## Constraints -/

namespace Constraint

def encode (c : Constraint) : Document :=
  .object [("id", .ofIdent c.id), ("name", .text c.name), ("description", .text c.description),
    ("concept_id", .ofIdent c.conceptId), ("relation_id", .ofOption .ofIdent c.relationId),
    ("expression", c.formula.encode), ("auto_generated", .bool c.autoGenerated)]

def decode : Document → Decode Constraint :=
  Decode.object fun fields =>
    Constraint.mk <$> Decode.idField fields
      <*> Decode.field fields "name" Decode.text
      <*> Decode.fieldOr fields "description" (pure "") Decode.text
      <*> Decode.field fields "concept_id" Decode.ident
      <*> Decode.fieldOr fields "relation_id" (pure none) (Decode.nullable Decode.ident)
      <*> Decode.field fields "expression" Formula.decodePart
      <*> Decode.fieldOr fields "auto_generated" (pure false) Decode.bool

/-- Whether a constraint can be written as JSON. -/
def isWritable (c : Constraint) : Bool := c.formula.isWritable

end Constraint

namespace Constraints

def encode (reg : Constraints) : Document :=
  .object [("constraints", .ofList Constraint.encode reg.constraints)]

def decode : Document → Decode Constraints :=
  Decode.object fun fields =>
    Constraints.mk <$>
      Decode.fieldOr fields "constraints" (pure []) (Decode.list Constraint.decode)

/-- Whether constraints can be written as JSON. -/
def isWritable (reg : Constraints) : Bool := reg.constraints.all Constraint.isWritable

end Constraints

end HexRules
