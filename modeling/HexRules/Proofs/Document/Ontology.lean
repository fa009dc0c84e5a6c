import HexRules.Ontology.Codec
import HexRules.Proofs.Document.Formulas

/-!
# Documents of the ontology

Concepts and bindings hold no floating-point numbers, so they are read as they were written
whatever is in them. Effects, relations and constraints hold formulas, and are valid if these fit.
They are read as they were written unless a value in a formula is not finite.

Results:
* `Concepts.restores`: concepts and bindings are always read again.
* `Effect.faithful`, `Relations.faithful`, `Constraints.faithful`: so are valid relations and
  constraints, if the values in their formulas are finite.
-/

namespace HexRules

open Decode

/-! ## Concepts and bindings -/

namespace ConceptRole

theorem restores (role : ConceptRole) : Restores (decode role.encode.portable) role True :=
  ((((Restores.fieldOr rfl (.ident role.id)).map ConceptRole.mk).seq
    (.field rfl (.pure role.name))).seq
    (.fieldOr rfl (.list fun r _ => .named EntityRole.ofName?_name r))).congr (by simp)

end ConceptRole

namespace Concept

theorem restores (c : Concept) : Restores (decode c.encode.portable) c True :=
  (((((Restores.fieldOr rfl (.ident c.id)).map Concept.mk).seq (.field rfl (.pure c.name))).seq
    (.fieldOr rfl (.pure c.description))).seq
    (.fieldOr rfl (.list fun role _ => role.restores))).congr (by simp)

end Concept

namespace PropertyBinding

theorem restores (p : PropertyBinding) : Restores (decode p.encode.portable) p True :=
  (((Restores.field rfl (.ident p.propertyId)).map PropertyBinding.mk).seq
    (.field rfl (.pure p.localName))).congr (by simp)

end PropertyBinding

namespace Binding

theorem restores (b : Binding) : Restores (decode b.encode.portable) b True :=
  ((((((Restores.fieldOr rfl (.ident b.id)).map Binding.mk).seq
    (.field rfl (.ident b.typeId))).seq (.field rfl (.ident b.conceptId))).seq
    (.field rfl (.ident b.roleId))).seq
    (.fieldOr rfl (.list fun p _ => p.restores))).congr (by simp)

end Binding

namespace Concepts

theorem restores (reg : Concepts) : Restores (decode reg.encode.portable) reg True :=
  (((Restores.fieldOr rfl (.list fun c _ => c.restores)).map Concepts.mk).seq
    (.fieldOr rfl (.list fun b _ => b.restores))).congr (by simp)

end Concepts

/-! ## Relations -/

namespace Trigger

theorem ofName?_name (trigger : Trigger) : ofName? trigger.name = some trigger := by
  cases trigger <;> rfl

end Trigger

namespace Operation

theorem ofName?_name (operation : Operation) : ofName? operation.name = some operation := by
  cases operation <;> rfl

end Operation

namespace EffectKind

theorem ofName?_name (kind : EffectKind) : ofName? kind.name = some kind := by
  cases kind <;> rfl

end EffectKind

section

variable (P : PropertyValue → Prop)

/-- A property of all values in the condition, if there is one. -/
def Effect.EachValue (e : Effect) : Prop := ∀ f ∈ e.condition?, f.EachValue P

/-- A property of all values in the effect. -/
def Relation.EachValue (r : Relation) : Prop := r.effect.EachValue P

/-- A property of all values in all relations. -/
def Relations.EachValue (reg : Relations) : Prop := ∀ r ∈ reg.relations, r.EachValue P

/-- A property of all values in the formula. -/
def Constraint.EachValue (c : Constraint) : Prop := c.formula.EachValue P

/-- A property of all values in all constraints. -/
def Constraints.EachValue (reg : Constraints) : Prop := ∀ c ∈ reg.constraints, c.EachValue P

end

namespace Effect

/-- The condition, if there is one, fits. -/
def Valid (e : Effect) : Prop := ∀ f ∈ e.condition?, f.Fits .part

/-- A valid effect of a kind that was known beforehand. -/
def ValidAs (kind : EffectKind) (e : Effect) : Prop := e.kind = kind ∧ e.Valid

theorem yields_decodeCondition (fields : List (String × Document)) :
    Yields (decodeCondition fields) fun condition => ∀ f ∈ condition, f.Fits .part :=
  .fieldOr (.pure (by simp)) (.nullable (Formula.faithful_decodeWithin .part).yields)

/-- A condition is read again; one that is absent is null from then on. -/
theorem restores_decodeCondition {condition : Option Formula}
    (h : ∀ f ∈ condition, f.Fits .part) (d : Document) :
    Restores (decodeCondition
      [("kind", d), ("condition", (Document.ofOption Formula.encode condition).portable)])
      condition (∀ f ∈ condition, f.EachValue PropertyValue.Finite) :=
  .fieldOr rfl (.nullable (by simp [Formula.encode, Document.portable]) fun f hf =>
    (Formula.faithful_decodeWithin .part).restores (h f hf))

theorem yields_decodeFields (kind : EffectKind) (fields : List (String × Document)) :
    Yields (decodeFields kind fields) (ValidAs kind) := by
  cases kind with
  | modify =>
    refine (Yields.afterTag (((Yields.any _).map.seq (.any _)).seq (.any _))).mono ?_
    rintro _ ⟨_, ⟨_, ⟨target, -, rfl⟩, source, -, rfl⟩, operation, -, rfl⟩
    exact ⟨rfl, by simp [Valid, condition?]⟩
  | block =>
    refine (Yields.afterTag (yields_decodeCondition fields).map).mono ?_
    rintro _ ⟨condition, hcondition, rfl⟩
    exact ⟨rfl, hcondition⟩
  | allow =>
    refine (Yields.afterTag (yields_decodeCondition fields).map).mono ?_
    rintro _ ⟨condition, hcondition, rfl⟩
    exact ⟨rfl, hcondition⟩

/-- The fields that are written of an effect are read as the effect, by whoever knows its kind. -/
theorem restores_decodeFields {e : Effect} (h : e.Valid) :
    Restores (decodeFields e.kind
      (("kind", .text e.kind.name) :: Document.portableFields e.encodeFields)) e
      (e.EachValue PropertyValue.Finite) := by
  cases e with
  | modify target source operation =>
    exact (Restores.afterTag rfl ((((Restores.field rfl (.pure target)).map
      Effect.modify).seq (.field rfl (.pure source))).seq
      (.field rfl (.named Operation.ofName?_name operation)))).congr
      (by simp [EachValue, condition?])
  | block condition =>
    exact .afterTag rfl ((restores_decodeCondition h _).map Effect.block)
  | allow condition =>
    exact .afterTag rfl ((restores_decodeCondition h _).map Effect.allow)

theorem faithful_decodeAs (kind : EffectKind) :
    Faithful (decodeAs kind) encode (ValidAs kind) (EachValue PropertyValue.Finite) where
  yields := .object (yields_decodeFields kind)
  restores := by
    rintro e ⟨rfl, he⟩
    exact restores_decodeFields he

theorem faithful : Faithful decode encode Valid (EachValue PropertyValue.Finite) where
  yields := .tagged fun kind fields => (yields_decodeFields kind fields).mono fun _ he => he.2
  restores := fun {e} he => .tagged rfl e.kind.ofName?_name (restores_decodeFields he)

end Effect

namespace Relation

/-- The effect is valid. -/
def Valid (r : Relation) : Prop := r.effect.Valid

theorem faithful : Faithful decode encode Valid (EachValue PropertyValue.Finite) where
  yields := by
    refine Yields.object fun fields => ?_
    refine (((((((Yields.any _).map.seq (.any _)).seq (.any _)).seq (.any _)).seq
      (.any _)).seq (.any _)).seq (.field Effect.faithful.yields)).mono ?_
    rintro _ ⟨_, ⟨_, ⟨_, ⟨_, ⟨_, ⟨_, ⟨id, -, rfl⟩, name, -, rfl⟩, concept, -, rfl⟩, subject, -,
      rfl⟩, object, -, rfl⟩, trigger, -, rfl⟩, effect, heffect, rfl⟩
    exact heffect
  restores := fun {r} heffect =>
    ((((((((Restores.fieldOr rfl (.ident r.id)).map Relation.mk).seq
      (.field rfl (.pure r.name))).seq (.field rfl (.ident r.conceptId))).seq
      (.field rfl (.ident r.subjectRole))).seq (.field rfl (.ident r.objectRole))).seq
      (.fieldOr rfl (.named Trigger.ofName?_name r.trigger))).seq
      (.field rfl (Effect.faithful.restores heffect))).congr (by simp [EachValue])

end Relation

namespace Relations

/-- All relations are valid. -/
def Valid (reg : Relations) : Prop := ∀ r ∈ reg.relations, r.Valid

theorem faithful : Faithful decode encode Valid (EachValue PropertyValue.Finite) where
  yields := by
    refine Yields.object fun fields => ?_
    refine (Yields.fieldOr (.pure (by simp)) (.list Relation.faithful.yields)).map.mono ?_
    rintro _ ⟨relations, hrelations, rfl⟩
    exact hrelations
  restores := fun h =>
    (Restores.fieldOr rfl (.list fun r hr => Relation.faithful.restores (h r hr))).map
      Relations.mk

end Relations

/-! ## Constraints -/

namespace Constraint

/-- The formula fits. -/
def Valid (c : Constraint) : Prop := c.formula.Fits .part

theorem faithful : Faithful decode encode Valid (EachValue PropertyValue.Finite) where
  yields := by
    refine Yields.object fun fields => ?_
    refine (((((((Yields.any _).map.seq (.any _)).seq (.any _)).seq (.any _)).seq
      (.any _)).seq (.field (Formula.faithful_decodeWithin .part).yields)).seq (.any _)).mono ?_
    rintro _ ⟨_, ⟨_, ⟨_, ⟨_, ⟨_, ⟨_, ⟨id, -, rfl⟩, name, -, rfl⟩, description, -, rfl⟩, concept, -,
      rfl⟩, relation, -, rfl⟩, formula, hformula, rfl⟩, generated, -, rfl⟩
    exact hformula
  restores := fun {c} hformula =>
    ((((((((Restores.fieldOr rfl (.ident c.id)).map Constraint.mk).seq
      (.field rfl (.pure c.name))).seq (.fieldOr rfl (.pure c.description))).seq
      (.field rfl (.ident c.conceptId))).seq
      (.fieldOr rfl (.nullable (by simp [Document.ofIdent, Document.portable])
        fun id _ => .ident id))).seq
      (.field rfl ((Formula.faithful_decodeWithin .part).restores hformula))).seq
      (.fieldOr rfl (.pure c.autoGenerated))).congr (by simp [EachValue])

end Constraint

namespace Constraints

/-- All constraints are valid. -/
def Valid (reg : Constraints) : Prop := ∀ c ∈ reg.constraints, c.Valid

theorem faithful : Faithful decode encode Valid (EachValue PropertyValue.Finite) where
  yields := by
    refine Yields.object fun fields => ?_
    refine (Yields.fieldOr (.pure (by simp)) (.list Constraint.faithful.yields)).map.mono ?_
    rintro _ ⟨constraints, hconstraints, rfl⟩
    exact hconstraints
  restores := fun h =>
    (Restores.fieldOr rfl (.list fun c hc => Constraint.faithful.restores (h c hc))).map
      Constraints.mk

end Constraints

end HexRules
