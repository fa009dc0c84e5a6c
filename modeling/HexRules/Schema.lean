import HexRules.Ontology.Concept
import HexRules.Ontology.Constraint
import HexRules.Ontology.Relation
import HexRules.Schema.Flaw

/-!
# Schema validation

The definitions of an ontology refer to each other: bindings to entity types, concepts and roles,
relations and constraints to concepts and their roles. `Schema.validate` reports every place
where they do not fit together, in one fixed order: bindings, relations, constraints, and last
the roles that nothing is bound to. Looking for one flaw never hides another, except that what
cannot be found is not searched further.

A formula is checked reference by reference: `Formula.references` are the roles that its leaves
name, with the property asked of each, from left to right.

Results:
* `isValid_iff`: a report is valid exactly when it has no flaws.
-/

namespace HexRules

/-! ## References of a formula -/

/-- A role that a formula names, with the property that it asks of the role, if it asks one. -/
structure RoleReference where
  role : Ident
  property : Option String
  deriving DecidableEq, Repr

namespace Formula

mutual

/-- The references of a formula, from left to right. -/
def references : Formula → List RoleReference
  | .propertyCompare role property _ _ => [⟨role, some property⟩]
  | .crossCompare leftRole leftProperty _ rightRole rightProperty =>
    [⟨leftRole, some leftProperty⟩, ⟨rightRole, some rightProperty⟩]
  | .isType role _ => [⟨role, none⟩]
  | .isNotType role _ => [⟨role, none⟩]
  | .pathBudget _ costProperty costRole budgetProperty budgetRole =>
    [⟨costRole, some costProperty⟩, ⟨budgetRole, some budgetProperty⟩]
  | .conjunction operands => referencesOfAll operands
  | .disjunction operands => referencesOfAll operands
  | .negation operand => references operand

/-- The references of several formulas. -/
def referencesOfAll : List Formula → List RoleReference
  | [] => []
  | f :: rest => references f ++ referencesOfAll rest

end

end Formula

namespace Schema

/-! ## Bindings -/

/-- The flaw where a binding's role does not admit the entity type. -/
def admission (b : Binding) (t : EntityType) (role : ConceptRole) : List Flaw :=
  if role.allowed.contains t.role then []
  else [.notAllowed b.id t.name t.role role.name role.allowed]

/-- The flaws of a binding's names for properties of an entity type. -/
def propertyFlaws (b : Binding) (t : EntityType) : List Flaw :=
  (b.properties.filter fun p => !t.hasProperty p.propertyId).map fun p =>
    .bindingProperty b.id p.propertyId t.name

/-- The flaws of a binding. -/
def bindingFlaws (concepts : Concepts) (types : EntityTypes) (b : Binding) : List Flaw :=
  let type := types.get? b.typeId
  let concept := concepts.get? b.conceptId
  let role := concept.bind (·.role? b.roleId)
  (match type with
    | none => [.bindingType b.id b.typeId]
    | some _ => []) ++
  (match concept, role with
    | none, _ => [.bindingConcept b.id b.conceptId]
    | some c, none => [.bindingRole b.id b.roleId c.name]
    | some _, some _ => []) ++
  (match type, role with
    | some t, some r => admission b t r
    | _, _ => []) ++
  (match type with
    | some t => propertyFlaws b t
    | none => [])

/-! ## Relations -/

/-- The flaws of a relation's roles in its concept. -/
def roleFlaws (r : Relation) (c : Concept) : List Flaw :=
  (if c.hasRole r.subjectRole then [] else [.subjectRole r.id r.name r.subjectRole c.name]) ++
  (if c.hasRole r.objectRole then [] else [.objectRole r.id r.name r.objectRole c.name]) ++
  (if c.hasRole r.subjectRole ∧ c.hasRole r.objectRole ∧ r.subjectRole = r.objectRole then
    [.sameRole r.id r.name]
  else [])

/-- The flaws of a relation. -/
def relationFlaws (concepts : Concepts) (r : Relation) : List Flaw :=
  match concepts.get? r.conceptId with
  | none => [.relationConcept r.id r.name r.conceptId]
  | some c => roleFlaws r c

/-! ## Constraints -/

/-- The flaw of one reference of a constraint. A property is asked only of a role that exists and
    that something is bound to. -/
def referenceFlaws (concepts : Concepts) (source : Ident) (c : Concept) (ref : RoleReference) :
    List Flaw :=
  if c.hasRole ref.role then
    match ref.property with
    | none => []
    | some property =>
      let bound := concepts.bindingsOfRole c.id ref.role
      if bound.isEmpty || bound.any fun b => (b.propertyFor property).isSome then []
      else [.formulaProperty source property ref.role c.name]
  else [.formulaRole source ref.role c.name]

/-- The flaws of a constraint. -/
def constraintFlaws (concepts : Concepts) (k : Constraint) : List Flaw :=
  match concepts.get? k.conceptId with
  | none => [.constraintConcept k.id k.name k.conceptId]
  | some c => k.formula.references.flatMap (referenceFlaws concepts k.id c)

/-! ## Roles without binding -/

/-- The roles of a concept that nothing is bound to. -/
def unboundRoles (concepts : Concepts) (c : Concept) : List Flaw :=
  (c.roles.filter fun role => (concepts.bindingsOfRole c.id role.id).isEmpty).map fun role =>
    .unboundRole c.id role.name c.name

end Schema

/-! ## The report -/

/-- The outcome of a validation: the flaws, in the order in which they are found. -/
structure SchemaReport where
  flaws : List Flaw
  deriving DecidableEq, Repr

namespace SchemaReport

/-- The report without flaws. -/
def clean : SchemaReport := ⟨[]⟩

/-- Whether all fits together. -/
def isValid (report : SchemaReport) : Bool := report.flaws.isEmpty

/-- The flaws of a category. -/
def flawsOf (report : SchemaReport) (category : FlawCategory) : List Flaw :=
  report.flaws.filter (·.category = category)

/-- Whether there is a flaw of a category. -/
def has (report : SchemaReport) (category : FlawCategory) : Bool :=
  report.flaws.any (·.category = category)

theorem isValid_iff {report : SchemaReport} : report.isValid = true ↔ report.flaws = [] :=
  List.isEmpty_iff

end SchemaReport

/-- Validates an ontology. -/
def Schema.validate (concepts : Concepts) (relations : Relations) (constraints : Constraints)
    (types : EntityTypes) : SchemaReport :=
  ⟨concepts.bindings.flatMap (Schema.bindingFlaws concepts types) ++
    relations.relations.flatMap (Schema.relationFlaws concepts) ++
    constraints.constraints.flatMap (Schema.constraintFlaws concepts) ++
    concepts.concepts.flatMap (Schema.unboundRoles concepts)⟩

end HexRules
