import HexRules.Entity

/-!
# Flaws of a schema

A flaw is a place where the definitions do not fit together. Each belongs to a category and has a
source, the definition it is found in; `Flaw.message` puts it into words.
-/

namespace HexRules

/-- The categories of flaws. -/
inductive FlawCategory
  /-- A reference to something that does not exist. -/
  | danglingReference
  /-- An entity type in a concept role that does not admit it. -/
  | roleMismatch
  /-- A name for a property that the entity type lacks. -/
  | propertyMismatch
  /-- A concept role that no entity type is bound to. -/
  | missingBinding
  /-- A formula or a relation with unusable roles or properties. -/
  | invalidExpression
  deriving DecidableEq, Repr

namespace FlawCategory

def name : FlawCategory → String
  | .danglingReference => "dangling_reference"
  | .roleMismatch => "role_mismatch"
  | .propertyMismatch => "property_mismatch"
  | .missingBinding => "missing_binding"
  | .invalidExpression => "invalid_expression"

/-- All categories. -/
def all : List FlawCategory :=
  [.danglingReference, .roleMismatch, .propertyMismatch, .missingBinding, .invalidExpression]

def ofName? (word : String) : Option FlawCategory := all.find? (·.name == word)

/-- The category with a name, or the complaint that there is none. -/
def parse (word : String) : Except UnknownWord FlawCategory :=
  UnknownWord.orElse "SchemaErrorCategory" word (ofName? word)

end FlawCategory

/-- A place where the definitions do not fit together. The first argument is its source. -/
inductive Flaw
  /-- A binding names no entity type. -/
  | bindingType (binding type : Ident)
  /-- A binding names no concept. -/
  | bindingConcept (binding concept : Ident)
  /-- A binding names no role of its concept. -/
  | bindingRole (binding role : Ident) (conceptName : String)
  /-- A binding's role does not admit the entity type. -/
  | notAllowed (binding : Ident) (typeName : String) (role : EntityRole) (roleName : String)
    (allowed : List EntityRole)
  /-- A binding names a property that the entity type lacks. -/
  | bindingProperty (binding property : Ident) (typeName : String)
  /-- A relation names no concept. -/
  | relationConcept (relation : Ident) (name : String) (concept : Ident)
  /-- A relation's subject is no role of its concept. -/
  | subjectRole (relation : Ident) (name : String) (role : Ident) (conceptName : String)
  /-- A relation's object is no role of its concept. -/
  | objectRole (relation : Ident) (name : String) (role : Ident) (conceptName : String)
  /-- A relation's subject and object are one role. -/
  | sameRole (relation : Ident) (name : String)
  /-- A constraint names no concept. -/
  | constraintConcept (constraint : Ident) (name : String) (concept : Ident)
  /-- A constraint's formula names no role of its concept. -/
  | formulaRole (constraint role : Ident) (conceptName : String)
  /-- A constraint's formula names a property that no binding to the role has. -/
  | formulaProperty (constraint : Ident) (property : String) (role : Ident) (conceptName : String)
  /-- A role of a concept is bound to nothing. -/
  | unboundRole (concept : Ident) (roleName conceptName : String)
  deriving DecidableEq, Repr

namespace Flaw

def category : Flaw → FlawCategory
  | .bindingType .. => .danglingReference
  | .bindingConcept .. => .danglingReference
  | .bindingRole .. => .danglingReference
  | .notAllowed .. => .roleMismatch
  | .bindingProperty .. => .propertyMismatch
  | .relationConcept .. => .danglingReference
  | .subjectRole .. => .danglingReference
  | .objectRole .. => .danglingReference
  | .sameRole .. => .invalidExpression
  | .constraintConcept .. => .danglingReference
  | .formulaRole .. => .invalidExpression
  | .formulaProperty .. => .invalidExpression
  | .unboundRole .. => .missingBinding

/-- The definition that the flaw is found in. -/
def source : Flaw → Ident
  | .bindingType binding _ => binding
  | .bindingConcept binding _ => binding
  | .bindingRole binding _ _ => binding
  | .notAllowed binding _ _ _ _ => binding
  | .bindingProperty binding _ _ => binding
  | .relationConcept relation _ _ => relation
  | .subjectRole relation _ _ _ => relation
  | .objectRole relation _ _ _ => relation
  | .sameRole relation _ => relation
  | .constraintConcept constraint _ _ => constraint
  | .formulaRole constraint _ _ => constraint
  | .formulaProperty constraint _ _ _ => constraint
  | .unboundRole concept _ _ => concept

/-- A name between double quotation marks. -/
def inMarks (name : String) : String := String.join ["\"", name, "\""]

/-- The names of roles, in brackets. -/
def roleList (roles : List EntityRole) : String :=
  String.join ["[", String.intercalate ", " (roles.map EntityRole.name), "]"]

/-- The flaw in words. -/
def message : Flaw → String
  | .bindingType _ type =>
    String.join ["ConceptBinding references non-existent entity type ", type.text]
  | .bindingConcept _ concept =>
    String.join ["ConceptBinding references non-existent concept ", concept.text]
  | .bindingRole _ role conceptName =>
    String.join ["ConceptBinding references non-existent concept role ", role.text,
      " within concept ", inMarks conceptName]
  | .notAllowed _ typeName role roleName allowed =>
    String.join ["Entity type ", inMarks typeName, " has role ", role.name,
      " but concept role ", inMarks roleName, " only allows ", roleList allowed]
  | .bindingProperty _ property typeName =>
    String.join ["PropertyBinding references non-existent property ", property.text,
      " on entity type ", inMarks typeName]
  | .relationConcept _ name concept =>
    String.join ["Relation ", inMarks name, " references non-existent concept ", concept.text]
  | .subjectRole _ name role conceptName =>
    String.join ["Relation ", inMarks name, " references non-existent subject role ", role.text,
      " in concept ", inMarks conceptName]
  | .objectRole _ name role conceptName =>
    String.join ["Relation ", inMarks name, " references non-existent object role ", role.text,
      " in concept ", inMarks conceptName]
  | .sameRole _ name =>
    String.join ["Relation ", inMarks name, " has the same role for subject and object"]
  | .constraintConcept _ name concept =>
    String.join ["Constraint ", inMarks name, " references non-existent concept ", concept.text]
  | .formulaRole _ role conceptName =>
    String.join ["Constraint expression references non-existent role ", role.text,
      " in concept ", inMarks conceptName]
  | .formulaProperty _ property role conceptName =>
    String.join ["Constraint expression references unknown concept-local property ",
      inMarks property, " for role ", role.text, " in concept ", inMarks conceptName]
  | .unboundRole _ roleName conceptName =>
    String.join ["Concept role ", inMarks roleName, " in concept ", inMarks conceptName,
      " has no entity type bindings"]

end Flaw

end HexRules
