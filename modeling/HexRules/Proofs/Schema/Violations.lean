import HexRules.Proofs.Registry.Lookup
import HexRules.Schema

/-!
# What a schema violates

The rules of a schema, one entry for each time that one is broken. An entry is the category of the
flaw and its source. The rules say when they are broken without looking anything up; where an
identifier stands for several things, it means the first.

Results:
* `references_eq_flatMap_leaves`: the references of a formula are what its leaves mention, from left
  to right.
-/

namespace HexRules

/-! ## Leaves of a formula -/

namespace Formula

mutual

/-- The leaves of a formula, from left to right. -/
def leaves : Formula → List Formula
  | .conjunction operands => leavesOfAll operands
  | .disjunction operands => leavesOfAll operands
  | .negation operand => leaves operand
  | leaf => [leaf]

/-- The leaves of several formulas. -/
def leavesOfAll : List Formula → List Formula
  | [] => []
  | f :: rest => leaves f ++ leavesOfAll rest

end

/-- What a leaf mentions; a joined formula is no leaf. -/
def mentions : Formula → List RoleReference
  | .propertyCompare role property _ _ => [⟨role, some property⟩]
  | .crossCompare leftRole leftProperty _ rightRole rightProperty =>
    [⟨leftRole, some leftProperty⟩, ⟨rightRole, some rightProperty⟩]
  | .isType role _ => [⟨role, none⟩]
  | .isNotType role _ => [⟨role, none⟩]
  | .pathBudget _ costProperty costRole budgetProperty budgetRole =>
    [⟨costRole, some costProperty⟩, ⟨budgetRole, some budgetProperty⟩]
  | .conjunction _ => []
  | .disjunction _ => []
  | .negation _ => []

mutual

theorem references_eq_flatMap_leaves (f : Formula) : f.references = f.leaves.flatMap mentions := by
  cases f with
  | conjunction operands => exact referencesOfAll_eq_flatMap_leavesOfAll operands
  | disjunction operands => exact referencesOfAll_eq_flatMap_leavesOfAll operands
  | negation operand => exact references_eq_flatMap_leaves operand
  | _ => rfl

theorem referencesOfAll_eq_flatMap_leavesOfAll (fs : List Formula) :
    referencesOfAll fs = (leavesOfAll fs).flatMap mentions := by
  cases fs with
  | nil => rfl
  | cons f rest =>
    rw [referencesOfAll, leavesOfAll, List.flatMap_append, references_eq_flatMap_leaves f,
      referencesOfAll_eq_flatMap_leavesOfAll rest]

end

end Formula

/-! ## Entries -/

/-- The category of a flaw and its source. -/
def Flaw.entry (f : Flaw) : FlawCategory × Ident := (f.category, f.source)

namespace Schema

open Registry (Finds Lacks)

/-- An entry, if there is cause for it. -/
def noted (category : FlawCategory) (source : Ident) (cause : Prop) [Decidable cause] :
    List (FlawCategory × Ident) :=
  if cause then [(category, source)] else []

/-- What a binding breaks. -/
def bindingViolations (concepts : Concepts) (types : EntityTypes) (b : Binding) :
    List (FlawCategory × Ident) :=
  noted .danglingReference b.id (Lacks types.types b.typeId) ++
  noted .danglingReference b.id (Lacks concepts.concepts b.conceptId) ++
  noted .danglingReference b.id
    (∃ c, Finds concepts.concepts b.conceptId c ∧ Lacks c.roles b.roleId) ++
  noted .roleMismatch b.id
    (∃ t, Finds types.types b.typeId t ∧ ∃ c, Finds concepts.concepts b.conceptId c ∧
      ∃ role, Finds c.roles b.roleId role ∧ t.role ∉ role.allowed) ++
  b.properties.flatMap fun p =>
    noted .propertyMismatch b.id
      (∃ t, Finds types.types b.typeId t ∧ Lacks t.properties p.propertyId)

/-- What a relation breaks. -/
def relationViolations (concepts : Concepts) (r : Relation) : List (FlawCategory × Ident) :=
  if Lacks concepts.concepts r.conceptId then [(.danglingReference, r.id)]
  else
    noted .danglingReference r.id
      (∃ c, Finds concepts.concepts r.conceptId c ∧ Lacks c.roles r.subjectRole) ++
    noted .danglingReference r.id
      (∃ c, Finds concepts.concepts r.conceptId c ∧ Lacks c.roles r.objectRole) ++
    noted .invalidExpression r.id
      (∃ c, Finds concepts.concepts r.conceptId c ∧ ¬Lacks c.roles r.subjectRole ∧
        ¬Lacks c.roles r.objectRole ∧ r.subjectRole = r.objectRole)

/-- A reference is of no use in a concept: there is no such role, or there are bindings to it and
    none of them has the property. -/
def Unusable (concepts : Concepts) (c : Concept) (ref : RoleReference) : Prop :=
  Lacks c.roles ref.role ∨
    ∃ property ∈ ref.property, (∃ b ∈ concepts.bindings, b.conceptId = c.id ∧ b.roleId = ref.role) ∧
      ∀ b ∈ concepts.bindings, b.conceptId = c.id ∧ b.roleId = ref.role →
        ∀ p ∈ b.properties, p.localName ≠ property

instance (concepts : Concepts) (c : Concept) (ref : RoleReference) :
    Decidable (Unusable concepts c ref) :=
  inferInstanceAs (Decidable (_ ∨ _))

/-- What a constraint breaks. -/
def constraintViolations (concepts : Concepts) (k : Constraint) : List (FlawCategory × Ident) :=
  if Lacks concepts.concepts k.conceptId then [(.danglingReference, k.id)]
  else
    (k.formula.leaves.flatMap Formula.mentions).flatMap fun ref =>
      noted .invalidExpression k.id
        (∃ c, Finds concepts.concepts k.conceptId c ∧ Unusable concepts c ref)

/-- The roles of a concept that nothing is bound to. -/
def missingBindings (concepts : Concepts) (c : Concept) : List (FlawCategory × Ident) :=
  c.roles.flatMap fun role =>
    noted .missingBinding c.id
      (∀ b ∈ concepts.bindings, ¬(b.conceptId = c.id ∧ b.roleId = role.id))

end Schema

end HexRules
