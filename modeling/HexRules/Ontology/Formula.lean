import HexRules.Ident
import HexRules.Property

/-!
# Formulas

A formula speaks about the objects that play the roles of a concept: it compares their
properties, asks for their types, or limits what a path may cost. Formulas are joined by
conjunction, disjunction and negation.
-/

namespace HexRules

/-- How two values are compared. -/
inductive CompareOp
  | eq
  | ne
  | lt
  | le
  | gt
  | ge
  deriving DecidableEq, Repr

namespace CompareOp

def name : CompareOp → String
  | .eq => "eq"
  | .ne => "ne"
  | .lt => "lt"
  | .le => "le"
  | .gt => "gt"
  | .ge => "ge"

/-- The comparison as it is written between its operands. -/
def symbol : CompareOp → String
  | .eq => "=="
  | .ne => "!="
  | .lt => "<"
  | .le => "<="
  | .gt => ">"
  | .ge => ">="

/-- All comparisons. -/
def all : List CompareOp := [.eq, .ne, .lt, .le, .gt, .ge]

def ofName? (word : String) : Option CompareOp := all.find? (·.name == word)

/-- The comparison with a name, or the complaint that there is none. -/
def parse (word : String) : Except UnknownWord CompareOp :=
  UnknownWord.orElse "CompareOp" word (ofName? word)

end CompareOp

/-- The kinds of formulas. -/
inductive FormulaKind
  | propertyCompare
  | crossCompare
  | isType
  | isNotType
  | pathBudget
  | conjunction
  | disjunction
  | negation
  deriving DecidableEq, Repr

namespace FormulaKind

def name : FormulaKind → String
  | .propertyCompare => "property_compare"
  | .crossCompare => "cross_compare"
  | .isType => "is_type"
  | .isNotType => "is_not_type"
  | .pathBudget => "path_budget"
  | .conjunction => "all"
  | .disjunction => "any"
  | .negation => "not"

/-- All kinds. -/
def all : List FormulaKind :=
  [.propertyCompare, .crossCompare, .isType, .isNotType, .pathBudget, .conjunction,
    .disjunction, .negation]

def ofName? (word : String) : Option FormulaKind := all.find? (·.name == word)

end FormulaKind

/-- A condition on the objects that play the roles of a concept. -/
inductive Formula
  /-- A property of the object in a role compares with a fixed value. -/
  | propertyCompare (role : Ident) (property : String) (op : CompareOp) (value : PropertyValue)
  /-- Properties of the objects in two roles compare. -/
  | crossCompare (leftRole : Ident) (leftProperty : String) (op : CompareOp) (rightRole : Ident)
    (rightProperty : String)
  /-- The object in a role is of a type. -/
  | isType (role type : Ident)
  /-- The object in a role is of another type. -/
  | isNotType (role type : Ident)
  /-- The costs along a path stay within a budget. -/
  | pathBudget (concept : Ident) (costProperty : String) (costRole : Ident)
    (budgetProperty : String) (budgetRole : Ident)
  | conjunction (operands : List Formula)
  | disjunction (operands : List Formula)
  | negation (operand : Formula)
  deriving Repr

namespace Formula

/-- The kind of a formula. -/
def kind : Formula → FormulaKind
  | .propertyCompare .. => .propertyCompare
  | .crossCompare .. => .crossCompare
  | .isType .. => .isType
  | .isNotType .. => .isNotType
  | .pathBudget .. => .pathBudget
  | .conjunction _ => .conjunction
  | .disjunction _ => .disjunction
  | .negation _ => .negation

/-- The formulas that a formula joins. -/
def operands : Formula → List Formula
  | .conjunction operands => operands
  | .disjunction operands => operands
  | .negation operand => [operand]
  | _ => []

mutual

/-- Whether two formulas are of one kind and have equal parts. -/
def same : Formula → Formula → Bool
  | .propertyCompare role property op value, .propertyCompare role' property' op' value' =>
    role == role' && property == property' && op == op' && value == value'
  | .crossCompare role property op other otherProperty,
    .crossCompare role' property' op' other' otherProperty' =>
    role == role' && property == property' && op == op' && other == other' &&
      otherProperty == otherProperty'
  | .isType role type, .isType role' type' => role == role' && type == type'
  | .isNotType role type, .isNotType role' type' => role == role' && type == type'
  | .pathBudget concept cost costRole budget budgetRole,
    .pathBudget concept' cost' costRole' budget' budgetRole' =>
    concept == concept' && cost == cost' && costRole == costRole' && budget == budget' &&
      budgetRole == budgetRole'
  | .conjunction operands, .conjunction operands' => sameAll operands operands'
  | .disjunction operands, .disjunction operands' => sameAll operands operands'
  | .negation operand, .negation operand' => same operand operand'
  | _, _ => false

/-- Whether two lists of formulas are of one length and equal one by one. -/
def sameAll : List Formula → List Formula → Bool
  | [], [] => true
  | f :: rest, g :: rest' => same f g && sameAll rest rest'
  | _, _ => false

end

instance : BEq Formula := ⟨same⟩

end Formula

end HexRules
