import HexRules.Ontology.Formula
import HexRules.Property.Codec

/-!
# Documents of formulas

A formula is an object tagged by its `kind`. The operands of a conjunction or a disjunction stand
in the field `exprs`, the operand of a negation in the field `expr`.

Formulas stand one inside the other at no more than `maxLevels` levels. Each takes one level. In a
formula that is read on its own, a conjunction, disjunction or negation takes two, unless its kind
or one that comes before it in this order stands around it; in a formula that is part of something
else it does not. `Room` keeps account of that.

A formula that was read may still be too deep to be written as JSON text. `isWritable` says of a
formula whether it can be, on its own or as part of something else that is no formula.

`assemble` puts a formula together from its fields, given readers of its operands; the recursion
is in `decodeWithin`, which reads the operands wherever they stand.
-/

namespace HexRules

namespace CompareOp

def encode (op : CompareOp) : Document := .text op.name

def decode : Document → Decode CompareOp := Decode.named ofName?

end CompareOp

namespace Formula

/-! ## Writing -/

mutual

/-- The fields after the tag. -/
def encodeFields : Formula → List (String × Document)
  | .propertyCompare role property op value =>
    [("role_id", .ofIdent role), ("property_name", .text property), ("operator", op.encode),
      ("value", value.encode)]
  | .crossCompare leftRole leftProperty op rightRole rightProperty =>
    [("left_role_id", .ofIdent leftRole), ("left_property", .text leftProperty),
      ("operator", op.encode), ("right_role_id", .ofIdent rightRole),
      ("right_property", .text rightProperty)]
  | .isType role type => [("role_id", .ofIdent role), ("entity_type_id", .ofIdent type)]
  | .isNotType role type => [("role_id", .ofIdent role), ("entity_type_id", .ofIdent type)]
  | .pathBudget concept costProperty costRole budgetProperty budgetRole =>
    [("concept_id", .ofIdent concept), ("cost_property", .text costProperty),
      ("cost_role_id", .ofIdent costRole), ("budget_property", .text budgetProperty),
      ("budget_role_id", .ofIdent budgetRole)]
  | .conjunction operands => [("exprs", .list (encodeItems operands))]
  | .disjunction operands => [("exprs", .list (encodeItems operands))]
  | .negation operand =>
    [("expr", .object (("kind", .text operand.kind.name) :: encodeFields operand))]

/-- The documents of several formulas. -/
def encodeItems : List Formula → List Document
  | [] => []
  | f :: rest => .object (("kind", .text f.kind.name) :: encodeFields f) :: encodeItems rest

end

def encode (f : Formula) : Document := .object (("kind", .text f.kind.name) :: encodeFields f)

/-- The greatest number of levels of lists and objects at which a formula is written as JSON. -/
def maxWrittenLevels : Nat := 254

/-- Whether a formula can be written as JSON. -/
def isWritable (f : Formula) : Bool := decide (f.encode.levels ≤ maxWrittenLevels)

/-- Whether a formula of a kind that was known beforehand can be written as JSON. It does not count
    itself, but leaves its operands one level less. -/
def isWritableAs (f : Formula) : Bool :=
  f.operands.all fun g => decide (g.encode.levels < maxWrittenLevels)

/-! ## Reading -/

/-- Reads the fields of a formula of a known kind, given readers of its operand or operands. -/
def assemble (operand : Decode Formula) (operands : Decode (List Formula)) (kind : FormulaKind)
    (fields : List (String × Document)) : Decode Formula :=
  (fun _ f => f) <$> Decode.onlyTag fields kind.name <*>
    match kind with
    | .propertyCompare =>
      Formula.propertyCompare <$> Decode.field fields "role_id" Decode.ident
        <*> Decode.field fields "property_name" Decode.text
        <*> Decode.field fields "operator" CompareOp.decode
        <*> Decode.field fields "value" PropertyValue.decode
    | .crossCompare =>
      Formula.crossCompare <$> Decode.field fields "left_role_id" Decode.ident
        <*> Decode.field fields "left_property" Decode.text
        <*> Decode.field fields "operator" CompareOp.decode
        <*> Decode.field fields "right_role_id" Decode.ident
        <*> Decode.field fields "right_property" Decode.text
    | .isType =>
      Formula.isType <$> Decode.field fields "role_id" Decode.ident
        <*> Decode.field fields "entity_type_id" Decode.ident
    | .isNotType =>
      Formula.isNotType <$> Decode.field fields "role_id" Decode.ident
        <*> Decode.field fields "entity_type_id" Decode.ident
    | .pathBudget =>
      Formula.pathBudget <$> Decode.field fields "concept_id" Decode.ident
        <*> Decode.field fields "cost_property" Decode.text
        <*> Decode.field fields "cost_role_id" Decode.ident
        <*> Decode.field fields "budget_property" Decode.text
        <*> Decode.field fields "budget_role_id" Decode.ident
    | .conjunction => Formula.conjunction <$> operands
    | .disjunction => Formula.disjunction <$> operands
    | .negation => Formula.negation <$> operand

/-- The greatest number of levels at which formulas are read. -/
def maxLevels : Nat := 255

/-- The place of a kind in the order of conjunction, disjunction and negation; all other kinds
    come after them. -/
def rank : FormulaKind → Nat
  | .conjunction => 0
  | .disjunction => 1
  | .negation => 2
  | _ => 3

/-- How deep formulas may still go. -/
structure Room where
  /-- How many levels are left. -/
  levels : Nat
  /-- The rank below which a formula takes two levels. -/
  bound : Nat
  deriving DecidableEq, Repr

namespace Room

/-- The room of a formula that is part of something else. -/
def part : Room := ⟨maxLevels, 0⟩

/-- The room of a formula on its own. -/
def alone : Room := ⟨maxLevels, 3⟩

/-- The number of levels that a formula of a kind takes. -/
def cost (room : Room) (kind : FormulaKind) : Nat := if rank kind < room.bound then 2 else 1

/-- The room inside a formula of a kind, if the formula itself has room. -/
def enter (room : Room) (kind : FormulaKind) : Option Room :=
  if room.cost kind ≤ room.levels then
    some ⟨room.levels - room.cost kind, min (rank kind) room.bound⟩
  else none

/-- The room inside a formula of a kind that was known beforehand. -/
def inside (kind : FormulaKind) : Room := ⟨maxLevels - 1, rank kind⟩

end Room

mutual

/-- Reads a formula of the kind that its tag tells, as far as there is room. -/
def decodeWithin (room : Room) : Document → Decode Formula
  | .object fields =>
    let read := fun kind fieldsOfKind =>
      match room.enter kind with
      | some inner => assemble (operandIn inner fields) (operandsIn inner fields) kind fieldsOfKind
      | none => Decode.fail .tooDeep
    Decode.tagged FormulaKind.ofName? read FormulaKind.name (.object fields)
  | _ => Decode.fail .notTagged

/-- The operand of a negation among the fields. -/
def operandIn (room : Room) : List (String × Document) → Decode Formula
  | [] => Decode.under (.field "expr") (Decode.fail .missing)
  | (name, d) :: rest =>
    if name = "expr" then Decode.under (.field "expr") (decodeWithin room d)
    else operandIn room rest

/-- The operands of a conjunction or a disjunction among the fields. -/
def operandsIn (room : Room) : List (String × Document) → Decode (List Formula)
  | [] => pure []
  | (name, d) :: rest =>
    if name = "exprs" then Decode.under (.field "exprs") (decodeList room d)
    else operandsIn room rest

/-- Reads a list of formulas. -/
def decodeList (room : Room) : Document → Decode (List Formula)
  | .list items => decodeItems room 0 items
  | _ => Decode.fail .notList

/-- Reads formulas, numbered from `i`. -/
def decodeItems (room : Room) (i : Nat) : List Document → Decode (List Formula)
  | [] => pure []
  | d :: rest =>
    List.cons <$> Decode.under (.index i) (decodeWithin room d)
      <*> decodeItems room (i + 1) rest

end

/-- Reads a formula that is part of something else. -/
def decodePart : Document → Decode Formula := decodeWithin .part

/-- Reads a formula on its own. -/
def decode : Document → Decode Formula := decodeWithin .alone

/-- Reads a formula that must be of the given kind; the tag may be left out. -/
def decodeAs (kind : FormulaKind) : Document → Decode Formula :=
  Decode.object fun fields =>
    assemble (operandIn (.inside kind) fields) (operandsIn (.inside kind) fields) kind fields

end Formula

end HexRules
