import HexRules.Board.Codec
import HexRules.Ontology.Codec

/-!
# Classes of documents

`DocumentClass` lists the classes of all that has documents, with the type of their instances and
the way in which they are read and written. A class of property values, formulas or effects is
either that of one kind, or the union of all kinds, which are told apart by their tags.

`dump` is what an instance is written as: a tree with null in place of every number that is not
finite. It fails if the formulas in the instance are too deep to be written.
-/

namespace HexRules

/-- The classes of what has documents. -/
inductive DocumentClass
  | color
  /-- Property values of one kind, or of any kind. -/
  | value (kind : Option PropertyKind)
  | propertyDef
  | enumDef
  | entityType
  | entityData
  | entityTypes
  | hex
  | grid
  | tile
  | unit
  | board
  | selection
  | conceptRole
  | concept
  | propertyBinding
  | binding
  | concepts
  /-- Formulas of one kind, or of any kind. -/
  | formula (kind : Option FormulaKind)
  /-- Effects of one kind, or of any kind. -/
  | effect (kind : Option EffectKind)
  | relation
  | relations
  | constraint
  | constraints
  /-- What has a version and no fields. -/
  | versioned
  deriving DecidableEq, Repr

namespace DocumentClass

/-- The type of the instances of a class. -/
def Instance : DocumentClass → Type
  | color => Color
  | value _ => PropertyValue
  | propertyDef => PropertyDef
  | enumDef => EnumDef
  | entityType => EntityType
  | entityData => EntityData
  | entityTypes => EntityTypes
  | hex => Hex
  | grid => GridConfig
  | tile => Tile
  | unit => BoardUnit
  | board => Board
  | selection => Selection
  | conceptRole => ConceptRole
  | concept => Concept
  | propertyBinding => PropertyBinding
  | binding => Binding
  | concepts => Concepts
  | formula _ => Formula
  | effect _ => Effect
  | relation => Relation
  | relations => Relations
  | constraint => Constraint
  | constraints => Constraints
  | versioned => Unit

/-- Reads an instance of a class. -/
def decode : (c : DocumentClass) → Document → Decode c.Instance
  | color => Color.decode
  | value none => PropertyValue.decode
  | value (some kind) => PropertyValue.decodeAs kind
  | propertyDef => PropertyDef.decode
  | enumDef => EnumDef.decode
  | entityType => EntityType.decode
  | entityData => EntityData.decode
  | entityTypes => EntityTypes.decode
  | hex => Hex.decode
  | grid => GridConfig.decode
  | tile => Tile.decode
  | unit => BoardUnit.decode
  | board => Board.decode
  | selection => Selection.decode
  | conceptRole => ConceptRole.decode
  | concept => Concept.decode
  | propertyBinding => PropertyBinding.decode
  | binding => Binding.decode
  | concepts => Concepts.decode
  | formula none => Formula.decode
  | formula (some kind) => Formula.decodeAs kind
  | effect none => Effect.decode
  | effect (some kind) => Effect.decodeAs kind
  | relation => Relation.decode
  | relations => Relations.decode
  | constraint => Constraint.decode
  | constraints => Constraints.decode
  | versioned => Decode.object fun _ => pure ()

/-- The tree of an instance, with all numbers in it. -/
def encode : (c : DocumentClass) → c.Instance → Document
  | color => Color.encode
  | value _ => PropertyValue.encode
  | propertyDef => PropertyDef.encode
  | enumDef => EnumDef.encode
  | entityType => EntityType.encode
  | entityData => EntityData.encode
  | entityTypes => EntityTypes.encode
  | hex => Hex.encode
  | grid => GridConfig.encode
  | tile => Tile.encode
  | unit => BoardUnit.encode
  | board => Board.encode
  | selection => Selection.encode
  | conceptRole => ConceptRole.encode
  | concept => Concept.encode
  | propertyBinding => PropertyBinding.encode
  | binding => Binding.encode
  | concepts => Concepts.encode
  | formula _ => Formula.encode
  | effect _ => Effect.encode
  | relation => Relation.encode
  | relations => Relations.encode
  | constraint => Constraint.encode
  | constraints => Constraints.encode
  | versioned => fun _ => .object []

/-- Whether an instance of a class can be written as JSON. Only formulas may be too deep. -/
def isWritable : (c : DocumentClass) → c.Instance → Bool
  | formula none => Formula.isWritable
  | formula (some _) => Formula.isWritableAs
  | effect none => Effect.isWritable
  | effect (some _) => Effect.isWritableAs
  | relation => Relation.isWritable
  | relations => Relations.isWritable
  | constraint => Constraint.isWritable
  | constraints => Constraints.isWritable
  | color | value _ | propertyDef | enumDef | entityType | entityData | entityTypes | hex | grid
  | tile | unit | board | selection | conceptRole | concept | propertyBinding | binding | concepts
  | versioned => fun _ => true

/-- Why an instance is not written as JSON. -/
inductive Unwritable
  /-- Formulas stand one inside the other at too many levels. -/
  | tooDeep
  deriving DecidableEq, Repr

/-- The complaint about an instance that is not written. -/
def Unwritable.message : Unwritable → String
  | .tooDeep => "Error serializing to JSON: ValueError: Maximum serialization depth exceeded"

/-- The tree that an instance is written as, if it can be. -/
def dump (c : DocumentClass) (a : c.Instance) : Except Unwritable Document :=
  if c.isWritable a then .ok (c.encode a).portable else .error .tooDeep

instance (c : DocumentClass) : BEq c.Instance :=
  match c with
  | color => inferInstanceAs (BEq Color)
  | value _ => inferInstanceAs (BEq PropertyValue)
  | propertyDef => inferInstanceAs (BEq PropertyDef)
  | enumDef => inferInstanceAs (BEq EnumDef)
  | entityType => inferInstanceAs (BEq EntityType)
  | entityData => inferInstanceAs (BEq EntityData)
  | entityTypes => inferInstanceAs (BEq EntityTypes)
  | hex => inferInstanceAs (BEq Hex)
  | grid => inferInstanceAs (BEq GridConfig)
  | tile => inferInstanceAs (BEq Tile)
  | unit => inferInstanceAs (BEq BoardUnit)
  | board => inferInstanceAs (BEq Board)
  | selection => inferInstanceAs (BEq Selection)
  | conceptRole => inferInstanceAs (BEq ConceptRole)
  | concept => inferInstanceAs (BEq Concept)
  | propertyBinding => inferInstanceAs (BEq PropertyBinding)
  | binding => inferInstanceAs (BEq Binding)
  | concepts => inferInstanceAs (BEq Concepts)
  | formula _ => inferInstanceAs (BEq Formula)
  | effect _ => inferInstanceAs (BEq Effect)
  | relation => inferInstanceAs (BEq Relation)
  | relations => inferInstanceAs (BEq Relations)
  | constraint => inferInstanceAs (BEq Constraint)
  | constraints => inferInstanceAs (BEq Constraints)
  | versioned => inferInstanceAs (BEq Unit)

end DocumentClass

end HexRules
