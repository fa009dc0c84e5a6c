import HexRules.Property
import HexRules.Registry

/-!
# Entities

An entity type describes a kind of board object: its role on the board and its properties, each
with a kind and a default value. The data of an object on the board names its type and holds
values of properties, by identifier.

`EntityTypes` is the registry of types and enumerations.

Results:
* `EntityData.get?_spawn`: a new object holds the default of the last property with an
  identifier.
-/

namespace HexRules

/-- What an entity type stands for on the board. -/
inductive EntityRole
  | boardPosition
  | token
  deriving DecidableEq, Repr

namespace EntityRole

def name : EntityRole → String
  | .boardPosition => "board_position"
  | .token => "token"

/-- All roles. -/
def all : List EntityRole := [.boardPosition, .token]

def ofName? (word : String) : Option EntityRole := all.find? (·.name == word)

end EntityRole

/-- A property that objects of a type have. -/
structure PropertyDef where
  id : Ident
  name : String
  kind : PropertyKind
  default : PropertyValue
  /-- The enumeration with the options, for a property of kind enum. -/
  enumId : Option Ident
  deriving BEq, Repr

instance : Identified PropertyDef := ⟨PropertyDef.id⟩

/-- A named list of options. -/
structure EnumDef where
  id : Ident
  name : String
  options : List String
  deriving DecidableEq, Repr

instance : Identified EnumDef := ⟨EnumDef.id⟩

/-- A kind of board object. -/
structure EntityType where
  id : Ident
  name : String
  role : EntityRole
  color : Color
  properties : List PropertyDef
  deriving BEq, Repr

instance : Identified EntityType := ⟨EntityType.id⟩

namespace EntityType

/-- The property with an identifier. -/
def property? (t : EntityType) (id : Ident) : Option PropertyDef := Registry.find? id t.properties

/-- Whether there is a property with an identifier. -/
def hasProperty (t : EntityType) (id : Ident) : Bool := (t.property? id).isSome

end EntityType

/-- The state of one object on the board. -/
structure EntityData where
  typeId : Ident
  properties : Table Ident PropertyValue
  deriving BEq

namespace EntityData

/-- The value of a property. -/
def get? (data : EntityData) (id : Ident) : Option PropertyValue := data.properties.get? id

/-- The data with a value written to a property. -/
def set (data : EntityData) (id : Ident) (value : PropertyValue) : EntityData :=
  { data with properties := data.properties.insert id value }

/-- The data of a new object of a type: every property has its default value. -/
def spawn (t : EntityType) : EntityData :=
  ⟨t.id, .ofList (t.properties.map fun p => (p.id, p.default))⟩

theorem get?_set (data : EntityData) (id id' : Ident) (value : PropertyValue) :
    (data.set id value).get? id' = if id = id' then some value else data.get? id' :=
  Table.get?_insert data.properties id id' value

theorem get?_spawn (t : EntityType) (id : Ident) :
    (spawn t).get? id = (Registry.find? id t.properties.reverse).map PropertyDef.default := by
  unfold get? spawn
  rw [Table.get?_ofList, ← List.map_reverse]
  unfold Registry.find?
  generalize t.properties.reverse = properties
  induction properties with
  | nil => rfl
  | cons p rest ih =>
    by_cases h : p.id = id
    · simp [Table.find?, Identified.id, h]
    · simp only [List.map_cons, Table.find?, h, if_false, ih]
      simp [Identified.id, h]

end EntityData

/-- All entity types and enumerations. -/
structure EntityTypes where
  types : List EntityType
  enums : List EnumDef
  deriving BEq, Repr

namespace EntityTypes

/-- The registry without entries. -/
def empty : EntityTypes := ⟨[], []⟩

/-- The type with an identifier. -/
def get? (reg : EntityTypes) (id : Ident) : Option EntityType := Registry.find? id reg.types

/-- The type with an identifier, which must be there. -/
def require (reg : EntityTypes) (id : Ident) : Except RegistryError EntityType :=
  Registry.require .entityType id reg.types

/-- The enumeration with an identifier. -/
def enum? (reg : EntityTypes) (id : Ident) : Option EnumDef := Registry.find? id reg.enums

/-- The type that was added first. -/
def first? (reg : EntityTypes) : Option EntityType := reg.types.head?

/-- The name of a type, or another word where there is no such type. -/
def nameOf (reg : EntityTypes) (id : Ident) (otherwise : String) : String :=
  match reg.get? id with
  | some t => t.name
  | none => otherwise

/-- Adds a type. -/
def addType (reg : EntityTypes) (t : EntityType) : Except RegistryError EntityTypes := do
  let types ← Registry.add .entityType (some t.name) t reg.types
  return { reg with types := types }

/-- Removes the first type with an identifier, and gives it back. -/
def removeType (reg : EntityTypes) (id : Ident) :
    Except RegistryError (EntityType × EntityTypes) := do
  let t ← reg.require id
  return (t, { reg with types := Registry.withoutFirst id reg.types })

/-- Adds an enumeration. -/
def addEnum (reg : EntityTypes) (e : EnumDef) : Except RegistryError EntityTypes := do
  let enums ← Registry.add .enumeration (some e.name) e reg.enums
  return { reg with enums := enums }

end EntityTypes

end HexRules
