import HexRules.Entity
import HexRules.Property.Codec

/-!
# Documents of entities

The documents of entity types, their properties and enumerations, and of the data of objects.
-/

namespace HexRules

namespace EntityRole

def encode (role : EntityRole) : Document := .text role.name

def decode : Document → Decode EntityRole := Decode.named ofName?

end EntityRole

namespace PropertyKind

def encode (kind : PropertyKind) : Document := .text kind.name

def decode : Document → Decode PropertyKind := Decode.named ofName?

end PropertyKind

namespace PropertyDef

def encode (p : PropertyDef) : Document :=
  .object [("id", .ofIdent p.id), ("name", .text p.name), ("property_type", p.kind.encode),
    ("default_value", p.default.encode), ("enum_id", .ofOption .ofIdent p.enumId)]

def decode : Document → Decode PropertyDef :=
  Decode.object fun fields =>
    PropertyDef.mk <$> Decode.idField fields
      <*> Decode.field fields "name" Decode.text
      <*> Decode.field fields "property_type" PropertyKind.decode
      <*> Decode.field fields "default_value" PropertyValue.decode
      <*> Decode.fieldOr fields "enum_id" (pure none) (Decode.nullable Decode.ident)

end PropertyDef

namespace EnumDef

def encode (e : EnumDef) : Document :=
  .object [("id", .ofIdent e.id), ("name", .text e.name), ("options", .ofList .text e.options)]

def decode : Document → Decode EnumDef :=
  Decode.object fun fields =>
    EnumDef.mk <$> Decode.idField fields
      <*> Decode.field fields "name" Decode.text
      <*> Decode.fieldOr fields "options" (pure []) (Decode.list Decode.text)

end EnumDef

namespace EntityType

def encode (t : EntityType) : Document :=
  .object [("id", .ofIdent t.id), ("name", .text t.name), ("role", t.role.encode),
    ("color", t.color.encode), ("properties", .ofList PropertyDef.encode t.properties)]

def decode : Document → Decode EntityType :=
  Decode.object fun fields =>
    EntityType.mk <$> Decode.idField fields
      <*> Decode.field fields "name" Decode.text
      <*> Decode.field fields "role" EntityRole.decode
      <*> Decode.fieldOr fields "color" (pure .white) Color.decode
      <*> Decode.fieldOr fields "properties" (pure []) (Decode.list PropertyDef.decode)

end EntityType

namespace EntityData

def encode (data : EntityData) : Document :=
  .object [("entity_type_id", .ofIdent data.typeId),
    ("properties", .ofTable Ident.text PropertyValue.encode data.properties)]

def decode : Document → Decode EntityData :=
  Decode.object fun fields =>
    EntityData.mk <$> Decode.field fields "entity_type_id" Decode.ident
      <*> Decode.fieldOr fields "properties" (pure .empty)
        (Decode.table Ident.parse? PropertyValue.decode)

end EntityData

namespace EntityTypes

def encode (reg : EntityTypes) : Document :=
  .object [("types", .ofList EntityType.encode reg.types),
    ("enum_definitions", .ofList EnumDef.encode reg.enums)]

def decode : Document → Decode EntityTypes :=
  Decode.object fun fields =>
    EntityTypes.mk <$> Decode.fieldOr fields "types" (pure []) (Decode.list EntityType.decode)
      <*> Decode.fieldOr fields "enum_definitions" (pure []) (Decode.list EnumDef.decode)

end EntityTypes

end HexRules
