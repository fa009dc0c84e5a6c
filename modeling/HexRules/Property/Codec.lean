import HexRules.Document.Decode
import HexRules.Property

/-!
# Documents of property values

A property value is an object tagged by its `kind`.
-/

namespace HexRules

namespace Color

def encode (c : Color) : Document :=
  .object [("r", .float c.red), ("g", .float c.green), ("b", .float c.blue),
    ("a", .float c.alpha)]

/-- A component: a number from 0 to 1. -/
def decodeComponent (d : Document) : Decode Binary64 :=
  (Decode.float d).check fun x =>
    if !Binary64.le x .one then some .tooLarge
    else if !Binary64.le .zero x then some .tooSmall
    else none

def decode : Document → Decode Color :=
  Decode.object fun fields =>
    Color.mk <$> Decode.field fields "r" decodeComponent
      <*> Decode.field fields "g" decodeComponent
      <*> Decode.field fields "b" decodeComponent
      <*> Decode.fieldOr fields "a" (pure .one) decodeComponent

end Color

namespace PropertyValue

/-- The content alone. -/
def encodeContent : PropertyValue → Document
  | .bool b => .bool b
  | .int n => .int n
  | .float x => .float x
  | .string s => .text s
  | .color c => c.encode
  | .enum option => .text option

def encode (v : PropertyValue) : Document :=
  .object [("kind", .text v.kind.name), ("value", v.encodeContent)]

/-- Reads the content of a value of a known kind. -/
def decodeContent : PropertyKind → Document → Decode PropertyValue
  | .bool, d => .bool <$> Decode.bool d
  | .int, d => .int <$> Decode.int d
  | .float, d => .float <$> Decode.float d
  | .string, d => .string <$> Decode.text d
  | .color, d => .color <$> Color.decode d
  | .enum, d => .enum <$> Decode.text d

/-- Reads the fields of a value of a known kind. -/
def decodeFields (kind : PropertyKind) (fields : List (String × Document)) :
    Decode PropertyValue :=
  (fun _ v => v) <$> Decode.onlyTag fields kind.name
    <*> Decode.field fields "value" (decodeContent kind)

/-- Reads a value that must be of the given kind; the tag may be left out. -/
def decodeAs (kind : PropertyKind) : Document → Decode PropertyValue :=
  Decode.object (decodeFields kind)

/-- Reads a value of the kind that its tag tells. -/
def decode : Document → Decode PropertyValue :=
  Decode.tagged PropertyKind.ofName? decodeFields PropertyKind.name

end PropertyValue

end HexRules
