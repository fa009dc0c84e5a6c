import HexRules.Binary64
import HexRules.Text.Vocabulary

/-!
# Property values

A property of a board object holds a truth value, a number, text, a colour or the name of an
option. Rules read numbers only, as integers: `asInt` rounds a floating-point number toward zero
and finds none in the other kinds. A number that is not finite has no integer to give and is
refused.

Two values are equal (`==`) when they are of one kind and hold equal contents; so an integer
never equals a floating-point number, and a value that holds NaN equals nothing.
-/

namespace HexRules

open Binary64 (NonFinite)

/-- A linear colour with opacity, all four components between 0 and 1. -/
structure Color where
  red : Binary64
  green : Binary64
  blue : Binary64
  alpha : Binary64
  deriving BEq, Repr

/-- Opaque white. -/
def Color.white : Color := ⟨.one, .one, .one, .one⟩

/-- The kind of data a property holds. -/
inductive PropertyKind
  | bool
  | int
  | float
  | string
  | color
  | enum
  deriving DecidableEq, Repr

namespace PropertyKind

def name : PropertyKind → String
  | .bool => "bool"
  | .int => "int"
  | .float => "float"
  | .string => "string"
  | .color => "color"
  | .enum => "enum"

/-- All kinds. -/
def all : List PropertyKind := [.bool, .int, .float, .string, .color, .enum]

def ofName? (word : String) : Option PropertyKind := all.find? (·.name == word)

/-- The kind with a name, or the complaint that there is none. -/
def parse (word : String) : Except UnknownWord PropertyKind :=
  UnknownWord.orElse "PropertyType" word (ofName? word)

end PropertyKind

/-- The content of a property. -/
inductive PropertyValue
  | bool (b : Bool)
  | int (n : Int)
  | float (x : Binary64)
  | string (s : String)
  | color (c : Color)
  /-- The name of an option of an enumeration. -/
  | enum (option : String)
  deriving BEq, Repr

namespace PropertyValue

/-- The kind of a value. -/
def kind : PropertyValue → PropertyKind
  | .bool _ => .bool
  | .int _ => .int
  | .float _ => .float
  | .string _ => .string
  | .color _ => .color
  | .enum _ => .enum

/-- The value a property of a kind starts with. -/
def default : PropertyKind → PropertyValue
  | .bool => .bool false
  | .int => .int 0
  | .float => .float .zero
  | .string => .string ""
  | .color => .color .white
  | .enum => .enum ""

/-- The number in a value, rounded toward zero; no number where the value is absent or of
    another kind. -/
def asInt : Option PropertyValue → Except NonFinite (Option Int)
  | some (.int n) => .ok (some n)
  | some (.float x) => x.toInt.map some
  | _ => .ok none

end PropertyValue

end HexRules
