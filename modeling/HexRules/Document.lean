import HexRules.Binary64
import HexRules.Ident
import HexRules.Table
import HexRules.Text.Numeral

/-!
# Documents

A `Document` is the tree in which values are stored and exchanged: null, truth values, integers,
floating-point numbers, text, lists and objects. Integers and floating-point numbers are kept
apart. The names of an object's fields are pairwise different; where they are not, the first
counts.

A number that is not finite has no spelling in JSON; in a `portable` document there is null in its
place. `throughText?` is what becomes of a portable document that is written as text and read back.
What is nested at too many levels is not read back, and neither is an integer of too many digits.
-/

namespace HexRules

/-- A tree of values. -/
inductive Document
  | null
  | bool (b : Bool)
  | int (n : Int)
  | float (x : Binary64)
  | text (s : String)
  | list (items : List Document)
  | object (fields : List (String × Document))
  deriving Inhabited

namespace Document

/-! ## Building -/

/-- A value that may be absent; null stands for none. -/
def ofOption {α : Type} (write : α → Document) : Option α → Document
  | none => .null
  | some a => write a

/-- A list of values. -/
def ofList {α : Type} (write : α → Document) (items : List α) : Document :=
  .list (items.map write)

/-- A table, as an object whose field names are the keys. -/
def ofTable {κ α : Type} (key : κ → String) (write : α → Document) (t : Table κ α) : Document :=
  .object (t.entries.map fun entry => (key entry.1, write entry.2))

/-- An identifier, as its text. -/
def ofIdent (id : Ident) : Document := .text id.text

/-! ## Looking inside -/

/-- The value of a field. -/
def field? (name : String) (fields : List (String × Document)) : Option Document :=
  fields.lookup name

/-! ## Numbers without spelling -/

mutual

/-- The document with null in place of every number that is not finite. -/
def portable : Document → Document
  | .float x => if x.isFinite then .float x else .null
  | .list items => .list (portableItems items)
  | .object fields => .object (portableFields fields)
  | .null => .null
  | .bool b => .bool b
  | .int n => .int n
  | .text s => .text s

/-- `portable` on every item. -/
def portableItems : List Document → List Document
  | [] => []
  | d :: rest => portable d :: portableItems rest

/-- `portable` on every field's value. -/
def portableFields : List (String × Document) → List (String × Document)
  | [] => []
  | (name, d) :: rest => (name, portable d) :: portableFields rest

end

/-! ## Nesting -/

mutual

/-- The number of levels at which lists and objects stand one inside the other; empty ones do not
    count. -/
def levels : Document → Nat
  | .list items => if items.isEmpty then 0 else itemLevels items + 1
  | .object fields => if fields.isEmpty then 0 else fieldLevels fields + 1
  | _ => 0

/-- The greatest number of levels of an item. -/
def itemLevels : List Document → Nat
  | [] => 0
  | d :: rest => max (levels d) (itemLevels rest)

/-- The greatest number of levels of a field's value. -/
def fieldLevels : List (String × Document) → Nat
  | [] => 0
  | (_, d) :: rest => max (levels d) (fieldLevels rest)

end

/-- The greatest number of levels at which a text is read. -/
def maxLevels : Nat := 200

/-! ## Long integers -/

mutual

/-- Whether all integers in a document have few enough digits to be read. -/
def isShort : Document → Bool
  | .int n => Text.Numeral.isShort n
  | .list items => shortItems items
  | .object fields => shortFields fields
  | _ => true

/-- Whether all integers in some items have few enough digits. -/
def shortItems : List Document → Bool
  | [] => true
  | d :: rest => isShort d && shortItems rest

/-- Whether all integers in some fields have few enough digits. -/
def shortFields : List (String × Document) → Bool
  | [] => true
  | (_, d) :: rest => isShort d && shortFields rest

end

/-- What is read back of a portable document that was written as text. -/
def throughText? (d : Document) : Option Document :=
  if d.levels ≤ maxLevels ∧ d.isShort = true then some d else none

end Document

end HexRules
