import HexRules.Text.Digit

/-!
# Identifiers

Everything that can be defined (a type, a concept, a role, a relation, a constraint) is named by
a 128-bit identifier. It is written as 32 lower-case hexadecimal digits in hyphenated groups, and
read in four spellings: the hyphenated one, the bare 32 digits, and the hyphenated one after
`urn:uuid:` or in braces; digits of either case.
-/

namespace HexRules

/-- An identifier: 128 bits, compared as a whole. -/
structure Ident where
  value : BitVec 128
  deriving DecidableEq, Repr

namespace Ident

/-- The sizes of the hyphenated groups. -/
def groups : List Nat := [8, 4, 4, 4, 12]

/-- Cuts the digits into groups of the given sizes, with hyphens between them. -/
def hyphenate : List Nat → List Char → List Char
  | [], _ => []
  | [size], digits => digits.take size
  | size :: sizes, digits => digits.take size ++ '-' :: hyphenate sizes (digits.drop size)

/-- Takes the hyphens out of groups of the given sizes. -/
def unhyphenate : List Nat → List Char → Option (List Char)
  | [], _ => none
  | [size], cs => if cs.length = size then some cs else none
  | size :: sizes, cs =>
    match cs.drop size with
    | '-' :: rest => (unhyphenate sizes rest).map (cs.take size ++ ·)
    | _ => none

/-- The identifier as hyphenated lower-case text. -/
def write (id : Ident) : List Char := hyphenate groups (Text.hexDigits 32 id.value.toNat)

/-- The identifier as hyphenated lower-case text. -/
def text (id : Ident) : String := String.ofList id.write

/-- The value of a string of hexadecimal digits, read on from `value`. -/
def readDigits : Nat → List Char → Option Nat
  | value, [] => some value
  | value, c :: cs =>
    match Text.hexDigit? c with
    | some d => readDigits (16 * value + d) cs
    | none => none

/-- What may stand before a hyphenated identifier. -/
def urn : List Char := ['u', 'r', 'n', ':', 'u', 'u', 'i', 'd', ':']

/-- Takes off `urn:uuid:`, or one pair of braces. -/
def unwrap (cs : List Char) : List Char :=
  match cs with
  | '{' :: rest => if rest.getLast? = some '}' then rest.dropLast else cs
  | _ => if urn.isPrefixOf cs then cs.drop urn.length else cs

/-- Reads an identifier in any of the four spellings. -/
def read? (cs : List Char) : Option Ident :=
  let digits := if cs.length = 32 then some cs else unhyphenate groups (unwrap cs)
  (digits.bind (readDigits 0)).map fun n => ⟨BitVec.ofNat 128 n⟩

/-- Reads an identifier in any of the four spellings. -/
def parse? (s : String) : Option Ident := read? s.toList

end Ident

/-! ## Fresh identifiers -/

/-- A source of fresh identifiers, which are numbered. -/
structure Supply where
  /-- How many identifiers were handed out. -/
  minted : Nat
  deriving DecidableEq, Repr

namespace Supply

/-- A source that has handed out nothing yet. -/
def start : Supply := ⟨0⟩

/-- The fresh identifier with a number: a random identifier's fixed bits, ones in front and the
    number in the last group. -/
def numbered (n : Nat) : Ident := ⟨BitVec.ofNat 128 (0xffffffff000040008000000000000000 + n)⟩

/-- Hands out the next identifier. -/
def mint (supply : Supply) : Ident × Supply :=
  (numbered (supply.minted + 1), ⟨supply.minted + 1⟩)

end Supply

end HexRules
