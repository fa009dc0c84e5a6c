import HexRules.Text.Numeral
import HexRules.Text.Quoted

/-!
# Hexes

The board is a plane of hexagonal cells. A hex is named by two axial coordinates `q` and `r`; the
third cube coordinate `s` is what brings the sum to zero. Coordinates are unbounded.

The key of a hex is its two coordinates with a comma between them. `ofKey` reads any spelling of
two integers around one comma, as long as neither has too many digits.

Results:
* `hasKey_iff`: a hex has a key if both coordinates have few enough digits.
-/

namespace HexRules

/-- A cell of the plane, by its axial coordinates. -/
structure Hex where
  q : Int
  r : Int
  deriving DecidableEq, Repr, Inhabited

namespace Hex

/-- The hex in the middle. -/
def origin : Hex := ⟨0, 0⟩

/-- The third cube coordinate. -/
def s (p : Hex) : Int := -p.q - p.r

/-- The six directions, clockwise from the east. -/
def directions : List Hex := [⟨1, 0⟩, ⟨1, -1⟩, ⟨0, -1⟩, ⟨-1, 0⟩, ⟨-1, 1⟩, ⟨0, 1⟩]

/-- The hex moved by an offset. -/
def move (p offset : Hex) : Hex := ⟨p.q + offset.q, p.r + offset.r⟩

/-- The six hexes around one, in the order of the directions. -/
def neighbors (p : Hex) : List Hex := directions.map p.move

/-- The number of steps between two hexes. -/
def distance (a b : Hex) : Nat :=
  max (max (a.q - b.q).natAbs (a.r - b.r).natAbs) (a.s - b.s).natAbs

/-- Whether two hexes are next to each other. -/
def isAdjacent (a b : Hex) : Bool := a.distance b == 1

/-- The order of hexes: by `q`, then by `r`. -/
def le (a b : Hex) : Bool := decide (a.q < b.q ∨ (a.q = b.q ∧ a.r ≤ b.r))

/-! ## Text forms -/

/-- How a hex is shown. -/
def text (p : Hex) : String :=
  String.join ["HexPosition(", Text.Numeral.text p.q, ", ", Text.Numeral.text p.r, ")"]

/-- The key of a hex. -/
def writeKey (p : Hex) : List Char := Text.Numeral.write p.q ++ ',' :: Text.Numeral.write p.r

/-- The key of a hex. -/
def key (p : Hex) : String := String.ofList p.writeKey

/-- The key of a hex whose coordinates have few enough digits to be shown. -/
def key? (p : Hex) : Option String :=
  if Text.Numeral.isShort p.q ∧ Text.Numeral.isShort p.r then some p.key else none

/-- Whether the coordinates of a hex have few enough digits for a key. -/
def hasKey (p : Hex) : Bool := p.key?.isSome

/-- A hex has no key where one is needed. -/
inductive NoKey
  | tooLong
  deriving DecidableEq, Repr

/-- The complaint that a hex has no key. -/
def NoKey.message : NoKey → String
  | .tooLong => Text.Numeral.tooLongMessage none

/-- The key of a hex that needs one. -/
def requireKey (p : Hex) : Except NoKey String :=
  match p.key? with
  | some key => .ok key
  | none => .error .tooLong

theorem hasKey_iff {p : Hex} :
    p.hasKey = true ↔ Text.Numeral.isShort p.q = true ∧ Text.Numeral.isShort p.r = true := by
  simp [hasKey, key?]

theorem requireKey_of_hasKey {p : Hex} (h : p.hasKey = true) : p.requireKey = .ok p.key := by
  simp only [requireKey, key?, if_pos (hasKey_iff.1 h)]

theorem requireKey_of_not_hasKey {p : Hex} (h : ¬p.hasKey = true) :
    p.requireKey = .error .tooLong := by
  simp only [requireKey, key?, if_neg fun hshort => h (hasKey_iff.2 hshort)]

/-- Why a text is no key. -/
inductive MalformedKey
  | noComma
  | manyCommas
  /-- A part that is no integer. -/
  | notInteger (part : String)
  /-- A part that is an integer of too many digits. -/
  | tooLong (digits : Nat)
  deriving DecidableEq, Repr

/-- How much of a quoted part a complaint shows. -/
def quotedLength : Nat := 200

/-- The complaint about a key. -/
def MalformedKey.message : MalformedKey → String
  | .noComma => "not enough values to unpack (expected 2, got 1)"
  | .manyCommas => "too many values to unpack (expected 2)"
  | .notInteger part =>
    String.join ["invalid literal for int() with base 10: ",
      String.ofList ((Text.quoteChars part.toList).take quotedLength)]
  | .tooLong digits => Text.Numeral.tooLongMessage (some digits)

/-- Cuts a text at its commas. -/
def splitCommas : List Char → List (List Char)
  | [] => [[]]
  | c :: cs =>
    if c = ',' then [] :: splitCommas cs
    else
      match splitCommas cs with
      | part :: parts => (c :: part) :: parts
      | [] => [[c]]

/-- Reads one coordinate. -/
def readCoordinate (cs : List Char) : Except MalformedKey Int :=
  match Text.Numeral.read cs with
  | .ok n => .ok n
  | .error .malformed => .error (.notInteger (String.ofList cs))
  | .error (.tooLong digits) => .error (.tooLong digits)

/-- Reads a key. -/
def readKey (cs : List Char) : Except MalformedKey Hex :=
  match splitCommas cs with
  | [q, r] => do
    let q ← readCoordinate q
    let r ← readCoordinate r
    return ⟨q, r⟩
  | [] => .error .noComma
  | [_] => .error .noComma
  | _ => .error .manyCommas

/-- Reads a key. -/
def ofKey (key : String) : Except MalformedKey Hex := readKey key.toList

end Hex

end HexRules
