import HexRules.Board
import HexRules.Entity.Codec

/-!
# Documents of the board

The documents of hexes, the map's extent, tiles, units, the board and the selection.
-/

namespace HexRules

namespace Hex

def encode (p : Hex) : Document := .object [("q", .int p.q), ("r", .int p.r)]

/-- The coordinates among the fields of an object. -/
def decodeFields (fields : List (String × Document)) : Decode Hex :=
  Hex.mk <$> Decode.field fields "q" Decode.int <*> Decode.field fields "r" Decode.int

def decode : Document → Decode Hex := Decode.object decodeFields

end Hex

namespace GridConfig

def encode (grid : GridConfig) : Document := .object [("map_radius", .int grid.radius)]

/-- A radius: an integer that is not negative. -/
def decodeRadius (d : Document) : Decode Nat :=
  Int.toNat <$> (Decode.int d).check fun n => if n < 0 then some .tooSmall else none

def decode : Document → Decode GridConfig :=
  Decode.object fun fields => GridConfig.mk <$> Decode.field fields "map_radius" decodeRadius

end GridConfig

namespace Tile

def encode (tile : Tile) : Document :=
  .object [("position", tile.position.encode), ("data", tile.data.encode)]

def decode : Document → Decode Tile :=
  Decode.object fun fields =>
    Tile.mk <$> Decode.field fields "position" Hex.decode
      <*> Decode.field fields "data" EntityData.decode

end Tile

namespace BoardUnit

def encode (unit : BoardUnit) : Document :=
  .object [("id", .text unit.id), ("position", unit.position.encode),
    ("data", unit.data.encode)]

def decode : Document → Decode BoardUnit :=
  Decode.object fun fields =>
    BoardUnit.mk <$> Decode.field fields "id" Decode.text
      <*> Decode.field fields "position" Hex.decode
      <*> Decode.field fields "data" EntityData.decode

end BoardUnit

namespace Board

def encode (board : Board) : Document :=
  .object [("tiles", .ofTable id Tile.encode board.tiles),
    ("units", .ofTable id BoardUnit.encode board.units)]

def decode : Document → Decode Board :=
  Decode.object fun fields =>
    Board.mk <$> Decode.fieldOr fields "tiles" (pure .empty) (Decode.table some Tile.decode)
      <*> Decode.fieldOr fields "units" (pure .empty) (Decode.table some BoardUnit.decode)

end Board

namespace Selection

def encode (selected : Selection) : Document :=
  .object [("entity", .ofOption .text selected.entity)]

def decode : Document → Decode Selection :=
  Decode.object fun fields =>
    Selection.mk <$> Decode.fieldOr fields "entity" (pure none) (Decode.nullable Decode.text)

end Selection

end HexRules
