import HexRules.Entity
import HexRules.Grid

/-!
# The board

The board holds tiles by the key of their hex, and units by name. At most one unit is selected.

A hex whose coordinates have too many digits has no key, so nothing can be looked up or placed on
it: whoever tries fails. `tileOn` and `dataOn` tell what lies on any hex.

Filling puts a tile on every hex of the map that has none, nearest to a centre first. The centre
decides the order only.

Results:
* `tileAt_of_hasKey`, `tileAt_of_not_hasKey`: looking up a hex gives what lies on it, if the hex has
  a key.
* `tileOn_put`: a tile is found on its hex and on no hex with another key.
-/

namespace HexRules

/-- What lies on a hex. -/
structure Tile where
  position : Hex
  data : EntityData
  deriving BEq

/-- A unit, where it stands. -/
structure BoardUnit where
  id : String
  position : Hex
  data : EntityData
  deriving BEq

/-- The extent of the map. -/
structure GridConfig where
  radius : Nat
  deriving DecidableEq, Repr

/-- The contents of the board. -/
structure Board where
  tiles : Table String Tile
  units : Table String BoardUnit
  deriving BEq

namespace Board

/-- The board without tiles and units. -/
def empty : Board := ⟨.empty, .empty⟩

/-- The tile on a hex; the hex needs a key. -/
def tileAt (board : Board) (p : Hex) : Except Hex.NoKey (Option Tile) :=
  p.requireKey.map board.tiles.get?

/-- The data of the tile on a hex; the hex needs a key. -/
def tileData (board : Board) (p : Hex) : Except Hex.NoKey (Option EntityData) :=
  (board.tileAt p).map (Option.map Tile.data)

/-- The board with a tile under the key of its hex, over the one that is there. -/
def put (board : Board) (p : Hex) (data : EntityData) : Board :=
  { board with tiles := board.tiles.insert p.key ⟨p, data⟩ }

/-- Puts a tile on a hex; the hex needs a key. -/
def placeTile (board : Board) (p : Hex) (data : EntityData) : Except Hex.NoKey Board :=
  p.requireKey.map fun _ => board.put p data

/-- Takes all tiles away. -/
def clearTiles (board : Board) : Board := { board with tiles := .empty }

/-- The unit with a name. -/
def unit? (board : Board) (id : String) : Option BoardUnit := board.units.get? id

/-- Puts a unit on a hex; the unit with this name is gone. -/
def placeUnit (board : Board) (id : String) (p : Hex) (data : EntityData) : Board :=
  { board with units := board.units.insert id ⟨id, p, data⟩ }

/-- Takes a unit away. -/
def removeUnit (board : Board) (id : String) : Board :=
  { board with units := board.units.erase id }

/-- Writes a property of the object on a tile, found by its key. -/
def setTileProperty (board : Board) (key : String) (property : Ident) (value : PropertyValue) :
    Board :=
  match board.tiles.get? key with
  | some tile =>
    { board with
      tiles := board.tiles.insert key { tile with data := tile.data.set property value } }
  | none => board

/-- Writes a property of a unit. -/
def setUnitProperty (board : Board) (id : String) (property : Ident) (value : PropertyValue) :
    Board :=
  match board.units.get? id with
  | some unit =>
    { board with
      units := board.units.insert id { unit with data := unit.data.set property value } }
  | none => board

/-! ## What lies on a hex -/

/-- The tile on a hex. On a hex without key there is none. -/
def tileOn (board : Board) (p : Hex) : Option Tile := (board.tileAt p).toOption.join

/-- The data of the tile on a hex. On a hex without key there is none. -/
def dataOn (board : Board) (p : Hex) : Option EntityData := (board.tileOn p).map Tile.data

section

variable {board : Board} {p : Hex}

theorem tileAt_of_hasKey (h : p.hasKey = true) : board.tileAt p = .ok (board.tileOn p) := by
  rw [tileOn, tileAt, Hex.requireKey_of_hasKey h]
  rfl

theorem tileAt_of_not_hasKey (h : ¬p.hasKey = true) : board.tileAt p = .error .tooLong := by
  rw [tileAt, Hex.requireKey_of_not_hasKey h]
  rfl

theorem tileOn_of_hasKey (h : p.hasKey = true) : board.tileOn p = board.tiles.get? p.key := by
  rw [tileOn, tileAt, Hex.requireKey_of_hasKey h]
  rfl

theorem tileOn_of_not_hasKey (h : ¬p.hasKey = true) : board.tileOn p = none := by
  rw [tileOn, tileAt_of_not_hasKey h]
  rfl

theorem tileData_of_hasKey (h : p.hasKey = true) : board.tileData p = .ok (board.dataOn p) := by
  rw [tileData, tileAt_of_hasKey h]
  rfl

theorem tileData_of_not_hasKey (h : ¬p.hasKey = true) : board.tileData p = .error .tooLong := by
  rw [tileData, tileAt_of_not_hasKey h]
  rfl

theorem placeTile_of_hasKey (data : EntityData) (h : p.hasKey = true) :
    board.placeTile p data = .ok (board.put p data) := by
  rw [placeTile, Hex.requireKey_of_hasKey h]
  rfl

theorem tileOn_empty (p : Hex) : empty.tileOn p = none := by
  by_cases h : p.hasKey = true
  · rw [tileOn_of_hasKey h]
    rfl
  · exact tileOn_of_not_hasKey h

theorem tileOn_put (board : Board) (p p' : Hex) (data : EntityData) :
    (board.put p data).tileOn p' =
      if p'.hasKey = true ∧ p.key = p'.key then some ⟨p, data⟩ else board.tileOn p' := by
  by_cases h : p'.hasKey = true
  · rw [tileOn_of_hasKey h, tileOn_of_hasKey h, put, Table.get?_insert]
    simp [h]
  · rw [tileOn_of_not_hasKey h, tileOn_of_not_hasKey h, if_neg fun hkey => h hkey.1]

end

/-! ## Filling -/

/-- The hexes of the map, nearest to a centre first, and by `q` and `r` at one distance. -/
def fillOrder (radius : Int) (center : Hex) : List Hex :=
  (Grid.positions radius).mergeSort fun a b => decide (a.distance center ≤ b.distance center)

section

variable {m : Type → Type} [Monad m] {ε : Type}

/-- Goes over hexes and puts a tile on each that has none by then, with the data that is given when
    asked for. A hex without key, and a failure of the one who is asked, is the end; the tiles
    placed before stay. -/
def fillHexes (noKey : ε) (ask : Hex → m (Except ε EntityData)) :
    List Hex → Board → m (Except ε Unit × Board)
  | [], board => return (.ok (), board)
  | p :: rest, board =>
    match board.tileAt p with
    | .error _ => return (.error noKey, board)
    | .ok (some _) => fillHexes noKey ask rest board
    | .ok none => do
      match ← ask p with
      | .error e => return (.error e, board)
      | .ok data =>
        match board.placeTile p data with
        | .error _ => return (.error noKey, board)
        | .ok board => fillHexes noKey ask rest board

/-- Fills the gaps on the map with what is given when asked for. -/
def fillAsking (board : Board) (noKey : ε) (radius : Int) (center : Hex)
    (ask : Hex → m (Except ε EntityData)) : m (Except ε Unit × Board) :=
  fillHexes noKey ask (fillOrder radius center) board

end

/-- Fills the gaps on the map with the data made for each hex. -/
def fill (board : Board) (radius : Int) (center : Hex) (make : Hex → EntityData) :
    Except Hex.NoKey Unit × Board :=
  board.fillAsking (m := Id) .tooLong radius center fun p => .ok (make p)

end Board

/-! ## Selection -/

/-- The unit that is selected, if one is. -/
structure Selection where
  entity : Option String
  deriving DecidableEq, Repr

namespace Selection

/-- Nothing is selected. -/
def empty : Selection := ⟨none⟩

/-- The selected unit, if it stands on the board. -/
def unit? (selected : Selection) (board : Board) : Option BoardUnit :=
  selected.entity.bind board.unit?

end Selection

end HexRules
