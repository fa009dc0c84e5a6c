import HexRules.Board
import HexRules.Movement.Budget
import HexRules.Movement.Search
import HexRules.Ontology.Constraint
import HexRules.Settings

/-!
# Movement

Where can the selected unit go? Without relations that take effect on entering and without
constraints it goes anywhere on the map; otherwise its budget and the relations decide. Nothing is
said when no unit is selected, or the selected one does not stand on the board.

A computation also tells what it did, in `Movement.Event`s; these it tells even if it fails.

Results:
* `mem_valid_ofSearch`: a search reaches the hexes with a best budget, but for the start.
* `Mover.enter_eq_ok_iff`, `Mover.enter_eq_error_iff`: a step onto a hex is decided by what lies
  there, if the hex has a key.
-/

namespace HexRules

/-- All that decides about a unit's moves. -/
structure World where
  types : EntityTypes
  concepts : Concepts
  relations : Relations
  constraints : Constraints
  selected : Selection
  grid : GridConfig
  board : Board

namespace Movement

/-- Where a unit can go. -/
structure MoveSet where
  /-- The unit, if there is one. -/
  unit : Option String
  /-- The hexes that it reaches. -/
  valid : List Hex
  /-- The best budget left on each hex that it reaches; nothing where budgets play no part. -/
  budgets : Table Hex Int
  /-- The findings against each hex that was tried and not reached. -/
  blocked : Table Hex (List Finding)

namespace MoveSet

/-- The moves of no unit. -/
def none : MoveSet := ⟨Option.none, [], .empty, .empty⟩

/-- The moves of a unit without budget. -/
def free (unit : String) (reached : List Hex) : MoveSet := ⟨some unit, reached, .empty, .empty⟩

/-- The moves that a search found. -/
def ofSearch (unit : String) (start : Hex) (s : Search) : MoveSet :=
  let budgets := s.best.erase start
  ⟨some unit, budgets.keys, budgets, s.blocked⟩

theorem mem_valid_ofSearch {unit : String} {start p : Hex} {s : Search} :
    p ∈ (ofSearch unit start s).valid ↔ p ≠ start ∧ ∃ budget, s.best.get? p = some budget := by
  rw [ofSearch, Table.mem_keys]
  by_cases h : start = p
  · simp [Table.get?_erase, h]
  · have h' : p ≠ start := fun e => h e.symm
    simp [Table.get?_erase, h, h']

/-- Whether a hex is reached. -/
def isValid (moves : MoveSet) (p : Hex) : Bool := moves.valid.contains p

/-- The findings against a hex. -/
def findingsAt (moves : MoveSet) (p : Hex) : List Finding := (moves.blocked.get? p).getD []

end MoveSet

/-- What a computation of moves did. -/
inductive Event
  /-- There was no unit. -/
  | cleared
  /-- The unit goes anywhere. -/
  | free (unit : String) (valid : Nat)
  /-- The unit has no budget of its own and got the allotment. -/
  | fallback (budget : Int)
  /-- A search found what the unit reaches. -/
  | budgeted (unit : String) (budget : Int) (valid blocked : Nat)
  deriving DecidableEq, Repr

/-- The rules that a unit with given data moves under, when it acts as a given type. -/
def moverAs (world : World) (type : Ident) (data : EntityData) : Mover where
  data := data
  bindings := world.concepts.bindingsOfType type
  relations := world.relations.onEnter
  concepts := world.concepts
  types := world.types

/-- The rules that a unit with given data moves under. -/
def mover (world : World) (data : EntityData) : Mover := moverAs world data.typeId data

/-- Whether nothing restricts movement. -/
def isFree (world : World) : Bool :=
  world.relations.onEnter.isEmpty && world.constraints.constraints.isEmpty

/-- The search for the moves from a hex with a budget, on a map of a radius. -/
def Mover.quest (m : Mover) (board : Board) (start : Hex) (budget radius : Int) : Quest where
  enter := fun p remaining => do
    let tile ← (board.tileData p).mapError fun _ => .tooLong
    evaluate m tile remaining p
  start := start
  budget := budget
  radius := radius

theorem Mover.enter_of_hasKey {m : Mover} {board : Board} {start p : Hex} {budget radius : Int}
    (h : p.hasKey = true) (remaining : Int) :
    (m.quest board start budget radius).enter p remaining =
      evaluate m (board.dataOn p) remaining p := by
  simp only [Mover.quest, Board.tileData_of_hasKey h]
  rfl

theorem Mover.enter_of_not_hasKey {m : Mover} {board : Board} {start p : Hex}
    {budget radius : Int} (h : ¬p.hasKey = true) (remaining : Int) :
    (m.quest board start budget radius).enter p remaining = .error .tooLong := by
  simp only [Mover.quest, Board.tileData_of_not_hasKey h]
  rfl

theorem Mover.enter_eq_ok_iff {m : Mover} {board : Board} {start p : Hex}
    {budget radius remaining : Int} {v : Verdict} :
    (m.quest board start budget radius).enter p remaining = .ok v ↔
      p.hasKey = true ∧ evaluate m (board.dataOn p) remaining p = .ok v := by
  by_cases h : p.hasKey = true
  · simp [enter_of_hasKey h, h]
  · simp [enter_of_not_hasKey h, h]

theorem Mover.enter_eq_error_iff {m : Mover} {board : Board} {start p : Hex}
    {budget radius remaining : Int} {e : Failure} :
    (m.quest board start budget radius).enter p remaining = .error e ↔
      ¬p.hasKey = true ∧ e = .tooLong ∨
        p.hasKey = true ∧ evaluate m (board.dataOn p) remaining p = .error e := by
  by_cases h : p.hasKey = true
  · simp [enter_of_hasKey h, h]
  · simp [enter_of_not_hasKey h, h, eq_comm]

/-- The search for a unit's moves. -/
def quest (world : World) (unit : BoardUnit) (budget : Int) : Quest :=
  (mover world unit.data).quest world.board unit.position budget world.grid.radius

/-- Searches for a unit's moves with a budget. -/
def searchMoves (world : World) (unit : BoardUnit) (budget : Int) : Except Failure MoveSet := do
  let s ← search (quest world unit budget)
  return .ofSearch unit.id unit.position s

/-- The moves of a unit with a budget, and what was done. -/
def computeBudgeted (perConcept : Int) (world : World) (unit : BoardUnit) :
    List Event × Except Failure MoveSet :=
  match (mover world unit.data).ownBudget with
  | .error e => ([], .error e)
  | .ok own =>
    let budget := own.getD (fallbackBudget perConcept world.concepts)
    let before := if own.isNone then [.fallback budget] else []
    match searchMoves world unit budget with
    | .error e => (before, .error e)
    | .ok moves =>
      (before ++ [.budgeted unit.id budget moves.valid.length moves.blocked.size], .ok moves)

/-- The moves of the selected unit, and what was done. -/
def compute (perConcept : Int) (world : World) : List Event × Except Failure MoveSet :=
  match world.selected.unit? world.board with
  | none => ([.cleared], .ok .none)
  | some unit =>
    if isFree world then
      let reached := Grid.floodFill unit.position world.grid.radius
      ([.free unit.id reached.length], .ok (.free unit.id reached))
    else computeBudgeted perConcept world unit

end Movement

end HexRules
