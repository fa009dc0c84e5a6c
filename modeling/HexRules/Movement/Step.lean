import HexRules.Hex
import HexRules.Movement.Binding
import HexRules.Movement.Condition
import HexRules.Movement.Failure

/-!
# One step

A unit that enters a hex is subject to the relations between it and the tile there. Each change
by subtraction adds to the cost of the step and each by addition takes from it; other changes
cost nothing. The step fails if a block is in force, or if the cost exceeds the budget. Every
relation that stands in the way leaves a finding, among them changes after which the budget is
exceeded, even if later ones make up for it. Such a finding shows the hex, the cost and the
budget.

Results:
* `Tally.verdict_eq_open_iff`: a step succeeds exactly when nothing blocks it and the budget
  suffices; the difference is left.
-/

namespace HexRules.Movement

/-- What a relation or a constraint says about a hex. -/
structure Finding where
  constraintId : Ident
  constraintName : String
  satisfied : Bool
  explanation : String
  deriving DecidableEq, Repr

/-- The outcome of a step. -/
inductive Verdict
  /-- The hex can be entered, with this budget left. -/
  | open (budget : Int)
  /-- The hex cannot be entered. -/
  | blocked (findings : List Finding)
  deriving DecidableEq, Repr

/-- A unit that moves, and the rules that it is under. -/
structure Mover where
  data : EntityData
  /-- The bindings that the unit acts under. -/
  bindings : List Binding
  /-- The relations that take effect when a hex is entered. -/
  relations : List Relation
  concepts : Concepts
  types : EntityTypes

namespace Mover

/-- The name of the unit's type. -/
def typeName (m : Mover) : String := m.types.nameOf m.data.typeId "Unit"

/-- Whether a relation is between the unit and a tile. -/
def applies (m : Mover) (tile : EntityData) (r : Relation) : Bool :=
  subjectBound m.bindings r && bindsRole m.concepts.bindings tile.typeId r.conceptId r.objectRole

/-- The number of a tile that a relation reads; what cannot be found, or is no number, counts as
    zero. -/
def amount (m : Mover) (tile : EntityData) (r : Relation) (source : String) :
    Except Failure Int := do
  let number ← (PropertyValue.asInt
    (resolve m.concepts.bindings tile source r.conceptId r.objectRole)).mapError .notFinite
  return number.getD 0

end Mover

/-- What an operation with a number adds to the cost of a step. -/
def costOf : Operation → Int → Int
  | .subtract, n => n
  | .add, n => -n
  | _, _ => 0

/-- The finding that a step costs more than the budget. -/
def tooFar (m : Mover) (r : Relation) (target : String) (cost remaining : Int) (p : Hex) :
    Except Failure Finding := do
  let explanation := String.join [m.typeName, " cannot reach (", ← shown p.q, ", ", ← shown p.r,
    "): path cost ", ← shown cost, " exceeds ", target, " of ", ← shown remaining]
  return ⟨r.id, r.name, false, explanation⟩

/-- The finding that a relation keeps the unit out. -/
def keptOut (m : Mover) (r : Relation) (tile : EntityData) : Finding where
  constraintId := r.id
  constraintName := r.name
  satisfied := false
  explanation :=
    String.join [m.typeName, " cannot enter ", m.types.nameOf tile.typeId "Unknown", ": ",
      r.name, " blocks entry"]

/-- What the relations up to some point have come to. -/
structure Tally where
  cost : Int
  blocked : Bool
  findings : List Finding

namespace Tally

/-- No relation yet. -/
def start : Tally := ⟨0, false, []⟩

/-- Adds to the cost; a finding is left if that exceeds the budget. -/
def charge (m : Mover) (r : Relation) (target : String) (remaining : Int) (p : Hex)
    (amount : Int) (t : Tally) : Except Failure Tally :=
  let cost := t.cost + amount
  if remaining - cost < 0 then do
    let finding ← tooFar m r target cost remaining p
    return { t with cost := cost, findings := t.findings ++ [finding] }
  else .ok { t with cost := cost }

/-- Takes account of a relation between the unit and a tile. -/
def add (m : Mover) (tile : EntityData) (remaining : Int) (p : Hex) (t : Tally) (r : Relation) :
    Except Failure Tally :=
  match r.effect with
  | .modify target source operation => do
    let n ← m.amount tile r source
    t.charge m r target remaining p (costOf operation n)
  | .block condition =>
    if blocks r m.data (some tile) condition then
      .ok { t with blocked := true, findings := t.findings ++ [keptOut m r tile] }
    else .ok t
  | .allow _ => .ok t

/-- The outcome once all relations are accounted for. -/
def verdict (remaining : Int) (t : Tally) : Verdict :=
  if t.blocked ∨ remaining - t.cost < 0 then .blocked t.findings
  else .open (remaining - t.cost)

theorem verdict_eq_open_iff {remaining n : Int} {t : Tally} :
    t.verdict remaining = .open n ↔
      t.blocked = false ∧ 0 ≤ remaining - t.cost ∧ n = remaining - t.cost := by
  unfold verdict
  split
  · rename_i h
    constructor
    · intro e
      cases e
    · rintro ⟨hb, hc, _⟩
      rcases h with h | h
      · simp [hb] at h
      · omega
  · rename_i h
    simp only [not_or, Bool.not_eq_true, Int.not_lt] at h
    constructor
    · intro e
      cases e
      exact ⟨h.1, h.2, rfl⟩
    · rintro ⟨_, _, rfl⟩
      rfl

end Tally

/-- The outcome of a step onto a hex with a tile, or without one, with a budget. -/
def evaluate (m : Mover) (tile : Option EntityData) (remaining : Int) (p : Hex) :
    Except Failure Verdict :=
  match tile with
  | none => .ok (Tally.start.verdict remaining)
  | some tile => do
    let t ← (m.relations.filter (m.applies tile)).foldlM (Tally.add m tile remaining p) .start
    return t.verdict remaining

end HexRules.Movement
