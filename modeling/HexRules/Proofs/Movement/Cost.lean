import HexRules.Movement
import HexRules.Proofs.Outcome
import Mathlib.Tactic

/-!
# What a hex costs

What a unit pays for a hex does not depend on the budget it comes with: it is the sum of the
numbers that the tile's relations subtract, less the sum of those that they add. Nor does it depend
on the budget whether a block is in force there. So a step is decided by two figures of the hex,
`Mover.entryCost` and `Mover.barred`, and the budget.

Results:
* `Tally.add_cases`: all that one relation can do.
* `Tally.foldlM_add`: what the relations come to, one after the other, is the sum of what each
  charges, and a block if one of them is in force.
* `evaluate_eq_open_iff`: a step succeeds exactly when the hex is not barred and the budget covers
  its cost; the difference is left.
-/

namespace HexRules.Movement

namespace Mover

/-- The number that a relation reads off a tile, if it changes by the given operation. A number
    that is not finite counts as zero; a step that meets one fails. -/
def reading (m : Mover) (operation : Operation) (tile : EntityData) (r : Relation) : ℤ :=
  match r.effect with
  | .modify _ source op => if op = operation then (m.amount tile r source).toOption.getD 0 else 0
  | _ => 0

/-- The sum of the numbers that the relations to a tile read for an operation. -/
def total (m : Mover) (operation : Operation) (tile : EntityData) : ℤ :=
  ((m.relations.filter (m.applies tile)).map (m.reading operation tile)).sum

/-- What a hex with a tile, or without one, costs. -/
def entryCost (m : Mover) : Option EntityData → ℤ
  | none => 0
  | some tile => m.total .subtract tile - m.total .add tile

/-- Whether a relation is a block that is in force on a tile. -/
def isInForce (m : Mover) (tile : EntityData) (r : Relation) : Bool :=
  match r.effect with
  | .block condition => blocks r m.data (some tile) condition
  | _ => false

/-- Whether a block keeps the unit out of a hex with a tile, or without one. -/
def barred (m : Mover) : Option EntityData → Bool
  | none => false
  | some tile => m.relations.any fun r => m.applies tile r && m.isInForce tile r

/-- A number that is read counts as its operation says. -/
theorem reading_sub_reading {m : Mover} {tile : EntityData} {r : Relation} {target source : String}
    {operation : Operation} {n : ℤ} (he : r.effect = .modify target source operation)
    (hn : m.amount tile r source = .ok n) :
    m.reading .subtract tile r - m.reading .add tile r = costOf operation n := by
  simp only [reading, he, hn, Except.toOption, Option.getD_some]
  cases operation <;> simp [costOf]

end Mover

/-! ## One relation after the other -/

namespace Tally

variable {m : Mover} {tile : EntityData} {remaining : ℤ} {p : Hex} {t t' : Tally} {r : Relation}

/-- A charge adds to the cost, and leaves a finding if the budget is exceeded then. -/
theorem charge_cases {target : String} {amount : ℤ}
    (h : t.charge m r target remaining p amount = .ok t') :
    0 ≤ remaining - (t.cost + amount) ∧ t' = { t with cost := t.cost + amount } ∨
      remaining - (t.cost + amount) < 0 ∧
        ∃ f, tooFar m r target (t.cost + amount) remaining p = .ok f ∧
          t' = { t with cost := t.cost + amount, findings := t.findings ++ [f] } := by
  unfold charge at h
  dsimp only at h
  split_ifs at h with hover
  · obtain ⟨f, hf, hdone⟩ := Outcome.bind_eq_ok_iff.1 h
    cases hdone
    exact .inr ⟨hover, f, hf, rfl⟩
  · cases h
    exact .inl ⟨not_lt.1 hover, rfl⟩

/-- All that a relation can do: it charges what its change comes to, it blocks and leaves a finding,
    or it does nothing. -/
theorem add_cases (h : t.add m tile remaining p r = .ok t') :
    (∃ target source operation n, r.effect = .modify target source operation ∧
      m.amount tile r source = .ok n ∧
      t.charge m r target remaining p (costOf operation n) = .ok t') ∨
    (∃ condition, r.effect = .block condition ∧ blocks r m.data (some tile) condition = true ∧
      t' = { t with blocked := true, findings := t.findings ++ [keptOut m r tile] }) ∨
    ∃ condition, (r.effect = .block condition ∧ blocks r m.data (some tile) condition = false ∨
      r.effect = .allow condition) ∧ t' = t := by
  unfold add at h
  cases he : r.effect with
  | modify target source operation =>
    rw [he] at h
    obtain ⟨n, hn, hcharge⟩ := Outcome.bind_eq_ok_iff.1 h
    exact .inl ⟨target, source, operation, n, rfl, hn, hcharge⟩
  | block condition =>
    rw [he] at h
    dsimp only at h
    split_ifs at h with hblocks
    · cases h
      exact .inr (.inl ⟨condition, rfl, hblocks, rfl⟩)
    · cases h
      exact .inr (.inr ⟨condition, .inl ⟨rfl, Bool.eq_false_iff.2 hblocks⟩, rfl⟩)
  | allow condition =>
    rw [he] at h
    cases h
    exact .inr (.inr ⟨condition, .inr rfl, rfl⟩)

/-- A relation adds what it subtracts from the budget to the cost, and takes from the cost what it
    gives back. -/
theorem add_eq_ok (h : t.add m tile remaining p r = .ok t') :
    t'.cost = t.cost + (m.reading .subtract tile r - m.reading .add tile r) ∧
      t'.blocked = (t.blocked || m.isInForce tile r) := by
  rcases add_cases h with ⟨target, source, operation, n, he, hn, hcharge⟩ |
    ⟨condition, he, hblocks, rfl⟩ | ⟨condition, ⟨he, hblocks⟩ | he, rfl⟩
  · rw [Mover.reading_sub_reading he hn, Mover.isInForce, he, Bool.or_false]
    rcases charge_cases hcharge with ⟨-, rfl⟩ | ⟨-, f, -, rfl⟩
    · exact ⟨rfl, rfl⟩
    · exact ⟨rfl, rfl⟩
  · simp [Mover.reading, Mover.isInForce, he, hblocks]
  · simp [Mover.reading, Mover.isInForce, he, hblocks]
  · simp [Mover.reading, Mover.isInForce, he]

theorem foldlM_add {rs : List Relation} (h : rs.foldlM (Tally.add m tile remaining p) t = .ok t') :
    t'.cost = t.cost + ((rs.map (m.reading .subtract tile)).sum -
        (rs.map (m.reading .add tile)).sum) ∧
      t'.blocked = (t.blocked || rs.any (m.isInForce tile)) := by
  induction rs generalizing t with
  | nil =>
    cases h
    simp
  | cons r rest ih =>
    obtain ⟨s, hs, hrest⟩ := Outcome.foldlM_cons_eq_ok_iff.1 h
    obtain ⟨hcost, hblocked⟩ := add_eq_ok hs
    obtain ⟨hcost', hblocked'⟩ := ih hrest
    refine ⟨?_, ?_⟩
    · rw [hcost', hcost, List.map_cons, List.map_cons, List.sum_cons, List.sum_cons]
      ring
    · rw [hblocked', hblocked, List.any_cons, Bool.or_assoc]

end Tally

/-! ## The whole step -/

theorem evaluate_eq_open_iff {m : Mover} {tile : Option EntityData} {remaining : ℤ} {p : Hex}
    {v : Verdict} (h : evaluate m tile remaining p = .ok v) (n : ℤ) :
    v = .open n ↔
      m.barred tile = false ∧ 0 ≤ remaining - m.entryCost tile ∧
        n = remaining - m.entryCost tile := by
  cases tile with
  | none =>
    cases h
    rw [Tally.verdict_eq_open_iff]
    simp [Tally.start, Mover.barred, Mover.entryCost]
  | some tile =>
    obtain ⟨t, ht, hv⟩ := Outcome.bind_eq_ok_iff.1 h
    cases hv
    obtain ⟨hcost, hblocked⟩ := Tally.foldlM_add ht
    have hcost' : t.cost = m.entryCost (some tile) := by
      rw [hcost]
      simp [Tally.start, Mover.entryCost, Mover.total]
    have hblocked' : t.blocked = m.barred (some tile) := by
      rw [hblocked, List.any_filter]
      simp [Tally.start, Mover.barred]
    rw [Tally.verdict_eq_open_iff, hcost', hblocked']

/-! ## A river with a toll and an inn -/

namespace River

/-- The identifiers of the example are small numbers. -/
def ident (n : ℕ) : Ident := ⟨BitVec.ofNat 128 n⟩

/-- The unit's type is 1 and that of all tiles is 2; both take part in concept 3. -/
def concepts : Concepts where
  concepts := []
  bindings := [⟨ident 6, ident 1, ident 3, ident 4, [⟨ident 8, "budget"⟩]⟩,
    ⟨ident 7, ident 2, ident 3, ident 5, [⟨ident 9, "toll"⟩, ⟨ident 10, "rest"⟩]⟩]

/-- To enter a hex costs its toll, and its rest gives back. -/
def relations : List Relation :=
  [⟨ident 11, "Toll", ident 3, ident 4, ident 5, .onEnter, .modify "budget" "toll" .subtract⟩,
    ⟨ident 12, "Rest", ident 3, ident 4, ident 5, .onEnter, .modify "budget" "rest" .add⟩]

/-- A traveller of a budget. -/
def traveller (budget : ℤ) : EntityData := ⟨ident 1, .ofList [(ident 8, .int budget)]⟩

/-- A tile with a toll and a rest. -/
def tile (toll rest : ℤ) : EntityData :=
  ⟨ident 2, .ofList [(ident 9, .int toll), (ident 10, .int rest)]⟩

/-- The rules of the river. -/
def mover : Mover where
  data := traveller 3
  bindings := concepts.bindingsOfType (ident 1)
  relations := relations
  concepts := concepts
  types := .empty

/-- A ford in the east, an inn next to it and a ferry in the west; the other hexes are bare. -/
def board : Board :=
  ((Board.empty.put ⟨1, 0⟩ (tile 2 0)).put ⟨1, -1⟩ (tile 0 3)).put ⟨-1, 0⟩ (tile 4 0)

end River

example : River.mover.entryCost (River.board.dataOn ⟨1, -1⟩) = -3 := by decide

end HexRules.Movement
