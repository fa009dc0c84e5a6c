import HexRules.Grid
import HexRules.Movement.Step

/-!
# The search

The search finds which hexes a unit reaches and with what budget at best. It starts where the
unit stands and goes on from the hex with most budget left, of several the one met first. A hex
is met anew only with more budget than before, and left again only if some is left; no budget
exceeds the initial one, whatever a step gives back. Hexes that were tried and not reached keep
the findings against them.

Every entry of a hex into the frontier has a larger budget than the one before, all between one
and the initial budget: so the number of turns is bounded by `turnsFor`.

Results:
* `mem_enqueue`: an entry joins the frontier and no other is lost.
* `mem_addNew`: findings are joined without repetition.
-/

namespace HexRules.Movement

/-- The rules of one search: what a step onto a hex with a budget comes to, where the unit
    starts, with what budget, and how far the map extends. -/
structure Quest where
  enter : Hex → Int → Except Failure Verdict
  start : Hex
  budget : Int
  radius : Int

/-- How far a search has got. -/
structure Search where
  /-- The best budgets so far, that of the start among them. -/
  best : Table Hex Int
  /-- The hexes to go on from, with the budgets they were met with, the largest budget first. -/
  frontier : List (Hex × Int)
  /-- The findings against hexes that were not reached. -/
  blocked : Table Hex (List Finding)

/-- Puts an entry behind those with at least its budget. -/
def enqueue (entry : Hex × Int) : List (Hex × Int) → List (Hex × Int)
  | [] => [entry]
  | e :: rest => if entry.2 ≤ e.2 then e :: enqueue entry rest else entry :: e :: rest

/-- Adds findings one after the other, except those that are there already. -/
def addNew (old new : List Finding) : List Finding :=
  new.foldl (fun known f => if known.contains f then known else known ++ [f]) old

theorem mem_enqueue {entry e : Hex × Int} {frontier : List (Hex × Int)} :
    e ∈ enqueue entry frontier ↔ e = entry ∨ e ∈ frontier := by
  induction frontier with
  | nil => simp [enqueue]
  | cons first rest ih =>
    unfold enqueue
    split
    · simp only [List.mem_cons, ih]
      exact ⟨fun h => by rcases h with h | h | h <;> simp [h],
        fun h => by rcases h with h | h | h <;> simp [h]⟩
    · simp

theorem mem_addNew {f : Finding} {old new : List Finding} :
    f ∈ addNew old new ↔ f ∈ old ∨ f ∈ new := by
  unfold addNew
  induction new generalizing old with
  | nil => simp
  | cons g rest ih =>
    rw [List.foldl_cons, ih]
    by_cases hg : g ∈ old
    · simp only [List.contains_iff_mem, hg, if_true, List.mem_cons]
      exact ⟨fun h => h.elim .inl fun h => .inr (.inr h),
        fun h => h.elim .inl fun h => h.elim (fun h => .inl (h ▸ hg)) .inr⟩
    · simp [hg, or_assoc]

namespace Search

/-- The start of a search. -/
def begin (quest : Quest) : Search :=
  ⟨Table.ofList [(quest.start, quest.budget)], [(quest.start, quest.budget)], .empty⟩

/-- Whether a hex was met with at least a budget. -/
def knows (s : Search) (p : Hex) (budget : Int) : Bool :=
  match s.best.get? p with
  | some known => decide (budget ≤ known)
  | none => false

/-- Takes note that a hex is reached with a budget. -/
def reach (s : Search) (p : Hex) (budget : Int) : Search :=
  if s.knows p budget then s
  else
    { best := s.best.insert p budget
      frontier := if 0 < budget then enqueue (p, budget) s.frontier else s.frontier
      blocked := s.blocked.erase p }

/-- Takes note of findings against a hex, unless it was reached. -/
def refuse (s : Search) (p : Hex) (findings : List Finding) : Search :=
  if s.best.contains p || findings.isEmpty then s
  else { s with blocked := s.blocked.insert p (addNew ((s.blocked.get? p).getD []) findings) }

/-- Takes note of the outcome of a step onto a hex. -/
def meet (quest : Quest) (s : Search) (p : Hex) : Verdict → Search
  | .open budget => s.reach p (min budget quest.budget)
  | .blocked findings => s.refuse p findings

/-- Tries a step onto a hex. -/
def attempt (quest : Quest) (remaining : Int) (s : Search) (p : Hex) :
    Except Failure Search := do
  let verdict ← quest.enter p remaining
  return s.meet quest p verdict

/-- Tries the steps onto the neighbours of a hex. The start is not entered again. -/
def expand (quest : Quest) (p : Hex) (remaining : Int) (s : Search) : Except Failure Search :=
  ((Grid.neighborsInBounds p quest.radius).filter (· ≠ quest.start)).foldlM
    (attempt quest remaining) s

/-- One turn: takes the first hex off the frontier and goes on from it, unless it has been met
    with more budget meanwhile. -/
def turn (quest : Quest) (p : Hex) (remaining : Int) (s : Search) : Except Failure Search :=
  match s.best.get? p with
  | some best => if remaining < best then .ok s else expand quest p remaining s
  | none => expand quest p remaining s

/-- Takes turns while the frontier has hexes, at most the given number of times. -/
def run (quest : Quest) : Nat → Search → Except Failure Search
  | 0, s => .ok s
  | turns + 1, s =>
    match s.frontier with
    | [] => .ok s
    | (p, remaining) :: frontier => do
      let s ← turn quest p remaining { s with frontier := frontier }
      run quest turns s

end Search

/-- More turns than any search takes: one for the start, and one for each hex of the map with
    each positive budget. -/
def turnsFor (budget radius : Int) : Nat := 1 + budget.toNat * (Grid.positionCount radius).toNat

/-- Searches the map. -/
def search (quest : Quest) : Except Failure Search :=
  Search.run quest (turnsFor quest.budget quest.radius) (.begin quest)

end HexRules.Movement
