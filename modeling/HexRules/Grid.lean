import HexRules.Hex

/-!
# Hexagonal maps

A map of radius `R` is the hexagon of all hexes at most `R` steps from the middle. A negative
radius gives a map without hexes.

`floodFill` walks over the map from a hex: what it finds are the hexes that a walk on the map
reaches. Every hex enters the queue at most once, so one more turn than the map has hexes is
enough; `positionCount` gives that number.

Results:
* `mem_neighborsInBounds`: the neighbours on the map are the neighbours that lie in its bounds.
* `mem_positions`: the positions of a map are the hexes in its bounds.
-/

namespace HexRules.Grid

/-- Whether a hex lies on the map of a radius. -/
def inBounds (p : Hex) (radius : Int) : Bool :=
  decide (((max (max p.q.natAbs p.r.natAbs) (p.q + p.r).natAbs : Nat) : Int) ≤ radius)

/-- The neighbours of a hex that lie on the map. -/
def neighborsInBounds (p : Hex) (radius : Int) : List Hex :=
  p.neighbors.filter (inBounds · radius)

/-- The integers from `-radius` to `radius`. -/
def span (radius : Int) : List Int :=
  (List.range (2 * radius + 1).toNat).map fun (i : Nat) => (i : Int) - radius

/-- All hexes of the map, by `q`, then by `r`. -/
def positions (radius : Int) : List Hex :=
  (span radius).flatMap fun q =>
    ((span radius).map fun r => (⟨q, r⟩ : Hex)).filter (inBounds · radius)

/-- The number of hexes on the map of a radius that is not negative. -/
def positionCount (radius : Int) : Int := 3 * radius * (radius + 1) + 1

theorem mem_neighborsInBounds {p n : Hex} {radius : Int} :
    n ∈ neighborsInBounds p radius ↔ n ∈ p.neighbors ∧ inBounds n radius = true :=
  List.mem_filter

theorem mem_span {radius n : Int} : n ∈ span radius ↔ -radius ≤ n ∧ n ≤ radius := by
  simp only [span, List.mem_map, List.mem_range]
  constructor
  · rintro ⟨i, hi, rfl⟩
    omega
  · intro h
    exact ⟨(n + radius).toNat, by omega, by omega⟩

theorem mem_positions {p : Hex} {radius : Int} :
    p ∈ positions radius ↔ inBounds p radius = true := by
  simp only [positions, List.mem_flatMap, List.mem_filter, List.mem_map, mem_span]
  constructor
  · rintro ⟨q, _, _, h⟩
    exact h
  · intro h
    refine ⟨p.q, ?_, ⟨p.r, ?_, rfl⟩, h⟩ <;>
    · simp only [inBounds, decide_eq_true_eq] at h
      omega

/-! ## Walking over the map -/

/-- What a walk has found so far: the hexes reached, the last one first, and those still to be
    left. -/
structure Flood where
  reached : List Hex
  queue : List Hex
  deriving Repr

namespace Flood

/-- Takes note of a hex next to one that was reached. -/
def meet (start : Hex) (f : Flood) (p : Hex) : Flood :=
  if p = start ∨ p ∈ f.reached then f else ⟨p :: f.reached, f.queue ++ [p]⟩

/-- Leaves the hexes of the queue one after the other, for at most the given number of turns. -/
def run (start : Hex) (radius : Int) : Nat → Flood → List Hex
  | 0, f => f.reached
  | turns + 1, f =>
    match f.queue with
    | [] => f.reached
    | p :: queue =>
      run start radius turns
        ((neighborsInBounds p radius).foldl (meet start) { f with queue := queue })

end Flood

/-- The hexes of the map that walks from a hex reach, without that hex. -/
def floodFill (start : Hex) (radius : Int) : List Hex :=
  Flood.run start radius ((positionCount radius).toNat + 1) ⟨[], [start]⟩

end HexRules.Grid
