import HexRules.Grid
import Mathlib.Tactic

/-!
# Distance and the shape of a map

The neighbours of a hex are the hexes at distance one. From any hex a direction leads nearer to
another one without a cube coordinate going past it; so between two hexes of a map a way leads over
the map, since its bounds hold of all that lies between them.

Results:
* `mem_neighbors_iff_distance`: the neighbours of a hex are the hexes at distance one.
* `exists_neighbor_closer`: a hex of the map has a neighbour on the map nearer to another hex of it.
* `Grid.induction_onMap`: what steps over the map pass on holds all over it.
-/

namespace HexRules

namespace Grid

theorem inBounds_iff {p : Hex} {radius : ℤ} :
    inBounds p radius = true ↔
      (-radius ≤ p.q ∧ p.q ≤ radius) ∧ (-radius ≤ p.r ∧ p.r ≤ radius) ∧
        -radius ≤ p.q + p.r ∧ p.q + p.r ≤ radius := by
  simp only [inBounds, decide_eq_true_eq]
  omega

end Grid

namespace Hex

variable {p q d : Hex}

/-! ## Distance -/

theorem distance_le_iff {n : ℕ} :
    p.distance q ≤ n ↔
      (-(n : ℤ) ≤ q.q - p.q ∧ q.q - p.q ≤ n) ∧ (-(n : ℤ) ≤ q.r - p.r ∧ q.r - p.r ≤ n) ∧
        -(n : ℤ) ≤ (q.q - p.q) + (q.r - p.r) ∧ (q.q - p.q) + (q.r - p.r) ≤ n := by
  rw [distance, max_le_iff, max_le_iff, s, s]
  omega

theorem mem_neighbors_iff_distance : q ∈ p.neighbors ↔ p.distance q = 1 := by
  have hone : p.distance q = 1 ↔ p.distance q ≤ 1 ∧ ¬p.distance q ≤ 0 := by omega
  rw [hone, distance_le_iff, distance_le_iff]
  obtain ⟨pq, pr⟩ := p
  obtain ⟨qq, qr⟩ := q
  simp only [neighbors, directions, List.map_cons, List.map_nil, List.mem_cons, List.not_mem_nil,
    or_false, move, mk.injEq]
  omega

theorem distance_comm (p q : Hex) : p.distance q = q.distance p := by
  rw [distance, distance, ← Int.natAbs_neg (p.q - q.q), neg_sub, ← Int.natAbs_neg (p.r - q.r),
    neg_sub, ← Int.natAbs_neg (p.s - q.s), neg_sub]

theorem distance_self (p : Hex) : p.distance p = 0 := by
  simp [distance]

theorem distance_eq_zero_iff : p.distance q = 0 ↔ p = q := by
  constructor
  · intro h
    obtain ⟨pq, pr⟩ := p
    obtain ⟨qq, qr⟩ := q
    have hzero := (distance_le_iff (n := 0)).1 h.le
    simp only [Nat.cast_zero] at hzero
    simp only [mk.injEq]
    omega
  · rintro rfl
    exact distance_self p

theorem mem_neighbors_comm : q ∈ p.neighbors ↔ p ∈ q.neighbors := by
  rw [mem_neighbors_iff_distance, mem_neighbors_iff_distance, distance_comm]

theorem ne_of_mem_neighbors (h : q ∈ p.neighbors) : q ≠ p := by
  rintro rfl
  rw [mem_neighbors_iff_distance, distance_self] at h
  cases h

/-- A step leads no more than one further away. -/
theorem distance_le_succ (a : Hex) (h : q ∈ p.neighbors) : a.distance q ≤ a.distance p + 1 := by
  have hfrom := (distance_le_iff (p := a) (q := p) (n := a.distance p)).1 le_rfl
  have hstep := (distance_le_iff (p := p) (q := q) (n := 1)).1
    (mem_neighbors_iff_distance.1 h).le
  rw [distance_le_iff]
  push_cast at hfrom hstep ⊢
  omega

theorem isAdjacent_iff_mem_neighbors : p.isAdjacent q = true ↔ q ∈ p.neighbors := by
  rw [isAdjacent, beq_iff_eq, mem_neighbors_iff_distance]

/-! ## Directions that lead nearer -/

/-- A direction moves every cube coordinate that it changes the way that leads to another hex. -/
def Toward (p q d : Hex) : Prop :=
  ((0 < d.q → p.q < q.q) ∧ (d.q < 0 → q.q < p.q)) ∧
    ((0 < d.r → p.r < q.r) ∧ (d.r < 0 → q.r < p.r)) ∧
      (0 < d.q + d.r → p.q + p.r < q.q + q.r) ∧ (d.q + d.r < 0 → q.q + q.r < p.q + p.r)

theorem exists_toward (h : p ≠ q) : ∃ d ∈ directions, Toward p q d := by
  have hne : ¬(p.q = q.q ∧ p.r = q.r) := by
    rintro ⟨hq, hr⟩
    exact h (by cases p; cases q; simp_all)
  -- two hexes differ in two cube coordinates at least, and not all the same way
  have hsigns : (p.q < q.q ∧ p.q + p.r < q.q + q.r) ∨ (p.q < q.q ∧ q.r < p.r) ∨
      (q.r < p.r ∧ q.q + q.r < p.q + p.r) ∨ (q.q < p.q ∧ q.q + q.r < p.q + p.r) ∨
      (q.q < p.q ∧ p.r < q.r) ∨ (p.r < q.r ∧ p.q + p.r < q.q + q.r) := by omega
  rcases hsigns with h | h | h | h | h | h
  · exact ⟨⟨1, 0⟩, by simp [directions], by simpa [Toward] using h⟩
  · exact ⟨⟨1, -1⟩, by simp [directions], by simpa [Toward] using h⟩
  · exact ⟨⟨0, -1⟩, by simp [directions], by simpa [Toward] using h⟩
  · exact ⟨⟨-1, 0⟩, by simp [directions], by simpa [Toward] using h⟩
  · exact ⟨⟨-1, 1⟩, by simp [directions], by simpa [Toward] using h⟩
  · exact ⟨⟨0, 1⟩, by simp [directions], by simpa [Toward] using h⟩

theorem mem_directions :
    d ∈ directions ↔ d = ⟨1, 0⟩ ∨ d = ⟨1, -1⟩ ∨ d = ⟨0, -1⟩ ∨ d = ⟨-1, 0⟩ ∨ d = ⟨-1, 1⟩ ∨
      d = ⟨0, 1⟩ := by
  simp [directions]

theorem distance_move_lt (hd : d ∈ directions) (h : Toward p q d) :
    (p.move d).distance q < p.distance q := by
  obtain ⟨n, hn⟩ : ∃ n, p.distance q = n := ⟨_, rfl⟩
  have hle := distance_le_iff.1 hn.le
  have hless : (p.move d).distance q ≤ n - 1 ∧ 0 < n := by
    rw [distance_le_iff]
    unfold Toward at h
    rcases mem_directions.1 hd with rfl | rfl | rfl | rfl | rfl | rfl <;>
    · simp only [move] at h ⊢
      omega
  omega

theorem inBounds_move {radius : ℤ} (hd : d ∈ directions) (h : Toward p q d)
    (hp : Grid.inBounds p radius = true) (hq : Grid.inBounds q radius = true) :
    Grid.inBounds (p.move d) radius = true := by
  rw [Grid.inBounds_iff] at *
  unfold Toward at h
  rcases mem_directions.1 hd with rfl | rfl | rfl | rfl | rfl | rfl <;>
  · simp only [move] at h ⊢
    omega

theorem exists_neighbor_closer {radius : ℤ} (hp : Grid.inBounds p radius = true)
    (hq : Grid.inBounds q radius = true) (h : p ≠ q) :
    ∃ n ∈ p.neighbors, Grid.inBounds n radius = true ∧ n.distance q < p.distance q := by
  obtain ⟨d, hd, htoward⟩ := exists_toward h
  exact ⟨p.move d, List.mem_map_of_mem hd, inBounds_move hd htoward hp hq,
    distance_move_lt hd htoward⟩

end Hex

/-! ## All over the map -/

/-- What every step over the map passes on, from a start or from where it holds already, holds of
    all hexes of the map but the start; if the start is off the map, it has to be next to it. -/
theorem Grid.induction_onMap {start : Hex} {radius : ℤ} {P : Hex → Prop}
    (hstart : ∃ p, (p = start ∨ p ∈ start.neighbors) ∧ inBounds p radius = true)
    (hstep : ∀ p q, p = start ∨ P p → q ∈ p.neighbors → inBounds q radius = true → q ≠ start →
      P q)
    {q : Hex} (hq : inBounds q radius = true) (hne : q ≠ start) : P q := by
  obtain ⟨first, hnear, hfirst⟩ := hstart
  -- by induction on the distance from the first hex on the map
  induction hdist : q.distance first using Nat.strong_induction_on generalizing q with
  | _ n ih =>
    subst hdist
    by_cases hf : q = first
    · subst hf
      exact hstep start q (.inl rfl) (hnear.resolve_left hne) hq hne
    · obtain ⟨near, hnext, hmap, hcloser⟩ := Hex.exists_neighbor_closer hq hfirst hf
      refine hstep near q ?_ (Hex.mem_neighbors_comm.1 hnext) hq hne
      by_cases hs : near = start
      · exact .inl hs
      · exact .inr (ih _ hcloser hmap hs rfl)

end HexRules
