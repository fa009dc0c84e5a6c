import HexRules.Proofs.Grid.Distance
import Mathlib.Combinatorics.SimpleGraph.Metric

/-!
# Walks over the plane

The plane is a graph, in which each hex is joined to its neighbours. A step changes the distance to
a hex by one at most, so no walk to it has fewer steps than the distance says; and from any other
hex some step leads nearer to it, so a walk of just as many steps can be put together. Hence the
distance, the greatest of three differences, is that of the graph, and has its laws.

Results:
* `distance_le_length`: no walk is shorter than the distance between its ends.
* `exists_walk_length`: between any two hexes some walk is no longer.
* `dist_plane`: the distance is that of the graph.
* `inBounds_iff_distance`: a map holds the hexes whose distance from the middle is no more than its
  radius.
* `distance_exact`: all this together, for the neighbours and the maps too.
-/

namespace HexRules.Hex

variable {p q : Hex}

/-- The plane as a graph: each hex is joined to its neighbours. -/
def plane : SimpleGraph Hex where
  Adj p q := q ∈ p.neighbors
  symm := ⟨fun _ _ => mem_neighbors_comm.1⟩
  loopless := ⟨fun _ h => ne_of_mem_neighbors h rfl⟩

theorem adj_plane : plane.Adj p q ↔ q ∈ p.neighbors := Iff.rfl

theorem nodup_neighbors (p : Hex) : p.neighbors.Nodup := by
  refine List.Nodup.map (fun d e h => ?_) (by decide)
  obtain ⟨hq, hr⟩ := (Hex.mk.injEq ..).mp h
  cases d
  cases e
  exact (Hex.mk.injEq ..).mpr ⟨add_left_cancel hq, add_left_cancel hr⟩

/-! ## Shortest walks -/

theorem distance_le_length (w : plane.Walk p q) : p.distance q ≤ w.length := by
  induction w with
  | nil => exact (distance_self _).le
  | @cons p next q adj w ih =>
    have hstep := distance_le_succ q (mem_neighbors_comm.1 (adj_plane.1 adj))
    rw [distance_comm q, distance_comm q] at hstep
    rw [SimpleGraph.Walk.length_cons]
    omega

/-- From any hex but the goal, some step leads just one nearer. -/
theorem exists_neighbor_distance (h : p ≠ q) :
    ∃ next ∈ p.neighbors, next.distance q + 1 = p.distance q := by
  obtain ⟨d, hd, htoward⟩ := exists_toward h
  have hnext : p.move d ∈ p.neighbors := List.mem_map_of_mem hd
  have hcloser := distance_move_lt hd htoward
  have hback := distance_le_succ q (mem_neighbors_comm.1 hnext)
  rw [distance_comm q, distance_comm q] at hback
  exact ⟨p.move d, hnext, by omega⟩

theorem exists_walk_length (p q : Hex) : ∃ w : plane.Walk p q, w.length = p.distance q := by
  -- by induction on the distance, with the first step the one that leads nearer
  induction hn : p.distance q generalizing p with
  | zero =>
    obtain rfl := distance_eq_zero_iff.1 hn
    exact ⟨.nil, rfl⟩
  | succ n ih =>
    have hne : p ≠ q := by
      rintro rfl
      rw [distance_self] at hn
      cases hn
    obtain ⟨next, hnext, hdistance⟩ := exists_neighbor_distance hne
    obtain ⟨w, hw⟩ := ih next (by omega)
    exact ⟨.cons (adj_plane.2 hnext) w, by rw [SimpleGraph.Walk.length_cons, hw]⟩

theorem isLeast_distance (p q : Hex) :
    IsLeast {n | ∃ w : plane.Walk p q, w.length = n} (p.distance q) := by
  refine ⟨exists_walk_length p q, ?_⟩
  rintro n ⟨w, rfl⟩
  exact distance_le_length w

theorem connected_plane : plane.Connected where
  preconnected p q := (exists_walk_length p q).elim fun w _ => w.reachable
  nonempty := ⟨origin⟩

theorem dist_plane (p q : Hex) : plane.dist p q = p.distance q :=
  (SimpleGraph.dist_eq_sInf).trans (isLeast_distance p q).csInf_eq

/-! ## Maps -/

theorem inBounds_iff_distance {radius : ℤ} :
    Grid.inBounds p radius = true ↔ (origin.distance p : ℤ) ≤ radius := by
  have hmax : origin.distance p = max (max p.q.natAbs p.r.natAbs) (p.q + p.r).natAbs := by
    simp only [distance, s, origin]
    omega
  rw [Grid.inBounds, decide_eq_true_eq, hmax]

/-- The distance of two hexes is the number of steps of a shortest walk between them, so that it is
    a metric. The neighbours of a hex are those at distance one, each of them once, and a map holds
    the hexes whose distance from the middle is no more than its radius. -/
theorem distance_exact (p q : Hex) :
    IsLeast {n | ∃ w : plane.Walk p q, w.length = n} (p.distance q) ∧
      ((p.distance q = 0 ↔ p = q) ∧ p.distance q = q.distance p ∧
        ∀ mid, p.distance q ≤ p.distance mid + mid.distance q) ∧
      (p.neighbors.Nodup ∧ (q ∈ p.neighbors ↔ p.distance q = 1)) ∧
      ∀ radius : ℤ, Grid.inBounds p radius = true ↔ (origin.distance p : ℤ) ≤ radius := by
  refine ⟨isLeast_distance p q, ⟨distance_eq_zero_iff, distance_comm p q, fun mid => ?_⟩,
    ⟨nodup_neighbors p, mem_neighbors_iff_distance⟩, fun radius => inBounds_iff_distance⟩
  have htriangle : plane.dist p q ≤ plane.dist p mid + plane.dist mid q :=
    connected_plane.dist_triangle
  simpa only [dist_plane] using htriangle

end HexRules.Hex
