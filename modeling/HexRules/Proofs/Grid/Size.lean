import HexRules.Grid
import Mathlib.Tactic

/-!
# The size of a map

The map of radius `R` has `2R + 1 - |q|` hexes in the row of `q`, and the rows add up to the
centred hexagonal number `3R(R + 1) + 1`.

Results:
* `pairwise_positions`: the hexes of a map come by `q`, then by `r`, and none comes twice.
* `length_positions`: the map has `positionCount` hexes.
* `length_positions_le`: no map has more, also that of a negative radius.
* `positions_exact`: the list of a map's hexes has each of them once, in order.
-/

namespace HexRules.Grid

theorem radius_nonneg {p : Hex} {radius : ℤ} (h : inBounds p radius = true) : 0 ≤ radius := by
  simp only [inBounds, decide_eq_true_eq] at h
  omega

/-! ## Order -/

theorem pairwise_span (radius : ℤ) : (span radius).Pairwise (· < ·) := by
  refine List.Pairwise.map _ ?_ List.pairwise_lt_range
  intro i j h
  omega

theorem pairwise_positions (radius : ℤ) :
    (positions radius).Pairwise fun a b => a.q < b.q ∨ a.q = b.q ∧ a.r < b.r := by
  have hrow (q : ℤ) :
      (((span radius).map fun r => (⟨q, r⟩ : Hex)).filter (inBounds · radius)).Pairwise
        fun a b => a.q < b.q ∨ a.q = b.q ∧ a.r < b.r :=
    ((pairwise_span radius).map _ fun r r' h => .inr ⟨rfl, h⟩).filter _
  rw [positions, List.pairwise_flatMap]
  refine ⟨fun q _ => hrow q, (pairwise_span radius).imp ?_⟩
  intro q q' h a ha b hb
  simp only [List.mem_filter, List.mem_map] at ha hb
  obtain ⟨⟨r, -, rfl⟩, -⟩ := ha
  obtain ⟨⟨r', -, rfl⟩, -⟩ := hb
  exact .inl h

theorem nodup_positions (radius : ℤ) : (positions radius).Nodup := by
  refine (pairwise_positions radius).imp ?_
  rintro a b h rfl
  omega

/-! ## One row -/

theorem countP_range_between (n lo hi : ℕ) :
    (List.range n).countP (fun i => decide (lo ≤ i ∧ i < hi)) = min n hi - lo := by
  induction n with
  | zero => simp
  | succ n ih =>
    rw [List.range_succ, List.countP_append, ih, List.countP_singleton]
    by_cases h : lo ≤ n ∧ n < hi
    · rw [if_pos (by simpa using h)]
      omega
    · rw [if_neg (by simpa using h)]
      omega

/-- The row of `q` has `2k + 1 - |q|` hexes. -/
theorem length_row (k : ℕ) {q : ℤ} (hq : -(k : ℤ) ≤ q ∧ q ≤ k) :
    (((span k).map fun r => (⟨q, r⟩ : Hex)).filter (inBounds · k)).length =
      2 * k + 1 - q.natAbs := by
  rw [span, List.map_map, ← List.countP_eq_length_filter, List.countP_map]
  have hrow : ∀ i ∈ List.range (2 * (k : ℤ) + 1).toNat,
      ((inBounds · (k : ℤ)) ∘ (fun r => (⟨q, r⟩ : Hex)) ∘ fun (i : ℕ) => (i : ℤ) - k) i = true ↔
        decide ((-q).toNat ≤ i ∧ i < (2 * k + 1 - q).toNat) = true := by
    intro i hi
    rw [List.mem_range] at hi
    simp only [Function.comp_apply, inBounds, decide_eq_true_eq]
    omega
  rw [List.countP_congr hrow, countP_range_between]
  omega

/-! ## All rows -/

/-- The rows up to the middle one. -/
theorem sum_rows_lower (k n : ℕ) (hn : n ≤ k + 1) :
    2 * ((List.range n).map fun (i : ℕ) => 2 * (k : ℤ) + 1 - ((i : ℤ) - k).natAbs).sum =
      n * (2 * k + 1 + n) := by
  induction n with
  | zero => simp
  | succ n ih =>
    have habs : (((n : ℤ) - k).natAbs : ℤ) = k - n := by omega
    rw [List.range_succ, List.map_append, List.sum_append, mul_add, ih (by omega)]
    simp only [List.map_cons, List.map_nil, List.sum_cons, List.sum_nil, habs]
    push_cast
    ring

/-- The rows up to the middle one and further ones above it. -/
theorem sum_rows_upper (k m : ℕ) :
    2 * ((List.range (k + 1 + m)).map fun (i : ℕ) => 2 * (k : ℤ) + 1 - ((i : ℤ) - k).natAbs).sum =
      (k + 1) * (3 * k + 2) + m * (4 * k + 1 - m) := by
  induction m with
  | zero =>
    rw [Nat.add_zero, sum_rows_lower k (k + 1) le_rfl]
    push_cast
    ring
  | succ m ih =>
    have habs : ((((k + 1 + m : ℕ) : ℤ) - k).natAbs : ℤ) = m + 1 := by omega
    rw [show k + 1 + (m + 1) = k + 1 + m + 1 by omega, List.range_succ, List.map_append,
      List.sum_append, mul_add, ih]
    simp only [List.map_cons, List.map_nil, List.sum_cons, List.sum_nil, habs]
    push_cast
    ring

theorem sum_rows (k : ℕ) :
    ((span k).map fun q => 2 * (k : ℤ) + 1 - q.natAbs).sum = positionCount k := by
  have h := sum_rows_upper k k
  rw [span, List.map_map, show (2 * (k : ℤ) + 1).toNat = k + 1 + k by omega]
  have hcomp : ((fun q : ℤ => 2 * (k : ℤ) + 1 - q.natAbs) ∘ fun (i : ℕ) => (i : ℤ) - k) =
      fun (i : ℕ) => 2 * (k : ℤ) + 1 - ((i : ℤ) - k).natAbs := rfl
  rw [hcomp, positionCount]
  linarith

theorem length_positions {radius : ℤ} (h : 0 ≤ radius) :
    ((positions radius).length : ℤ) = positionCount radius := by
  obtain ⟨k, rfl⟩ := Int.eq_ofNat_of_zero_le h
  rw [← sum_rows, positions, List.length_flatMap, Nat.cast_list_sum, List.map_map]
  congr 1
  apply List.map_congr_left
  intro q hq
  rw [Function.comp_apply, length_row k (mem_span.1 hq)]
  have := mem_span.1 hq
  omega

theorem length_positions_le (radius : ℤ) :
    (positions radius).length ≤ (positionCount radius).toNat := by
  by_cases h : 0 ≤ radius
  · have := length_positions h
    omega
  · have hspan : span radius = [] := by
      rw [span, show (2 * radius + 1).toNat = 0 by omega]
      rfl
    simp [positions, hspan]

/-- The list of a map's hexes has the hexes in its bounds and no others, each of them once, by `q`,
    then by `r`. With a radius that is not negative there are `3R(R + 1) + 1` of them. -/
theorem positions_exact (radius : ℤ) :
    (∀ p, p ∈ positions radius ↔ inBounds p radius = true) ∧
      (positions radius).Nodup ∧
      (positions radius).Pairwise (fun a b => a.q < b.q ∨ a.q = b.q ∧ a.r < b.r) ∧
      (0 ≤ radius → ((positions radius).length : ℤ) = positionCount radius) ∧
      positionCount radius = 3 * radius * (radius + 1) + 1 :=
  ⟨fun _ => mem_positions, nodup_positions radius, pairwise_positions radius, length_positions, rfl⟩

/-- The map of radius 7 has 169 hexes, among them the corner in the east and not the hex beside. -/
theorem positions_exact_seven :
    (0 : ℤ) ≤ 7 ∧ (positions 7).length = 169 ∧ (positions 7).Nodup ∧
      (⟨7, 0⟩ : Hex) ∈ positions 7 ∧ (⟨7, 1⟩ : Hex) ∉ positions 7 := by
  obtain ⟨hmem, hnodup, -, hlength, hcount⟩ := positions_exact 7
  have hpos : (0 : ℤ) ≤ 7 := by decide
  have hsize := hlength hpos
  refine ⟨hpos, by omega, hnodup, (hmem _).2 (by decide), fun h => ?_⟩
  exact absurd ((hmem _).1 h) (by decide)

end HexRules.Grid
