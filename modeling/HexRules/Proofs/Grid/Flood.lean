import HexRules.Proofs.Grid.Distance
import HexRules.Proofs.Grid.Size

/-!
# Walking over a map

The walk over a map puts every hex that it finds into a queue, once, and leaves the hexes of the
queue one after the other. Each hex that it found waits in the queue or was left, and then its
neighbours on the map were found too. With every hex that is found one comes into the queue, and no
more can be found than the map has. So the loop ends by itself, after one turn for the start and one
for each hex that it finds; the turns that it is given suffice.

Results:
* `Flood.exists_foldl_meet`: leaving a hex adds to what was found and to the queue alike.
* `Flood.exists_ends`: the loop ends by itself with what the walk finds in its turns.
* `Flood.Ends.spreads`: at the end all neighbours of what was found are found.
* `mem_floodFill_iff`: from a hex on the map, or next to it, the walk finds all other hexes of the
  map, and from any other hex none.
* `floodFill_exact`: so it does within one turn for each, and finds each of them once.
-/

namespace HexRules.Grid

namespace Flood

variable {start p : Hex} {radius : ℤ} {f : Flood}

/-! ## Leaving a hex -/

/-- What is found next to a hex comes in front of what was found, and behind the queue. -/
theorem exists_foldl_meet (start : Hex) (qs : List Hex) (f : Flood) :
    ∃ found : List Hex,
      qs.foldl (meet start) f = ⟨found.reverse ++ f.reached, f.queue ++ found⟩ ∧
      found.Nodup ∧ (∀ q ∈ found, q ∈ qs ∧ q ≠ start ∧ q ∉ f.reached) ∧
      ∀ q ∈ qs, q = start ∨ q ∈ found ∨ q ∈ f.reached := by
  induction qs generalizing f with
  | nil => exact ⟨[], by simp, List.nodup_nil, by simp, by simp⟩
  | cons q rest ih =>
    rw [List.foldl_cons, meet]
    split_ifs with hknown
    · obtain ⟨found, heq, hnodup, hnew, hall⟩ := ih f
      refine ⟨found, heq, hnodup, fun r hr => ?_, fun r hr => ?_⟩
      · exact ⟨List.mem_cons_of_mem q (hnew r hr).1, (hnew r hr).2⟩
      · rcases List.mem_cons.1 hr with rfl | hr
        · exact hknown.imp_right .inr
        · exact hall r hr
    · rw [not_or] at hknown
      obtain ⟨found, heq, hnodup, hnew, hall⟩ := ih ⟨q :: f.reached, f.queue ++ [q]⟩
      have hfresh : q ∉ found := fun hq => (hnew q hq).2.2 List.mem_cons_self
      refine ⟨q :: found, ?_, List.nodup_cons.2 ⟨hfresh, hnodup⟩, fun r hr => ?_, fun r hr => ?_⟩
      · simpa using heq
      · rcases List.mem_cons.1 hr with rfl | hr
        · exact ⟨List.mem_cons_self, hknown⟩
        · obtain ⟨hrest, hne, hold⟩ := hnew r hr
          exact ⟨List.mem_cons_of_mem q hrest, hne, fun h => hold (List.mem_cons_of_mem q h)⟩
      · rcases List.mem_cons.1 hr with rfl | hr
        · exact .inr (.inl List.mem_cons_self)
        · rcases hall r hr with h | h | h
          · exact .inl h
          · exact .inr (.inl (List.mem_cons_of_mem q h))
          · rcases List.mem_cons.1 h with rfl | h
            · exact .inr (.inl List.mem_cons_self)
            · exact .inr (.inr h)

/-! ## Turns -/

/-- How a walk stands between two turns. -/
structure Spreads (start : Hex) (radius : ℤ) (f : Flood) : Prop where
  nodup : f.reached.Nodup
  onMap : ∀ p ∈ f.reached, inBounds p radius = true ∧ p ≠ start
  left : ∀ p, p = start ∨ p ∈ f.reached →
    p ∈ f.queue ∨ ∀ q ∈ neighborsInBounds p radius, q = start ∨ q ∈ f.reached

theorem spreads_begin (start : Hex) (radius : ℤ) : Spreads start radius ⟨[], [start]⟩ where
  nodup := List.nodup_nil
  onMap := fun p hp => absurd hp List.not_mem_nil
  left := by
    rintro p (rfl | hp)
    · exact .inl List.mem_cons_self
    · exact absurd hp List.not_mem_nil

theorem Spreads.turn {queue : List Hex} (h : f.Spreads start radius) (hcons : f.queue = p :: queue)
    {found : List Hex} (hnodup : found.Nodup)
    (hnew : ∀ q ∈ found, q ∈ neighborsInBounds p radius ∧ q ≠ start ∧ q ∉ f.reached)
    (hall : ∀ q ∈ neighborsInBounds p radius, q = start ∨ q ∈ found ∨ q ∈ f.reached) :
    Spreads start radius ⟨found.reverse ++ f.reached, queue ++ found⟩ := by
  have hmem (q : Hex) : q ∈ found.reverse ++ f.reached ↔ q ∈ found ∨ q ∈ f.reached := by
    rw [List.mem_append, List.mem_reverse]
  refine ⟨?_, fun q hq => ?_, fun q hq => ?_⟩
  · refine List.nodup_append.2 ⟨List.nodup_reverse.2 hnodup, h.nodup, ?_⟩
    rintro q hq r hr rfl
    exact (hnew q (List.mem_reverse.1 hq)).2.2 hr
  · rcases (hmem q).1 hq with hq | hq
    · exact ⟨(mem_neighborsInBounds.1 (hnew q hq).1).2, (hnew q hq).2.1⟩
    · exact h.onMap q hq
  · dsimp only at hq ⊢
    simp only [hmem] at hq ⊢
    by_cases hfound : q ∈ found
    · exact .inl (List.mem_append_right queue hfound)
    by_cases hp : q = p
    · exact .inr fun r hr => hall r (hp ▸ hr)
    rcases h.left q (by tauto) with hqueue | hleft
    · rw [hcons, List.mem_cons] at hqueue
      exact .inl (List.mem_append_left found (hqueue.resolve_left hp))
    · exact .inr fun r hr => (hleft r hr).imp_right .inr

/-- Leaving the first hex of the queue keeps the walk in this state. -/
theorem Spreads.leave {queue : List Hex} (h : f.Spreads start radius)
    (hcons : f.queue = p :: queue) :
    Spreads start radius
      ((neighborsInBounds p radius).foldl (meet start) { f with queue := queue }) := by
  obtain ⟨found, heq, hnodup, hnew, hall⟩ :=
    exists_foldl_meet start (neighborsInBounds p radius) { f with queue := queue }
  rw [heq]
  exact h.turn hcons hnodup hnew hall

/-- A hex that is found comes into the queue, and the hex that is left goes from there. -/
theorem length_leave (start : Hex) (radius : ℤ) {queue : List Hex}
    (hcons : f.queue = p :: queue) :
    ((neighborsInBounds p radius).foldl (meet start) { f with queue := queue }).queue.length +
        f.reached.length + 1 =
      f.queue.length +
        ((neighborsInBounds p radius).foldl (meet start)
          { f with queue := queue }).reached.length := by
  obtain ⟨found, heq, -⟩ :=
    exists_foldl_meet start (neighborsInBounds p radius) { f with queue := queue }
  rw [heq, hcons]
  simp only [List.length_append, List.length_reverse, List.length_cons]
  omega

theorem Spreads.length_reached_le (h : f.Spreads start radius) :
    f.reached.length ≤ (positions radius).length :=
  (h.nodup.subperm fun q hq => mem_positions.2 (h.onMap q hq).1).length_le

/-! ## The end of the loop -/

/-- Left to itself, the loop takes so many turns until nothing is in the queue, and has then reached
    these hexes. -/
inductive Ends (start : Hex) (radius : ℤ) : ℕ → Flood → List Hex → Prop
  | done {f : Flood} (empty : f.queue = []) : Ends start radius 0 f f.reached
  | turn {turns : ℕ} {f : Flood} {p : Hex} {queue found : List Hex} (first : f.queue = p :: queue)
      (rest : Ends start radius turns
        ((neighborsInBounds p radius).foldl (meet start) { f with queue := queue }) found) :
      Ends start radius (turns + 1) f found

variable {turns : ℕ} {found : List Hex}

/-- Every hex of the queue takes one turn, and so does every hex that is found later on. -/
theorem Ends.length_eq (h : Ends start radius turns f found) :
    turns + f.reached.length = f.queue.length + found.length := by
  induction h with
  | done empty => simp [empty]
  | turn first rest ih =>
    have hleave := length_leave start radius first
    omega

/-- At the end, all neighbours of what was found are found. -/
theorem Ends.spreads (h : Ends start radius turns f found) (hf : f.Spreads start radius) :
    Spreads start radius ⟨found, []⟩ := by
  induction h with
  | @done f empty =>
    rw [← empty]
    exact hf
  | turn first rest ih => exact ih (hf.leave first)

/-- With as many turns as there are hexes on the map that were not found, and hexes in the queue, a
    walk comes to the end of the loop. -/
theorem exists_ends (turns : ℕ) (h : f.Spreads start radius)
    (hturns : (positions radius).length + f.queue.length ≤ turns + f.reached.length) :
    ∃ n, Ends start radius n f (run start radius turns f) := by
  induction turns generalizing f with
  | zero =>
    have hfew := h.length_reached_le
    exact ⟨0, .done (List.eq_nil_of_length_eq_zero (by omega))⟩
  | succ turns ih =>
    unfold run
    split
    · rename_i hempty
      exact ⟨0, .done hempty⟩
    · rename_i p queue hcons
      have hleave := length_leave start radius hcons
      obtain ⟨n, hends⟩ := ih (h.leave hcons) (by omega)
      exact ⟨n + 1, .turn hcons hends⟩

end Flood

variable {start : Hex} {radius : ℤ}

/-- The loop ends by itself, after one turn for the start and one for each hex that is found. -/
theorem ends_floodFill (start : Hex) (radius : ℤ) :
    Flood.Ends start radius ((floodFill start radius).length + 1) ⟨[], [start]⟩
      (floodFill start radius) := by
  have hturns := length_positions_le radius
  obtain ⟨n, hends⟩ := Flood.exists_ends ((positionCount radius).toNat + 1)
    (Flood.spreads_begin start radius) (by simpa using hturns)
  have hlength : n = (floodFill start radius).length + 1 := by
    have h := hends.length_eq
    simp only [List.length_nil, List.length_cons] at h
    rw [floodFill]
    omega
  rw [← hlength]
  exact hends

theorem spreads_floodFill (start : Hex) (radius : ℤ) :
    Flood.Spreads start radius ⟨floodFill start radius, []⟩ :=
  (ends_floodFill start radius).spreads (Flood.spreads_begin start radius)

theorem nodup_floodFill (start : Hex) (radius : ℤ) : (floodFill start radius).Nodup :=
  (spreads_floodFill start radius).nodup

theorem mem_floodFill {p : Hex}
    (hstart : ∃ p, (p = start ∨ p ∈ start.neighbors) ∧ inBounds p radius = true) :
    p ∈ floodFill start radius ↔ inBounds p radius = true ∧ p ≠ start := by
  have h := spreads_floodFill start radius
  refine ⟨h.onMap p, fun ⟨hp, hne⟩ => ?_⟩
  refine induction_onMap (P := (· ∈ floodFill start radius)) hstart ?_ hp hne
  intro q r hq hnext hmap hr
  rcases h.left q hq with hqueue | hleft
  · cases hqueue
  · exact (hleft r (mem_neighborsInBounds.2 ⟨hnext, hmap⟩)).resolve_left hr

theorem floodFill_eq_nil (h : ∀ p ∈ start.neighbors, inBounds p radius = false) :
    floodFill start radius = [] := by
  have hnone : neighborsInBounds start radius = [] :=
    List.filter_eq_nil_iff.2 fun p hp => by rw [h p hp]; exact Bool.false_ne_true
  have hrun (turns : ℕ) : Flood.run start radius turns ⟨[], []⟩ = [] := by
    cases turns <;> rfl
  rw [floodFill, Flood.run]
  dsimp only
  rw [hnone]
  exact hrun _

/-- From a hex on the map, or next to it, a walk finds all other hexes of the map; from any other
    hex it finds none. -/
theorem mem_floodFill_iff {p : Hex} :
    p ∈ floodFill start radius ↔
      (∃ q, (q = start ∨ q ∈ start.neighbors) ∧ inBounds q radius = true) ∧
        inBounds p radius = true ∧ p ≠ start := by
  by_cases hstart : ∃ q, (q = start ∨ q ∈ start.neighbors) ∧ inBounds q radius = true
  · rw [mem_floodFill hstart, and_iff_right hstart]
  · have hnone : floodFill start radius = [] :=
      floodFill_eq_nil fun q hq => Bool.eq_false_iff.2 fun hmap => hstart ⟨q, .inr hq, hmap⟩
    rw [hnone, iff_false_intro hstart, false_and]
    exact iff_of_false List.not_mem_nil id

/-- With the start, a walk from a hex of the map has all hexes of the map. -/
theorem perm_cons_floodFill (h : inBounds start radius = true) :
    (start :: floodFill start radius).Perm (positions radius) := by
  have hnew : start ∉ floodFill start radius := fun hmem => (mem_floodFill_iff.1 hmem).2.2 rfl
  rw [List.perm_ext_iff_of_nodup (List.nodup_cons.2 ⟨hnew, nodup_floodFill start radius⟩)
    (nodup_positions radius)]
  intro p
  rw [List.mem_cons, mem_positions, mem_floodFill ⟨start, .inl rfl, h⟩]
  by_cases hp : p = start
  · simp [hp, h]
  · simp [hp]

/-- The loop of a walk ends by itself, after one turn for the start and one for each hex that it
    finds. It finds each hex once: from a hex on the map, or next to it, all other hexes of the map,
    and none from any other hex. From a hex on the map these are `3R(R + 1)`. -/
theorem floodFill_exact (start : Hex) (radius : ℤ) :
    Flood.Ends start radius ((floodFill start radius).length + 1) ⟨[], [start]⟩
        (floodFill start radius) ∧
      (floodFill start radius).Nodup ∧
      (∀ p, p ∈ floodFill start radius ↔
        (∃ q, (q = start ∨ q ∈ start.neighbors) ∧ inBounds q radius = true) ∧
          inBounds p radius = true ∧ p ≠ start) ∧
      (inBounds start radius = true →
        ((floodFill start radius).length : ℤ) = 3 * radius * (radius + 1)) := by
  refine ⟨ends_floodFill start radius, nodup_floodFill start radius, fun p => mem_floodFill_iff,
    fun h => ?_⟩
  have hlength := (perm_cons_floodFill h).length_eq
  have hcount := length_positions (radius_nonneg h)
  rw [← hlength, List.length_cons, positionCount] at hcount
  push_cast at hcount
  linarith

/-- From a hex at the edge of a map of radius two a walk finds the 18 others, in 19 turns; from a
    hex beside the map it finds the hex at the edge, and from one further off nothing. -/
theorem floodFill_exact_edge :
    (floodFill ⟨-2, 2⟩ 2).length = 18 ∧
      Flood.Ends ⟨-2, 2⟩ 2 19 ⟨[], [⟨-2, 2⟩]⟩ (floodFill ⟨-2, 2⟩ 2) ∧
      (⟨-2, 2⟩ : Hex) ∈ floodFill ⟨-3, 2⟩ 2 ∧ ∀ p, p ∉ floodFill ⟨-4, 2⟩ 2 := by
  obtain ⟨hends, -, -, hcount⟩ := floodFill_exact ⟨-2, 2⟩ 2
  have hlength : (floodFill ⟨-2, 2⟩ 2).length = 18 := by exact_mod_cast hcount (by decide)
  rw [hlength] at hends
  obtain ⟨-, -, hbeside, -⟩ := floodFill_exact ⟨-3, 2⟩ 2
  obtain ⟨-, -, hoff, -⟩ := floodFill_exact ⟨-4, 2⟩ 2
  refine ⟨hlength, hends, ?_, fun p hp => ?_⟩
  · exact (hbeside _).2 ⟨⟨⟨-2, 2⟩, .inr (by decide), by decide⟩, by decide, by decide⟩
  · have hbare : ∀ q ∈ (⟨-4, 2⟩ : Hex) :: (⟨-4, 2⟩ : Hex).neighbors, inBounds q 2 = false := by
      decide
    obtain ⟨⟨q, hnear, hmap⟩, -⟩ := (hoff p).1 hp
    rw [hbare q (List.mem_cons.2 hnear)] at hmap
    cases hmap

end HexRules.Grid
