import HexRules.Proofs.Movement.Exact

/-!
# Easier terrain

One terrain is easier than another if no hex costs more on it, none is barred that was free before,
and there is at least as much budget to begin with. Every walk can be taken on the easier terrain
as well, and is never left with less: where the walk gets back more than the budget allows, the
bound on the easier terrain is no lower.

Two searches visit the hexes in different orders and break off at different places, so they are not
compared turn by turn, but by the walks that both of them measure.

Results:
* `Eases.walk`: a walk can be taken on easier terrain, with no less budget left.
* `search_monotone`: a unit that moves on easier terrain reaches no fewer hexes.
-/

namespace HexRules.Movement

namespace Terrain

variable {t t' : Terrain} {p p' : Hex} {b b' c : ℤ}

/-- The second terrain is easier than the first, wherever a walk can come to. -/
structure Eases (t t' : Terrain) : Prop where
  start : t'.start = t.start
  radius : t'.radius = t.radius
  budget : t.budget ≤ t'.budget
  cost : ∀ p, Grid.inBounds p t.radius = true → p ≠ t.start → t'.cost p ≤ t.cost p
  barred : ∀ p, Grid.inBounds p t.radius = true → p ≠ t.start →
    t'.barred p = true → t.barred p = true

theorem Eases.step (h : t.Eases t') (hs : t.Step p b p' b') (hc : b ≤ c) :
    ∃ c', b' ≤ c' ∧ t'.Step p c p' c' := by
  have hcost := h.cost p' hs.onMap hs.away
  have hbudget := h.budget
  have hcovered := hs.covered
  refine ⟨min (c - t'.cost p') t'.budget, ?_, ?_⟩
  · rw [hs.left]
    omega
  · refine ⟨hs.adjacent, h.radius ▸ hs.onMap, h.start ▸ hs.away, ?_, by omega, rfl⟩
    rw [Bool.eq_false_iff]
    intro hbarred
    have hold := h.barred p' hs.onMap hs.away hbarred
    rw [hs.notBarred] at hold
    cases hold

theorem Eases.walk (h : t.Eases t') {n : ℕ} (hw : t.Walk n p b) :
    ∃ c, b ≤ c ∧ t'.Walk n p c := by
  induction hw with
  | start => exact ⟨t'.budget, h.budget, h.start ▸ .start⟩
  | step walk onward step ih =>
    obtain ⟨c, hc, hwalk⟩ := ih
    obtain ⟨c', hc', hstep⟩ := h.step step hc
    exact ⟨c', hc', .step hwalk (fun hn => (onward hn).trans_le hc) hstep⟩

end Terrain

/-- Of two searches from the same start on the same map, let the second have no less budget, and let
    no hex that can be entered cost more or be barred only in the second. Then the second reaches
    every hex that the first reaches, with no less budget left. Costs may be negative, and so may
    the budgets. -/
theorem search_monotone (m m' : Mover) (board board' : Board) (unit unit' : String) (start : Hex)
    {budget budget' radius : ℤ} (hbudget : budget ≤ budget')
    (hcost : ∀ p, Grid.inBounds p radius = true → p ≠ start →
      m'.entryCost (board'.dataOn p) ≤ m.entryCost (board.dataOn p))
    (hbarred : ∀ p, Grid.inBounds p radius = true → p ≠ start →
      m'.barred (board'.dataOn p) = true → m.barred (board.dataOn p) = true)
    {s s' : Search} (h : search (m.quest board start budget radius) = .ok s)
    (h' : search (m'.quest board' start budget' radius) = .ok s') :
    ∀ p ∈ (MoveSet.ofSearch unit start s).valid,
      p ∈ (MoveSet.ofSearch unit' start s').valid ∧
      ∃ b b', (MoveSet.ofSearch unit start s).budgets.get? p = some b ∧
        (MoveSet.ofSearch unit' start s').budgets.get? p = some b' ∧ b ≤ b' := by
  have heases : (m.terrain board start budget radius).Eases
      (m'.terrain board' start budget' radius) := ⟨rfl, rfl, hbudget, hcost, hbarred⟩
  have on := m.quest_on board start budget radius
  have on' := m'.quest_on board' start budget' radius
  intro p hp
  obtain ⟨haway, b, hbest⟩ := MoveSet.mem_valid_ofSearch.1 hp
  obtain ⟨n, hwalk⟩ := ((Search.get?_eq_some_iff_of_search on h haway).1 hbest).1
  obtain ⟨c, hc, hwalk'⟩ := heases.walk hwalk
  have hp' : p ∈ (MoveSet.ofSearch unit' start s').valid :=
    (mem_valid_iff_of_search unit' h').2 ⟨c, n, hwalk'⟩
  obtain ⟨-, b', hbest'⟩ := MoveSet.mem_valid_ofSearch.1 hp'
  have hb' : c ≤ b' := ((Search.get?_eq_some_iff_of_search on' h' haway).1 hbest').2 ⟨n, hwalk'⟩
  refine ⟨hp', b, b', ?_, ?_, hc.trans hb'⟩
  · rw [MoveSet.get?_budgets_ofSearch haway, hbest]
  · rw [MoveSet.get?_budgets_ofSearch haway, hbest']

/-- Once the toll of the ford is lowered, and with one more to spend, the traveller from off the map
    gets over the ford no worse than before. -/
theorem search_monotone_ford :
    ∃ s s', search (River.mover.quest River.board ⟨2, 0⟩ 3 1) = .ok s ∧
      search (River.mover.quest (River.board.put ⟨1, 0⟩ (River.tile 1 0)) ⟨2, 0⟩ 4 1) =
        .ok s' ∧
      ⟨1, 0⟩ ∈ (MoveSet.ofSearch "traveller" ⟨2, 0⟩ s').valid ∧
      ∃ b b', (MoveSet.ofSearch "traveller" ⟨2, 0⟩ s).budgets.get? ⟨1, 0⟩ = some b ∧
        (MoveSet.ofSearch "traveller" ⟨2, 0⟩ s').budgets.get? ⟨1, 0⟩ = some b' ∧ b ≤ b' := by
  obtain ⟨s, hs⟩ := Outcome.exists_eq_ok_of_isOk
    (x := search (River.mover.quest River.board ⟨2, 0⟩ 3 1)) (by decide)
  obtain ⟨s', hs'⟩ := Outcome.exists_eq_ok_of_isOk
    (x := search (River.mover.quest (River.board.put ⟨1, 0⟩ (River.tile 1 0)) ⟨2, 0⟩ 4 1))
    (by decide)
  have hford : ∀ s₀, (search (River.mover.quest River.board ⟨2, 0⟩ 3 1)).toOption = some s₀ →
      ⟨1, 0⟩ ∈ (MoveSet.ofSearch "traveller" ⟨2, 0⟩ s₀).valid := by
    intro s₀ hs₀
    cases hs₀
    decide
  have heases : ∀ p ∈ Grid.positions 1,
      River.mover.entryCost ((River.board.put ⟨1, 0⟩ (River.tile 1 0)).dataOn p) ≤
        River.mover.entryCost (River.board.dataOn p) ∧
      (River.mover.barred ((River.board.put ⟨1, 0⟩ (River.tile 1 0)).dataOn p) = true →
        River.mover.barred (River.board.dataOn p) = true) := by
    decide
  exact ⟨s, s', hs, hs', search_monotone River.mover River.mover River.board
    (River.board.put ⟨1, 0⟩ (River.tile 1 0)) "traveller" "traveller" ⟨2, 0⟩ (by decide)
    (fun p hp _ => (heases p (Grid.mem_positions.2 hp)).1)
    (fun p hp _ => (heases p (Grid.mem_positions.2 hp)).2) hs hs' ⟨1, 0⟩
    (hford s (by rw [hs]; rfl))⟩

end HexRules.Movement
