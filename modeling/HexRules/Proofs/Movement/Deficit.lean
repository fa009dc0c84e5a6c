import HexRules.Proofs.Movement.BreakOff

/-!
# Less than nothing

Without budget in hand a unit leaves no hex but its start. If it begins with nothing, or with less,
it takes one step at most: the search tries the neighbours of the start, once each, and that is all.

A unit with less than nothing is not held where it stands for all that. A step is judged by what is
left after it, and a hex that gives back all that is missing lets the unit in. What it is left with
is then cut to what it began with, so the move is recorded with a negative budget
(`exists_refund`).

Results:
* `exists_search_iff_of_nonpos`: a search without budget fails only at a neighbour of the start.
* `moves_of_deficit`: the moves of a unit with a negative budget; and no other unit is left with a
  negative budget anywhere.
-/

namespace HexRules.Movement

/-! ## One step at most -/

namespace Terrain

variable {t : Terrain} {p : Hex} {b : ℤ}

/-- From less than nothing, walks end where all that is missing is given back, and leave no more
    than there was to begin with. -/
theorem mem_arrivals_iff_of_neg (h : t.budget < 0) :
    b ∈ t.arrivals p ↔
      (p ∈ t.start.neighbors ∧ Grid.inBounds p t.radius = true ∧ t.barred p = false ∧
        t.cost p ≤ t.budget) ∧ b = t.budget := by
  rw [mem_arrivals_iff_of_nonpos h.le]
  constructor
  · intro hstep
    have hcovered := hstep.covered
    have hleft := hstep.left
    exact ⟨⟨hstep.adjacent, hstep.onMap, hstep.notBarred, by omega⟩, by omega⟩
  · rintro ⟨⟨hadj, hmap, hbar, hcost⟩, rfl⟩
    exact ⟨hadj, hmap, Hex.ne_of_mem_neighbors hadj, hbar, by omega, by omega⟩

theorem nonempty_arrivals_iff_of_neg (h : t.budget < 0) :
    (t.arrivals p).Nonempty ↔
      p ∈ t.start.neighbors ∧ Grid.inBounds p t.radius = true ∧ t.barred p = false ∧
        t.cost p ≤ t.budget := by
  constructor
  · rintro ⟨b, hb⟩
    exact ((mem_arrivals_iff_of_neg h).1 hb).1
  · intro hp
    exact ⟨t.budget, (mem_arrivals_iff_of_neg h).2 ⟨hp, rfl⟩⟩

theorem isGreatest_arrivals_iff_of_neg (h : t.budget < 0) :
    IsGreatest (t.arrivals p) b ↔ (t.arrivals p).Nonempty ∧ b = t.budget := by
  constructor
  · intro hb
    exact ⟨⟨b, hb.1⟩, ((mem_arrivals_iff_of_neg h).1 hb.1).2⟩
  · rintro ⟨⟨c, hc⟩, rfl⟩
    obtain ⟨hp, -⟩ := (mem_arrivals_iff_of_neg h).1 hc
    refine ⟨(mem_arrivals_iff_of_neg h).2 ⟨hp, rfl⟩, ?_⟩
    rintro c' ⟨n, hw⟩
    exact hw.le_budget

end Terrain

/-! ## One turn -/

namespace Search

variable {quest : Quest} {s : Search} {p q : Hex} {remaining : ℤ}

/-- Neighbours are tried with success exactly if each of them can be judged. -/
theorem exists_expand_iff :
    (∃ s', expand quest p remaining s = .ok s') ↔
      ∀ q ∈ targets quest p, ∃ v, quest.enter q remaining = .ok v := by
  rw [expand_eq]
  constructor
  · rintro ⟨s', hs'⟩ q hq
    obtain ⟨c, c', hattempt⟩ := Outcome.exists_step_of_foldlM hs' hq
    obtain ⟨v, henter, -⟩ := Outcome.bind_eq_ok_iff.1 hattempt
    exact ⟨v, henter⟩
  · intro henter
    generalize targets quest p = qs at henter
    induction qs generalizing s with
    | nil => exact ⟨s, rfl⟩
    | cons q rest ih =>
      obtain ⟨v, hv⟩ := henter q List.mem_cons_self
      have hattempt : attempt quest remaining s q = .ok (s.meet quest q v) :=
        Outcome.bind_eq_ok_iff.2 ⟨v, hv, rfl⟩
      obtain ⟨s', hs'⟩ := ih (s := s.meet quest q v) fun q' hq' =>
        henter q' (List.mem_cons_of_mem q hq')
      exact ⟨s', Outcome.foldlM_cons_eq_ok_iff.2 ⟨_, hattempt, hs'⟩⟩

end Search

/-- Without budget, a search is the one turn in which the start is left. -/
theorem search_of_nonpos {quest : Quest} (h : quest.budget ≤ 0) :
    search quest = Search.expand quest quest.start quest.budget
      { Search.begin quest with frontier := [] } := by
  have hturns : turnsFor quest.budget quest.radius = 1 := by
    have hzero : quest.budget.toNat = 0 := by omega
    rw [turnsFor, hzero, Nat.zero_mul]
  have hstart : (Search.begin quest).best.get? quest.start = some quest.budget := by
    rw [Search.get?_begin, if_pos rfl]
  have hturn : Search.turn quest quest.start quest.budget
      { Search.begin quest with frontier := [] } =
      Search.expand quest quest.start quest.budget { Search.begin quest with frontier := [] } := by
    unfold Search.turn
    rw [hstart]
    exact if_neg (lt_irrefl _)
  rw [search, hturns]
  show Search.turn quest quest.start quest.budget { Search.begin quest with frontier := [] } >>=
    Search.run quest 0 = _
  rw [hturn]
  cases Search.expand quest quest.start quest.budget { Search.begin quest with frontier := [] } with
  | error e => rfl
  | ok s => rfl

theorem exists_search_iff_of_nonpos (quest : Quest) (h : quest.budget ≤ 0) :
    (∃ s, search quest = .ok s) ↔
      ∀ q ∈ Search.targets quest quest.start, ∃ v, quest.enter q quest.budget = .ok v := by
  rw [search_of_nonpos h, Search.exists_expand_iff]

/-! ## The moves of a unit in deficit -/

section

variable {world : World} {unit : BoardUnit} {perConcept b : ℤ} {moves : MoveSet}

/-- Without budget, moves are computed exactly if all hexes next to the unit can be judged. -/
theorem exists_compute_iff_of_nonpos (hunit : world.selected.unit? world.board = some unit)
    (hfree : isFree world = false) (hbudget : (mover world unit.data).budget perConcept = .ok b)
    (hb : b ≤ 0) :
    (∃ moves, (compute perConcept world).2 = .ok moves) ↔
      ∀ q ∈ unit.position.neighbors, Grid.inBounds q world.grid.radius = true →
        q.hasKey = true ∧
          ∃ v, evaluate (mover world unit.data) (world.board.dataOn q) b q = .ok v := by
  have hmoves : (∃ moves, (compute perConcept world).2 = .ok moves) ↔
      ∃ s, search (quest world unit b) = .ok s := by
    rw [snd_compute_of_not_isFree perConcept hunit hfree, hbudget]
    exact exists_searchMoves_iff
  have hsearch : (∃ s, search (quest world unit b) = .ok s) ↔ _ :=
    exists_search_iff_of_nonpos (quest world unit b) hb
  rw [hmoves, hsearch]
  constructor
  · intro henter q hadj hmap
    obtain ⟨v, hv⟩ :=
      henter q (Search.mem_targets.2 ⟨hadj, hmap, Hex.ne_of_mem_neighbors hadj⟩)
    obtain ⟨hkey, hjudged⟩ := Mover.enter_eq_ok_iff.1 hv
    exact ⟨hkey, v, hjudged⟩
  · intro henter q hq
    obtain ⟨hadj, hmap, -⟩ := Search.mem_targets.1 hq
    obtain ⟨hkey, v, hjudged⟩ := henter q hadj hmap
    exact ⟨v, Mover.enter_eq_ok_iff.2 ⟨hkey, hjudged⟩⟩

/-- A move and its budget are the end of a walk, and the best that walks leave there. -/
theorem moves_of_compute (hunit : world.selected.unit? world.board = some unit)
    (hfree : isFree world = false) (hbudget : (mover world unit.data).budget perConcept = .ok b)
    (hmoves : (compute perConcept world).2 = .ok moves) :
    (∀ p, p ∈ moves.valid ↔ (((mover world unit.data).terrain world.board unit.position b
      world.grid.radius).arrivals p).Nonempty) ∧
    ∀ p c, moves.budgets.get? p = some c ↔ IsGreatest (((mover world unit.data).terrain
      world.board unit.position b world.grid.radius).arrivals p) c := by
  obtain ⟨s, hs, rfl⟩ := (snd_compute_eq_ok_iff hunit hfree hbudget).1 hmoves
  exact ⟨fun p => mem_valid_iff_of_search unit.id hs,
    fun p c => get?_budgets_iff_of_search unit.id hs⟩

end

/-- A unit whose budget is negative has moves unless a hex next to it has no key or cannot be
    judged. They are the hexes next to it where no block is in force and that give back all that is
    missing, each with the negative budget that the unit began with; if there is no such hex, the
    unit cannot move. Whatever the budget is, no move leaves more than it, nor less than nothing
    unless the unit began with less. -/
theorem moves_of_deficit (perConcept : ℤ) (world : World) (unit : BoardUnit) (b : ℤ)
    (hunit : world.selected.unit? world.board = some unit) (hfree : isFree world = false)
    (hbudget : (mover world unit.data).budget perConcept = .ok b) :
    (b < 0 →
      ((∃ moves, (compute perConcept world).2 = .ok moves) ↔
        ∀ q ∈ unit.position.neighbors, Grid.inBounds q world.grid.radius = true →
          q.hasKey = true ∧
            ∃ v, evaluate (mover world unit.data) (world.board.dataOn q) b q = .ok v) ∧
      ∀ moves, (compute perConcept world).2 = .ok moves →
        (∀ p, p ∈ moves.valid ↔
          p ∈ unit.position.neighbors ∧ Grid.inBounds p world.grid.radius = true ∧
            (mover world unit.data).barred (world.board.dataOn p) = false ∧
            (mover world unit.data).entryCost (world.board.dataOn p) ≤ b) ∧
        (∀ p c, moves.budgets.get? p = some c ↔ p ∈ moves.valid ∧ c = b) ∧
        ((∀ p ∈ unit.position.neighbors, Grid.inBounds p world.grid.radius = true →
            (mover world unit.data).barred (world.board.dataOn p) = false →
            b < (mover world unit.data).entryCost (world.board.dataOn p)) →
          moves.valid = [] ∧ moves.budgets.keys = [])) ∧
    ∀ moves, (compute perConcept world).2 = .ok moves →
      ∀ p c, moves.budgets.get? p = some c → min 0 b ≤ c ∧ c ≤ b := by
  constructor
  · intro hb
    refine ⟨exists_compute_iff_of_nonpos hunit hfree hbudget hb.le, ?_⟩
    intro moves hmoves
    obtain ⟨hvalid, hbest⟩ := moves_of_compute hunit hfree hbudget hmoves
    have hmem : ∀ p, p ∈ moves.valid ↔
        p ∈ unit.position.neighbors ∧ Grid.inBounds p world.grid.radius = true ∧
          (mover world unit.data).barred (world.board.dataOn p) = false ∧
          (mover world unit.data).entryCost (world.board.dataOn p) ≤ b :=
      fun p => (hvalid p).trans (Terrain.nonempty_arrivals_iff_of_neg hb)
    have hget : ∀ p c, moves.budgets.get? p = some c ↔ p ∈ moves.valid ∧ c = b := by
      intro p c
      rw [hbest, hvalid]
      exact Terrain.isGreatest_arrivals_iff_of_neg hb
    refine ⟨hmem, hget, fun hnone => ?_⟩
    have hnothing : ∀ p, p ∉ moves.valid := by
      intro p hp
      obtain ⟨hadj, hmap, hbar, hcost⟩ := (hmem p).1 hp
      have := hnone p hadj hmap hbar
      omega
    refine ⟨List.eq_nil_iff_forall_not_mem.2 hnothing, List.eq_nil_iff_forall_not_mem.2 ?_⟩
    intro p hp
    obtain ⟨c, hc⟩ := (Table.mem_keys _ _).1 hp
    exact hnothing p ((hget p c).1 hc).1
  · intro moves hmoves p c hc
    obtain ⟨-, hbest⟩ := moves_of_compute hunit hfree hbudget hmoves
    exact Terrain.min_le_of_mem_arrivals ((hbest p c).1 hc).1

/-- A river with a ford, an inn and a ferry, and a traveller of a budget between them. -/
def River.valley (budget : ℤ) : World where
  types := .empty
  concepts := River.concepts
  relations := ⟨River.relations⟩
  constraints := .empty
  selected := ⟨some "traveller"⟩
  grid := ⟨1⟩
  board := River.board.placeUnit "traveller" ⟨0, 0⟩ (River.traveller budget)

/-- A traveller who owes two gets to the inn, which gives back three, still owes two there, and
    gets to the bare hexes no more than over the ford. -/
theorem moves_of_deficit_valley :
    ∃ moves, (compute 10 (River.valley (-2))).2 = .ok moves ∧
      moves.budgets.get? ⟨1, -1⟩ = some (-2) ∧ ⟨1, 0⟩ ∉ moves.valid ∧ ⟨0, 1⟩ ∉ moves.valid := by
  obtain ⟨hdeficit, -⟩ := moves_of_deficit 10 (River.valley (-2))
    ⟨"traveller", ⟨0, 0⟩, River.traveller (-2)⟩ (-2) (by rfl) (by decide) (by decide)
  obtain ⟨-, hmoves⟩ := hdeficit (by decide)
  obtain ⟨moves, hcompute⟩ := Outcome.exists_eq_ok_of_isOk
    (x := (compute 10 (River.valley (-2))).2) (by decide)
  obtain ⟨hmem, hget, -⟩ := hmoves moves hcompute
  refine ⟨moves, hcompute, (hget _ _).2 ⟨(hmem _).2 (by decide), rfl⟩, ?_, ?_⟩
  · rw [hmem]
    decide
  · rw [hmem]
    decide

/-- The refund of the inn lets a traveller in who owes two. -/
theorem exists_refund :
    ¬∀ (perConcept : ℤ) (world : World) (unit : BoardUnit) (b : ℤ),
      world.selected.unit? world.board = some unit → isFree world = false →
      (mover world unit.data).budget perConcept = .ok b → b < 0 →
      ∀ moves, (compute perConcept world).2 = .ok moves →
        moves.valid = [] ∧ moves.budgets.keys = [] := by
  intro h
  have hnone := h 10 (River.valley (-2)) ⟨"traveller", ⟨0, 0⟩, River.traveller (-2)⟩ (-2) (by rfl)
    (by decide) (by decide) (by decide)
  have hsome : ∀ moves, (compute 10 (River.valley (-2))).2.toOption = some moves →
      moves.valid = [⟨1, -1⟩] := by
    intro moves hmoves
    cases hmoves
    decide
  obtain ⟨moves, hcompute⟩ := Outcome.exists_eq_ok_of_isOk
    (x := (compute 10 (River.valley (-2))).2) (by decide)
  obtain ⟨hvalid, -⟩ := hnone moves hcompute
  rw [hsome moves (by rw [hcompute]; rfl)] at hvalid
  cases hvalid

end HexRules.Movement
