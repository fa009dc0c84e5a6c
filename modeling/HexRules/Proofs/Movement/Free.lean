import HexRules.Proofs.Grid.Flood
import HexRules.Proofs.Hex.Key
import HexRules.Proofs.Movement.Explained
import HexRules.Proofs.Movement.Tries

/-!
# Free ground

A unit that no relation applies to finds no hex that costs it anything or keeps it out. With some
budget it goes all over the map, for it never spends any of it: a search then finds the same hexes
as a walk over the map that asks for no budget at all. With a negative budget it does not move: what
a free hex costs is still more than it has. Without budget it takes one step.

A search asks what lies on the hexes, which the walk over the map does not. So it fails if one of
the hexes that it tries has no key, which takes a radius of too many digits.

Results:
* `Free.nonempty_arrivals_iff`: walks with some budget over free ground arrive where a walk over the
  map gets.
* `exists_search_iff_of_relations`: without relations a search fails only for want of a key.
* `valid_of_relations`: what a search without relations finds, whatever the budget.
* `search_agrees_floodFill`: without relations a search finds what the walk over the map finds, and
  so constraints make no difference to a unit with some budget.
-/

namespace HexRules.Movement

/-! ## No relations, no cost -/

namespace Mover

variable {m : Mover}

theorem entryCost_of_relations (h : m.relations = []) (tile : Option EntityData) :
    m.entryCost tile = 0 := by
  cases tile with
  | none => rfl
  | some tile => simp [entryCost, total, h]

theorem barred_of_relations (h : m.relations = []) (tile : Option EntityData) :
    m.barred tile = false := by
  cases tile with
  | none => rfl
  | some tile => simp [barred, h]

theorem exists_evaluate_of_relations (h : m.relations = []) (tile : Option EntityData)
    (remaining : ℤ) (p : Hex) : ∃ verdict, evaluate m tile remaining p = .ok verdict := by
  cases tile with
  | none => exact ⟨_, rfl⟩
  | some tile => exact ⟨Tally.start.verdict remaining, by rw [evaluate, h]; rfl⟩

end Mover

/-! ## Walks on free ground -/

namespace Terrain

variable {t : Terrain} {p : Hex} {b : ℤ}

/-- No hex costs anything, and none is barred. -/
structure Free (t : Terrain) : Prop where
  cost : ∀ p, t.cost p = 0
  barred : ∀ p, t.barred p = false

/-- A step onto a hex of the map takes nothing. -/
theorem Free.step (h : t.Free) (hb : 0 ≤ t.budget) {q : Hex} (hadj : q ∈ p.neighbors)
    (hmap : Grid.inBounds q t.radius = true) (haway : q ≠ t.start) :
    t.Step p t.budget q t.budget := by
  refine ⟨hadj, hmap, haway, h.barred q, ?_, ?_⟩
  · rwa [h.cost, sub_zero]
  · rw [h.cost, sub_zero, min_self]

/-- A walk over free ground has the budget in the end that it began with. -/
theorem Free.budget_of_walk (h : t.Free) {n : ℕ} (hw : t.Walk n p b) : b = t.budget := by
  induction hw with
  | start => rfl
  | step walk onward step ih => rw [step.left, h.cost, sub_zero, ih, min_self]

/-- A walk goes on over free ground with the budget that it has, if it has some. -/
theorem Free.budget_mem_arrivals (h : t.Free) (hb : 0 < t.budget)
    (hstart : ∃ q, (q = t.start ∨ q ∈ t.start.neighbors) ∧ Grid.inBounds q t.radius = true)
    (hp : Grid.inBounds p t.radius = true) (haway : p ≠ t.start) : t.budget ∈ t.arrivals p := by
  refine Grid.induction_onMap (P := fun p => t.budget ∈ t.arrivals p) hstart ?_ hp haway
  intro p q hp hadj hmap hq
  have hleaves : t.Leaves p t.budget := by
    rcases hp with rfl | hp
    · exact t.leaves_start
    · exact leaves_of_mem_arrivals hp hb
  exact hleaves.arrive (h.step hb.le hadj hmap hq)

/-- Walks over free ground arrive where a walk over the map gets that asks for no budget. -/
theorem Free.nonempty_arrivals_iff (h : t.Free) (hb : 0 < t.budget) :
    (t.arrivals p).Nonempty ↔ p ∈ Grid.floodFill t.start t.radius := by
  rw [Grid.mem_floodFill_iff]
  constructor
  · rintro ⟨b, hb⟩
    have hmap := onMap_of_mem_arrivals hb
    have haway := ne_start_of_mem_arrivals hb
    obtain ⟨n, hw⟩ := hb
    obtain ⟨q, hadj, hfirst⟩ := hw.exists_first
    exact ⟨⟨q, .inr hadj, hfirst⟩, hmap, haway⟩
  · rintro ⟨hstart, hmap, haway⟩
    exact ⟨t.budget, h.budget_mem_arrivals hb hstart hmap haway⟩

/-- With some budget, a unit on free ground tries the hexes that a walk over the map gets to. -/
theorem Free.exists_tries_iff_of_pos (h : t.Free) (hb : 0 < t.budget) :
    (∃ b, t.Tries p b) ↔ p ∈ Grid.floodFill t.start t.radius := by
  constructor
  · rintro ⟨b, q, ⟨n, hw, hpos⟩, hadj, hmap, haway⟩
    obtain rfl := h.budget_of_walk hw
    have hleaves : t.Leaves q t.budget := ⟨n, hw, hpos⟩
    exact (h.nonempty_arrivals_iff hb).1 ⟨_, hleaves.arrive (h.step hb.le hadj hmap haway)⟩
  · intro hp
    obtain ⟨b, hb⟩ := (h.nonempty_arrivals_iff hb).2 hp
    exact exists_tries_of_mem_arrivals hb

/-- Without budget a walk over free ground is a single step. -/
theorem Free.nonempty_arrivals_iff_of_zero (h : t.Free) (hb : t.budget = 0) :
    (t.arrivals p).Nonempty ↔ p ∈ t.start.neighbors ∧ Grid.inBounds p t.radius = true := by
  constructor
  · rintro ⟨b, hmem⟩
    have hstep := (mem_arrivals_iff_of_nonpos hb.le).1 hmem
    exact ⟨hstep.adjacent, hstep.onMap⟩
  · rintro ⟨hadj, hmap⟩
    have hstep := h.step hb.ge hadj hmap (Hex.ne_of_mem_neighbors hadj)
    exact ⟨t.budget, (mem_arrivals_iff_of_nonpos hb.le).2 hstep⟩

/-- A walk with less than nothing does not get anywhere. -/
theorem Free.arrivals_of_neg (h : t.Free) (hb : t.budget < 0) : t.arrivals p = ∅ := by
  rw [Set.eq_empty_iff_forall_notMem]
  rintro b ⟨n, hw⟩
  cases hw with
  | step walk onward step =>
    have hle := walk.le_budget
    have hcovered := step.covered
    rw [h.cost] at hcovered
    omega

end Terrain

/-! ## Moves on free ground -/

section

variable {m : Mover} {board : Board} {start p : Hex} {budget radius : ℤ}

theorem Mover.free_terrain (h : m.relations = []) (board : Board) (start : Hex)
    (budget radius : ℤ) : (m.terrain board start budget radius).Free where
  cost := fun p => Mover.entryCost_of_relations h (board.dataOn p)
  barred := fun p => Mover.barred_of_relations h (board.dataOn p)

/-- The hexes that a unit of a budget tries on free ground. -/
def tried (start : Hex) (budget radius : ℤ) : List Hex :=
  if 0 < budget then Grid.floodFill start radius else Grid.neighborsInBounds start radius

theorem tried_of_pos (hb : 0 < budget) : tried start budget radius = Grid.floodFill start radius :=
  if_pos hb

theorem Terrain.Free.exists_tries_iff {t : Terrain} (h : t.Free) :
    (∃ b, t.Tries p b) ↔ p ∈ tried t.start t.budget t.radius := by
  unfold tried
  split_ifs with hb
  · exact h.exists_tries_iff_of_pos hb
  · rw [exists_tries_iff_of_nonpos (not_lt.1 hb), Grid.mem_neighborsInBounds]

theorem hasKey_of_mem_tried (hr : Text.Numeral.isShort radius = true)
    (hp : p ∈ tried start budget radius) : p.hasKey = true := by
  refine Grid.hasKey_of_inBounds hr ?_
  unfold tried at hp
  split_ifs at hp with hb
  · exact (Grid.mem_floodFill_iff.1 hp).2.1
  · exact (Grid.mem_neighborsInBounds.1 hp).2

/-- Without relations a search succeeds exactly if every hex that it tries has a key. -/
theorem exists_search_iff_of_relations (h : m.relations = []) (board : Board) (start : Hex)
    (budget radius : ℤ) :
    (∃ s, search (m.quest board start budget radius) = .ok s) ↔
      ∀ p ∈ tried start budget radius, p.hasKey = true := by
  have on := m.quest_on board start budget radius
  have htries : ∀ p, (∃ b, (m.terrain board start budget radius).Tries p b) ↔
      p ∈ tried start budget radius :=
    fun p => (Mover.free_terrain h board start budget radius).exists_tries_iff
  constructor
  · rintro ⟨s, hs⟩ p hp
    by_contra hkey
    obtain ⟨b, hb⟩ := (htries p).2 hp
    exact Search.not_tries_of_ok on hs
      (fun c v hv => hkey (Mover.enter_eq_ok_iff.1 hv).1) b hb
  · intro hkeys
    refine Search.exists_eq_ok_of_tries on fun p b hb => ?_
    obtain ⟨v, hv⟩ := Mover.exists_evaluate_of_relations h (board.dataOn p) b p
    exact ⟨v, Mover.enter_eq_ok_iff.2 ⟨hkeys p ((htries p).1 ⟨b, hb⟩), hv⟩⟩

/-- A search finds what the walk over the map finds that asks for no budget. -/
theorem mem_valid_of_pos (h : m.relations = []) (unit : String) (hb : 0 < budget) {s : Search}
    (hs : search (m.quest board start budget radius) = .ok s) :
    p ∈ (MoveSet.ofSearch unit start s).valid ↔ p ∈ Grid.floodFill start radius := by
  rw [mem_valid_iff_of_search unit hs]
  exact (Mover.free_terrain h board start budget radius).nonempty_arrivals_iff hb

/-- No hex is reached with less than the whole budget. -/
theorem get?_best_of_relations (h : m.relations = []) (hb : 0 < budget) {s : Search}
    (hs : search (m.quest board start budget radius) = .ok s)
    (hp : p ∈ Grid.floodFill start radius) : s.best.get? p = some budget := by
  have hfree := Mover.free_terrain h board start budget radius
  obtain ⟨hstart, hmap, haway⟩ := Grid.mem_floodFill_iff.1 hp
  rw [Search.get?_eq_some_iff_of_search (m.quest_on board start budget radius) hs haway]
  refine ⟨hfree.budget_mem_arrivals hb hstart hmap haway, ?_⟩
  rintro c ⟨n, hw⟩
  exact hw.le_budget

/-- Nothing is held against any hex: wherever a step is tried, it leads somewhere. -/
theorem blocked_of_relations (h : m.relations = []) (unit : String) (hb : 0 < budget) {s : Search}
    (hs : search (m.quest board start budget radius) = .ok s) :
    (MoveSet.ofSearch unit start s).blocked.keys = [] := by
  have on := m.quest_on board start budget radius
  have hfree := Mover.free_terrain h board start budget radius
  have htracks := Search.tracks_search on hs
  obtain ⟨haccounts, hempty⟩ := Search.accounts_search hb.le ne_nil_of_enter hs
  rw [List.eq_nil_iff_forall_not_mem]
  intro p hp
  obtain ⟨findings, hfindings⟩ := (Table.mem_keys _ _).1 hp
  obtain ⟨hnone, -, -, q, b, hgo, htarget⟩ := haccounts.refused hfindings
  obtain ⟨hadj, hmap, haway⟩ := Search.mem_targets.1 htarget
  have hleaves : (m.terrain board start budget radius).Leaves q budget := by
    by_cases hq : q = start
    · subst hq
      exact Terrain.leaves_start _
    · obtain ⟨n, hw⟩ := htracks.arrived hgo.1 hq
      rw [hfree.budget_of_walk hw] at hw
      exact ⟨n + 1, hw, fun _ => hb⟩
  obtain ⟨n, hw⟩ := hleaves.arrive (hfree.step hb.le hadj hmap haway)
  obtain ⟨known, hbest, -⟩ := Search.knows_iff.1 (Search.knows_of_walk htracks hempty hw)
  rw [hnone] at hbest
  cases hbest

theorem valid_of_neg (h : m.relations = []) (unit : String) (hb : budget < 0) {s : Search}
    (hs : search (m.quest board start budget radius) = .ok s) :
    (MoveSet.ofSearch unit start s).valid = [] := by
  rw [List.eq_nil_iff_forall_not_mem]
  intro p hp
  rw [mem_valid_iff_of_search unit hs,
    (Mover.free_terrain h board start budget radius).arrivals_of_neg hb] at hp
  exact Set.not_nonempty_empty hp

/-- A search without relations, and with some budget, comes to the hexes of the walk over the
    map. -/
theorem perm_floodFill_of_search (h : m.relations = []) (unit : String) (hb : 0 < budget)
    {s : Search} (hs : search (m.quest board start budget radius) = .ok s) :
    (MoveSet.ofSearch unit start s).valid.Perm (Grid.floodFill start radius) :=
  (List.perm_ext_iff_of_nodup (s.best.erase start).nodup (Grid.nodup_floodFill start radius)).2
    fun _ => mem_valid_of_pos h unit hb hs

/-- Without relations, a search comes to all hexes of the walk over the map with some budget, to the
    next ones without budget, and nowhere with less. -/
theorem valid_of_relations (h : m.relations = []) (unit : String) {s : Search}
    (hs : search (m.quest board start budget radius) = .ok s) :
    (0 < budget → (MoveSet.ofSearch unit start s).valid.Perm (Grid.floodFill start radius)) ∧
    (budget = 0 → ∀ p, p ∈ (MoveSet.ofSearch unit start s).valid ↔
      p ∈ start.neighbors ∧ Grid.inBounds p radius = true) ∧
    (budget < 0 → (MoveSet.ofSearch unit start s).valid = []) := by
  refine ⟨fun hpos => perm_floodFill_of_search h unit hpos hs, fun hzero p => ?_,
    fun hneg => valid_of_neg h unit hneg hs⟩
  rw [mem_valid_iff_of_search unit hs]
  exact (Mover.free_terrain h board start budget radius).nonempty_arrivals_iff_of_zero hzero

end

/-! ## Moves with and without a budget -/

section

variable {world : World} {unit : BoardUnit} {perConcept b : ℤ} {moves : MoveSet}

theorem compute_of_isFree (perConcept : ℤ)
    (hunit : world.selected.unit? world.board = some unit) (hfree : isFree world = true) :
    compute perConcept world =
      ([.free unit.id (Grid.floodFill unit.position world.grid.radius).length],
        .ok (.free unit.id (Grid.floodFill unit.position world.grid.radius))) := by
  rw [compute, hunit]
  exact if_pos hfree

theorem compute_of_not_isFree (perConcept : ℤ)
    (hunit : world.selected.unit? world.board = some unit) (hfree : isFree world = false) :
    compute perConcept world = computeBudgeted perConcept world unit := by
  rw [compute, hunit]
  exact if_neg (Bool.eq_false_iff.1 hfree)

theorem snd_computeBudgeted (perConcept : ℤ) (world : World) (unit : BoardUnit) :
    (computeBudgeted perConcept world unit).2 =
      (mover world unit.data).budget perConcept >>= searchMoves world unit := by
  rw [computeBudgeted, Mover.budget]
  cases (mover world unit.data).ownBudget with
  | error e => rfl
  | ok own =>
    show _ = searchMoves world unit (own.getD (fallbackBudget perConcept world.concepts))
    dsimp only
    cases searchMoves world unit (own.getD (fallbackBudget perConcept world.concepts)) <;> rfl

/-- Where budgets count, moves break off because the budget is not found, or the search does. -/
theorem snd_compute_of_not_isFree (perConcept : ℤ)
    (hunit : world.selected.unit? world.board = some unit) (hfree : isFree world = false) :
    (compute perConcept world).2 =
      (mover world unit.data).budget perConcept >>= searchMoves world unit := by
  rw [compute_of_not_isFree perConcept hunit hfree, snd_computeBudgeted]

theorem searchMoves_eq_ok_iff :
    searchMoves world unit b = .ok moves ↔
      ∃ s, search (quest world unit b) = .ok s ∧ moves = .ofSearch unit.id unit.position s := by
  rw [searchMoves, Outcome.bind_eq_ok_iff]
  refine exists_congr fun s => and_congr_right fun _ => ?_
  exact (Except.ok.injEq _ _).to_iff.trans eq_comm

theorem exists_searchMoves_iff :
    (∃ moves, searchMoves world unit b = .ok moves) ↔
      ∃ s, search (quest world unit b) = .ok s := by
  constructor
  · rintro ⟨moves, hmoves⟩
    obtain ⟨s, hs, -⟩ := searchMoves_eq_ok_iff.1 hmoves
    exact ⟨s, hs⟩
  · rintro ⟨s, hs⟩
    exact ⟨_, searchMoves_eq_ok_iff.2 ⟨s, hs, rfl⟩⟩

/-- Where budgets count, moves are computed when the search succeeds, and are what it finds. -/
theorem snd_compute_eq_ok_iff (hunit : world.selected.unit? world.board = some unit)
    (hfree : isFree world = false) (hbudget : (mover world unit.data).budget perConcept = .ok b) :
    (compute perConcept world).2 = .ok moves ↔
      ∃ s, search (quest world unit b) = .ok s ∧ moves = .ofSearch unit.id unit.position s := by
  rw [snd_compute_of_not_isFree perConcept hunit hfree, hbudget]
  exact searchMoves_eq_ok_iff

/-- Where no relation takes effect on entering, a unit with some budget goes where a walk over the
    map gets, whether constraints make its budget count or not. -/
theorem perm_floodFill_of_compute (hrelations : world.relations.onEnter = [])
    (hunit : world.selected.unit? world.board = some unit)
    (hbudget : (mover world unit.data).budget perConcept = .ok b) (hb : 0 < b)
    (hmoves : (compute perConcept world).2 = .ok moves) :
    moves.valid.Perm (Grid.floodFill unit.position world.grid.radius) := by
  by_cases hfree : isFree world = true
  · rw [compute_of_isFree perConcept hunit hfree] at hmoves
    obtain rfl := Except.ok.inj hmoves
    exact List.Perm.refl _
  · obtain ⟨s, hs, rfl⟩ :=
      (snd_compute_eq_ok_iff hunit (Bool.eq_false_iff.2 hfree) hbudget).1 hmoves
    exact perm_floodFill_of_search (m := mover world unit.data) hrelations unit.id hb hs

theorem exists_compute_of_hasKey (hrelations : world.relations.onEnter = [])
    (hunit : world.selected.unit? world.board = some unit)
    (hbudget : (mover world unit.data).budget perConcept = .ok b)
    (hkeys : ∀ p ∈ tried unit.position b world.grid.radius, p.hasKey = true) :
    ∃ moves, (compute perConcept world).2 = .ok moves := by
  by_cases hfree : isFree world = true
  · exact ⟨_, by rw [compute_of_isFree perConcept hunit hfree]⟩
  · obtain ⟨s, hs⟩ := (exists_search_iff_of_relations (m := mover world unit.data) hrelations
      world.board unit.position b world.grid.radius).2 hkeys
    exact ⟨_, (snd_compute_eq_ok_iff hunit (Bool.eq_false_iff.2 hfree) hbudget).2 ⟨s, hs, rfl⟩⟩

end

/-- A river that takes no toll, and a traveller one step off the map. -/
def River.tollFree : World where
  types := .empty
  concepts := River.concepts
  relations := .empty
  constraints := .empty
  selected := ⟨some "traveller"⟩
  grid := ⟨1⟩
  board := River.board.placeUnit "traveller" ⟨2, 0⟩ (River.traveller 3)

end HexRules.Movement
