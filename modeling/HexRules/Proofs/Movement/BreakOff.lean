import HexRules.Proofs.Movement.Unreadable

/-!
# Moves that break off

If a number that is not finite stands where the budget is looked for, or is the toll of a hex that
the unit tries to enter, there are no moves at all, though all other tolls can be read. Nor are
there any if a hex that the unit tries has no key, or if a finding would have to show a number of
too many digits.

Results:
* `reason_of_compute`: a failure has the reason that it gives.
* `compute_returns_unless`: moves are computed, as they should be, unless a number is not finite or
  too long; and a number that is not finite, or a hex without key, always prevents them.
-/

namespace HexRules.Movement

section

variable {world : World} {unit : BoardUnit} {perConcept : ℤ}

/-- The terrain that the selected unit should move over: what cannot be read costs nothing there,
    and the allotment stands in for a budget that cannot be read. -/
def promisedTerrain (perConcept : ℤ) (world : World) (unit : BoardUnit) : Terrain :=
  (mover world unit.data).terrain world.board unit.position
    ((mover world unit.data).promisedBudget perConcept) world.grid.radius

/-- The moves that there should be. -/
def Promised (perConcept : ℤ) (world : World) (moves : MoveSet) : Prop :=
  match world.selected.unit? world.board with
  | none => moves = .none
  | some unit =>
    if isFree world then
      moves = .free unit.id (Grid.floodFill unit.position world.grid.radius)
    else
      moves.unit = some unit.id ∧
        (∀ p, p ∈ moves.valid ↔ ((promisedTerrain perConcept world unit).arrivals p).Nonempty) ∧
        ∀ p b, moves.budgets.get? p = some b ↔
          IsGreatest ((promisedTerrain perConcept world unit).arrivals p) b

/-- Budgets count, and the unit's own or the toll of a hex that it tries is not finite. -/
def Misread (perConcept : ℤ) (world : World) : Prop :=
  ∃ unit, world.selected.unit? world.board = some unit ∧ isFree world = false ∧
    ((mover world unit.data).MisreadsBudget ∨
      ∃ q b tile r, (promisedTerrain perConcept world unit).Tries q b ∧
        world.board.dataOn q = some tile ∧ r ∈ world.relations.onEnter ∧
        (mover world unit.data).applies tile r = true ∧ (mover world unit.data).Misreads tile r)

/-- Budgets count, and at a hex that the unit tries there is a finding to be made with a number of
    too many digits. -/
def Overlong (perConcept : ℤ) (world : World) : Prop :=
  ∃ unit, world.selected.unit? world.board = some unit ∧ isFree world = false ∧
    ∃ q b tile before r after, (promisedTerrain perConcept world unit).Tries q b ∧
      world.board.dataOn q = some tile ∧
      world.relations.onEnter.filter ((mover world unit.data).applies tile) =
        before ++ r :: after ∧
      (mover world unit.data).Overstates tile b q before r

/-- Budgets count, and a hex that the unit tries has no key to look it up by. -/
def Keyless (perConcept : ℤ) (world : World) : Prop :=
  ∃ unit, world.selected.unit? world.board = some unit ∧ isFree world = false ∧
    ∃ q b, (promisedTerrain perConcept world unit).Tries q b ∧ q.hasKey = false

/-- The reason that a failure gives: a number that is not finite, or one of too many digits, be it
    in a finding or in the key of a hex. -/
def Failure.Reason (perConcept : ℤ) (world : World) : Failure → Prop
  | .notFinite _ => Misread perConcept world
  | .tooLong => Overlong perConcept world ∨ Keyless perConcept world

/-- Without a budget to begin with, nothing is searched. -/
theorem exists_compute_eq_error_of_misreadsBudget
    (hunit : world.selected.unit? world.board = some unit) (hfree : isFree world = false)
    (hbudget : (mover world unit.data).MisreadsBudget) :
    ∃ x, (compute perConcept world).2 = .error (.notFinite x) := by
  obtain ⟨x, hx⟩ : ∃ x, (mover world unit.data).budget perConcept = .error (.notFinite x) :=
    Mover.exists_budget_eq_error hbudget
  exact ⟨x, by rw [snd_compute_of_not_isFree perConcept hunit hfree, hx]; rfl⟩

/-- With the budget found, there are the moves that the search finds. -/
theorem snd_compute_of_not_misreadsBudget (hunit : world.selected.unit? world.board = some unit)
    (hfree : isFree world = false) (hbudget : ¬(mover world unit.data).MisreadsBudget) :
    (compute perConcept world).2 =
      (search (quest world unit ((mover world unit.data).promisedBudget perConcept))).map
        (.ofSearch unit.id unit.position) := by
  rw [snd_compute_of_not_isFree perConcept hunit hfree, Mover.budget_eq hbudget]
  rfl

theorem promised_of_search (hunit : world.selected.unit? world.board = some unit)
    (hfree : isFree world = false) {s : Search}
    (hs : search (quest world unit ((mover world unit.data).promisedBudget perConcept)) = .ok s) :
    Promised perConcept world (.ofSearch unit.id unit.position s) := by
  rw [Promised, hunit]
  dsimp only
  rw [hfree, if_neg Bool.false_ne_true]
  exact ⟨rfl, fun p => mem_valid_iff_of_search unit.id hs,
    fun p b => get?_budgets_iff_of_search unit.id hs⟩

/-- A failure has the reason that it gives. -/
theorem reason_of_compute {e : Failure} (h : (compute perConcept world).2 = .error e) :
    e.Reason perConcept world := by
  cases hunit : world.selected.unit? world.board with
  | none =>
    rw [compute, hunit] at h
    cases h
  | some unit =>
    by_cases hfree : isFree world = true
    · rw [compute_of_isFree perConcept hunit hfree] at h
      cases h
    rw [Bool.not_eq_true] at hfree
    by_cases hbudget : (mover world unit.data).MisreadsBudget
    · obtain ⟨x, hx⟩ := exists_compute_eq_error_of_misreadsBudget hunit hfree hbudget
      obtain rfl := Except.error.inj (hx.symm.trans h)
      exact ⟨unit, hunit, hfree, .inl hbudget⟩
    rw [snd_compute_of_not_misreadsBudget hunit hfree hbudget] at h
    have hsearch := Outcome.map_eq_error_iff.1 h
    obtain ⟨q, b, htries, henter⟩ :=
      Search.exists_tries_of_error (Mover.quest_on _ _ _ _ _) hsearch
    rcases Mover.enter_eq_error_iff.1 henter with ⟨hkey, rfl⟩ | ⟨-, hfails⟩
    · exact .inr ⟨unit, hunit, hfree, q, b, htries, Bool.eq_false_iff.2 hkey⟩
    obtain ⟨tile, htile, before, r, after, hsplit, hbreaks⟩ := evaluate_eq_error hfails
    cases e with
    | notFinite x =>
      have hr : r ∈ world.relations.onEnter.filter ((mover world unit.data).applies tile) := by
        rw [show world.relations.onEnter.filter _ = _ from hsplit]
        simp
      obtain ⟨hr, happlies⟩ := List.mem_filter.1 hr
      exact ⟨unit, hunit, hfree, .inr ⟨q, b, tile, r, htries, htile, hr, happlies, hbreaks⟩⟩
    | tooLong =>
      exact .inl
        ⟨unit, hunit, hfree, q, b, tile, before, r, after, htries, htile, hsplit, hbreaks⟩

/-- Where the unit tries a hex that cannot be judged, there are no moves. -/
theorem exists_compute_eq_error_of_tries (hunit : world.selected.unit? world.board = some unit)
    (hfree : isFree world = false) (hbudget : ¬(mover world unit.data).MisreadsBudget) {q : Hex}
    {b : ℤ} (htries : (promisedTerrain perConcept world unit).Tries q b)
    (hfails : ∀ c v, (quest world unit ((mover world unit.data).promisedBudget perConcept)).enter
      q c ≠ .ok v) : ∃ e, (compute perConcept world).2 = .error e := by
  rw [snd_compute_of_not_misreadsBudget hunit hfree hbudget]
  cases hs : search (quest world unit ((mover world unit.data).promisedBudget perConcept)) with
  | error e => exact ⟨e, rfl⟩
  | ok s =>
    exact absurd htries (Search.not_tries_of_ok (Mover.quest_on _ _ _ _ _) hs hfails b)

/-- A number that is not finite prevents all moves. -/
theorem exists_compute_eq_error_of_misread (h : Misread perConcept world) :
    ∃ e, (compute perConcept world).2 = .error e := by
  obtain ⟨unit, hunit, hfree, hmisread⟩ := h
  by_cases hbudget : (mover world unit.data).MisreadsBudget
  · obtain ⟨x, hx⟩ := exists_compute_eq_error_of_misreadsBudget hunit hfree hbudget
    exact ⟨.notFinite x, hx⟩
  obtain ⟨q, b, tile, r, htries, htile, hr, happlies, hmisreads⟩ := hmisread.resolve_left hbudget
  refine exists_compute_eq_error_of_tries hunit hfree hbudget htries fun c v henter => ?_
  obtain ⟨-, hjudged⟩ := Mover.enter_eq_ok_iff.1 henter
  rw [htile] at hjudged
  exact evaluate_ne_ok hr happlies hmisreads v hjudged

/-- A hex that has no key prevents all moves, too, unless they have failed over the budget. -/
theorem exists_compute_eq_error_of_keyless (h : Keyless perConcept world) :
    ∃ e, (compute perConcept world).2 = .error e := by
  obtain ⟨unit, hunit, hfree, q, b, htries, hkey⟩ := h
  by_cases hbudget : (mover world unit.data).MisreadsBudget
  · exact exists_compute_eq_error_of_misread ⟨unit, hunit, hfree, .inl hbudget⟩
  refine exists_compute_eq_error_of_tries hunit hfree hbudget htries fun c v henter => ?_
  rw [(Mover.enter_eq_ok_iff.1 henter).1] at hkey
  cases hkey

theorem isShort_of_keyless (h : Keyless perConcept world) :
    Text.Numeral.isShort world.grid.radius = false := by
  obtain ⟨unit, -, -, q, b, ⟨p, -, -, hmap, -⟩, hkey⟩ := h
  rw [Bool.eq_false_iff]
  intro hshort
  rw [Grid.hasKey_of_inBounds hshort hmap] at hkey
  cases hkey

/-- Unless a number is not finite or too long, there are moves, and they are as they should be. -/
theorem exists_promised (hmisread : ¬Misread perConcept world)
    (hoverlong : ¬Overlong perConcept world) (hkeyless : ¬Keyless perConcept world) :
    ∃ moves, (compute perConcept world).2 = .ok moves ∧ Promised perConcept world moves := by
  cases hunit : world.selected.unit? world.board with
  | none => exact ⟨.none, by rw [compute, hunit], by rw [Promised, hunit]⟩
  | some unit =>
    by_cases hfree : isFree world = true
    · refine ⟨_, by rw [compute_of_isFree perConcept hunit hfree], ?_⟩
      rw [Promised, hunit]
      exact (if_pos hfree).mpr rfl
    rw [Bool.not_eq_true] at hfree
    have hbudget : ¬(mover world unit.data).MisreadsBudget :=
      fun hbudget => hmisread ⟨unit, hunit, hfree, .inl hbudget⟩
    cases hcompute : (compute perConcept world).2 with
    | error e =>
      have hreason := reason_of_compute hcompute
      cases e with
      | notFinite x => exact absurd hreason hmisread
      | tooLong => exact absurd hreason (not_or.2 ⟨hoverlong, hkeyless⟩)
    | ok moves =>
      rw [snd_compute_of_not_misreadsBudget hunit hfree hbudget] at hcompute
      obtain ⟨s, hs, rfl⟩ := Outcome.map_eq_ok_iff.1 hcompute
      exact ⟨_, rfl, promised_of_search hunit hfree hs⟩

end

/-- Moves are computed, and are as they should be where the allotment stands in for a budget that
    cannot be read and a toll that cannot be read is nothing, unless a number is not finite or too
    long. If the unit's budget, or the toll of a hex that it tries, is not finite, or such a hex has
    no key, then there are always none. No hex of a map lacks a key unless the radius has too many
    digits. -/
theorem compute_returns_unless (perConcept : ℤ) (world : World) :
    (¬Misread perConcept world → ¬Overlong perConcept world → ¬Keyless perConcept world →
      ∃ moves, (compute perConcept world).2 = .ok moves ∧ Promised perConcept world moves) ∧
    (Misread perConcept world ∨ Keyless perConcept world →
      ∃ e, (compute perConcept world).2 = .error e) ∧
    (∀ e, (compute perConcept world).2 = .error e → e.Reason perConcept world) ∧
    (Keyless perConcept world → Text.Numeral.isShort world.grid.radius = false) :=
  ⟨exists_promised,
    fun h => h.elim exists_compute_eq_error_of_misread exists_compute_eq_error_of_keyless,
    fun _ => reason_of_compute, isShort_of_keyless⟩

/-- A river with one ford on a small map, and a traveller one step off it. -/
def River.crossing (budget toll : PropertyValue) : World where
  types := .empty
  concepts := River.concepts
  relations := ⟨River.relations⟩
  constraints := .empty
  selected := ⟨some "traveller"⟩
  grid := ⟨1⟩
  board := (Board.empty.put ⟨1, 0⟩ ⟨River.ident 2, .ofList [(River.ident 9, toll)]⟩).placeUnit
    "traveller" ⟨2, 0⟩ ⟨River.ident 1, .ofList [(River.ident 8, budget)]⟩

namespace River

/-- The unit of the crossing. -/
def crosser (budget : PropertyValue) : BoardUnit :=
  ⟨"traveller", ⟨2, 0⟩, ⟨ident 1, .ofList [(ident 8, budget)]⟩⟩

theorem unit?_crossing (budget toll : PropertyValue) :
    (crossing budget toll).selected.unit? (crossing budget toll).board = some (crosser budget) :=
  rfl

theorem dataOn_crossing {budget toll : PropertyValue} {q : Hex} {tile : EntityData}
    (h : (crossing budget toll).board.dataOn q = some tile) :
    tile = ⟨ident 2, .ofList [(ident 9, toll)]⟩ := by
  obtain ⟨t, ht, rfl⟩ := Option.map_eq_some_iff.1 h
  have ht : (Board.empty.put ⟨1, 0⟩ _).tileOn q = some t := ht
  rw [Board.tileOn_put, Board.tileOn_empty] at ht
  split_ifs at ht
  cases ht
  rfl

theorem mem_relations_crossing {budget toll : PropertyValue} {r : Relation}
    (h : r ∈ (crossing budget toll).relations.onEnter) :
    r = ⟨ident 11, "Toll", ident 3, ident 4, ident 5, .onEnter,
        .modify "budget" "toll" .subtract⟩ ∨
      r = ⟨ident 12, "Rest", ident 3, ident 4, ident 5, .onEnter,
        .modify "budget" "rest" .add⟩ := by
  have hr : r ∈ relations := (List.mem_filter.1 h).1
  simpa [relations] using hr

/-- A toll that is no number is none. -/
theorem not_misread_crossing (perConcept : ℤ) :
    ¬Misread perConcept (crossing (.string "much") (.string "little")) := by
  rintro ⟨unit, hunit, -, ⟨v, hv, -⟩ | ⟨q, b, tile, r, -, htile, hr, -, hmisreads⟩⟩
  · rw [unit?_crossing] at hunit
    cases hunit
    cases hv
  · rw [unit?_crossing] at hunit
    cases hunit
    cases dataOn_crossing htile
    obtain ⟨target, source, operation, heffect, hnumber⟩ := hmisreads
    rcases mem_relations_crossing hr with rfl | rfl
    · cases heffect
      cases hnumber
    · cases heffect
      cases hnumber

/-- Nor can it exceed any budget. -/
theorem not_overlong_crossing :
    ¬Overlong 10 (crossing (.string "much") (.string "little")) := by
  rintro ⟨unit, hunit, -, q, b, tile, before, r, after, ⟨p, hleaves, -⟩, htile, hsplit, -, hover, -⟩
  rw [unit?_crossing] at hunit
  cases hunit
  cases dataOn_crossing htile
  have hb : 0 ≤ b := hleaves.nonneg (by decide)
  rw [Mover.charges_eq_zero] at hover
  · omega
  · intro r' hr' operation
    have hmem : r' ∈ before ++ r :: after := by
      rcases List.mem_append.1 hr' with h | h
      · exact List.mem_append_left _ h
      · exact List.mem_append_right _ (List.mem_singleton.1 h ▸ List.mem_cons_self)
    rw [← hsplit] at hmem
    rcases mem_relations_crossing (List.mem_filter.1 hmem).1 with rfl | rfl
    · cases operation <;> rfl
    · cases operation <;> rfl

end River

/-- A traveller whose budget is a word, and so the allotment, gets to the ford, the toll of which is
    a word as well, with all of it. If the toll is infinite, the traveller gets nowhere. -/
theorem compute_returns_unless_crossing :
    (∃ moves, (compute 10 (River.crossing (.string "much") (.string "little"))).2 = .ok moves ∧
      Promised 10 (River.crossing (.string "much") (.string "little")) moves) ∧
    ∃ e, (compute 10 (River.crossing (.int 3) (.float (.infinity false)))).2 = .error e := by
  obtain ⟨hmoves, -, -⟩ :=
    compute_returns_unless 10 (River.crossing (.string "much") (.string "little"))
  obtain ⟨-, hbreaks, -, -⟩ :=
    compute_returns_unless 10 (River.crossing (.int 3) (.float (.infinity false)))
  have hkeyless : ¬Keyless 10 (River.crossing (.string "much") (.string "little")) := fun h =>
    absurd (isShort_of_keyless h) (by decide)
  refine ⟨hmoves (River.not_misread_crossing 10) River.not_overlong_crossing hkeyless,
    hbreaks (.inl ?_)⟩
  refine ⟨River.crosser (.int 3), rfl, by decide, .inr ⟨⟨1, 0⟩, 3, _, _, ?_, rfl,
    List.mem_cons_self, by decide, "budget", "toll", .subtract, rfl, by decide⟩⟩
  exact ⟨⟨2, 0⟩, Terrain.leaves_start _, by decide, by decide, by decide⟩

/-- An infinite toll beside the traveller leaves it without any moves, to the bare hexes as well. -/
theorem exists_compute_ne_ok :
    ¬∀ (perConcept : ℤ) (world : World), ∃ moves, (compute perConcept world).2 = .ok moves := by
  intro h
  obtain ⟨moves, hmoves⟩ := h 10 (River.crossing (.int 3) (.float (.infinity false)))
  have hbreaks :
      (compute 10 (River.crossing (.int 3) (.float (.infinity false)))).2.isOk = false := by decide
  rw [hmoves] at hbreaks
  cases hbreaks

end HexRules.Movement
