import HexRules.Proofs.Movement.Deficit

/-!
# Relations that take no part

An allowance does nothing to a step, and a relation whose subject the unit is not does not apply to
it. Neither says where the budget is. A search goes the same way with such a relation and without
it, and gives the same moves and the same findings.

That there is a relation at all makes a difference, though, where there was nothing before that
restricts movement. Then it makes the budget count. A unit with some budget gets as far as before;
one without budget takes a single step, and one with less than nothing stays where it is
(`exists_idle_restricts`).

Results:
* `evaluate_append_idle`: a step does not notice an idle relation.
* `ownBudget_append_idle`: nor does the budget.
* `compute_of_idle`: what an idle relation leaves of a unit's moves.
-/

namespace HexRules.Movement

namespace Mover

variable {m : Mover} {r : Relation}

/-- A relation has no say in the steps of a unit: it is an allowance, or the unit is not its
    subject. -/
def Idle (m : Mover) (r : Relation) : Prop :=
  (∃ condition, r.effect = .allow condition) ∨ subjectBound m.bindings r = false

/-- The unit under one more relation, which comes last. -/
def withRelation (m : Mover) (r : Relation) : Mover := { m with relations := m.relations ++ [r] }

/-! ## Steps -/

/-- An idle relation, where it applies, leaves everything as it has come to. -/
theorem Idle.add (h : m.Idle r) {tile : EntityData} (happlies : m.applies tile r = true)
    (remaining : ℤ) (p : Hex) (t : Tally) : t.add m tile remaining p r = .ok t := by
  rcases h with ⟨condition, he⟩ | hbound
  · rw [Tally.add, he]
  · rw [applies, hbound] at happlies
    cases happlies

theorem Idle.foldlM_add (h : m.Idle r) (tile : EntityData) (remaining : ℤ) (p : Hex) (t : Tally) :
    ([r].filter (m.applies tile)).foldlM (Tally.add m tile remaining p) t = .ok t := by
  by_cases happlies : m.applies tile r = true
  · have hlast : [r].filter (m.applies tile) = [r] := by simp [happlies]
    rw [hlast, List.foldlM_cons, h.add happlies]
    rfl
  · have hlast : [r].filter (m.applies tile) = [] := by simp [happlies]
    rw [hlast]
    rfl

end Mover

section

variable {m : Mover} {r : Relation}

theorem evaluate_append_idle (h : m.Idle r) (tile : Option EntityData) (remaining : ℤ) (p : Hex) :
    evaluate (m.withRelation r) tile remaining p = evaluate m tile remaining p := by
  cases tile with
  | none => rfl
  | some tile =>
    have hloop : ((m.relations ++ [r]).filter (m.applies tile)).foldlM
        (Tally.add m tile remaining p) .start =
        (m.relations.filter (m.applies tile)).foldlM (Tally.add m tile remaining p) .start := by
      rw [List.filter_append, List.foldlM_append]
      cases (m.relations.filter (m.applies tile)).foldlM
        (Tally.add m tile remaining p) .start with
      | error e => rfl
      | ok t => exact h.foldlM_add tile remaining p t
    show ((m.relations ++ [r]).filter (m.applies tile)).foldlM
      (Tally.add m tile remaining p) .start >>= _ = _
    rw [hloop]
    rfl

theorem quest_append_idle (h : m.Idle r) (board : Board) (start : Hex) (budget radius : ℤ) :
    (m.withRelation r).quest board start budget radius = m.quest board start budget radius := by
  unfold Mover.quest
  simp only [evaluate_append_idle h]

/-! ## The budget -/

/-- The bindings and names under which a relation says that the budget is. -/
def Mover.namesOf (m : Mover) (r : Relation) : List (Binding × String) :=
  match r.effect.subtracts? with
  | some target => (m.bindings.filter (·.binds r.conceptId r.subjectRole)).map fun b => (b, target)
  | none => []

theorem Mover.budgetNames_eq (m : Mover) :
    m.budgetNames = m.relations.flatMap m.namesOf ++ m.bindings.map fun b => (b, budgetName) := rfl

theorem Mover.Idle.namesOf (h : m.Idle r) : m.namesOf r = [] := by
  unfold Mover.namesOf
  rcases h with ⟨condition, he⟩ | hbound
  · rw [he]
    rfl
  · rw [subjectBound, List.any_eq_false] at hbound
    have hnone : m.bindings.filter (·.binds r.conceptId r.subjectRole) = [] :=
      List.filter_eq_nil_iff.2 hbound
    split
    · rw [hnone]
      rfl
    · rfl

theorem budgetNames_append_idle (h : m.Idle r) :
    (m.withRelation r).budgetNames = m.budgetNames := by
  have hlast : (m.relations ++ [r]).flatMap m.namesOf = m.relations.flatMap m.namesOf := by
    rw [List.flatMap_append, List.flatMap_singleton, h.namesOf, List.append_nil]
  rw [Mover.budgetNames_eq, Mover.budgetNames_eq]
  show (m.relations ++ [r]).flatMap m.namesOf ++ _ = _
  rw [hlast]
  rfl

theorem ownBudget_append_idle (h : m.Idle r) : (m.withRelation r).ownBudget = m.ownBudget := by
  unfold Mover.ownBudget
  rw [budgetNames_append_idle h]
  rfl

end

/-! ## Moves -/

section

variable {world : World} {r : Relation} {relations' : Relations} {unit : BoardUnit}
  {perConcept b : ℤ}

/-- A relation that is added comes last. -/
theorem onEnter_of_add (hadd : world.relations.add r = .ok relations')
    (henter : r.trigger = .onEnter) : relations'.onEnter = world.relations.onEnter ++ [r] := by
  obtain ⟨items, hitems, hdone⟩ := Outcome.bind_eq_ok_iff.1 hadd
  cases hdone
  unfold Registry.add at hitems
  split at hitems
  · cases hitems
    have hlast : [r].filter (fun r => decide (r.trigger = .onEnter)) = [r] := by simp [henter]
    rw [Relations.onEnter, List.filter_append, hlast]
    rfl
  · cases hitems

/-- With an idle relation more, the budgeted computation is the same. -/
theorem computeBudgeted_of_idle (hadd : world.relations.add r = .ok relations')
    (henter : r.trigger = .onEnter) (hidle : (mover world unit.data).Idle r) :
    computeBudgeted perConcept { world with relations := relations' } unit =
      computeBudgeted perConcept world unit := by
  have hmover : mover { world with relations := relations' } unit.data =
      (mover world unit.data).withRelation r := by
    unfold mover moverAs Mover.withRelation
    dsimp only
    rw [onEnter_of_add hadd henter]
  have hsearch : searchMoves { world with relations := relations' } unit =
      searchMoves world unit := by
    funext budget
    unfold searchMoves quest
    rw [hmover]
    dsimp only
    rw [quest_append_idle hidle]
  unfold computeBudgeted
  rw [hmover, ownBudget_append_idle hidle, hsearch]

/-- With an idle relation more, the budget counts, if it did not before. -/
theorem compute_of_add_idle (hadd : world.relations.add r = .ok relations')
    (henter : r.trigger = .onEnter) (hunit : world.selected.unit? world.board = some unit)
    (hidle : (mover world unit.data).Idle r) :
    compute perConcept { world with relations := relations' } =
      computeBudgeted perConcept world unit := by
  have hfree : isFree { world with relations := relations' } = false := by
    rw [isFree, onEnter_of_add hadd henter]
    simp
  calc compute perConcept { world with relations := relations' }
      = computeBudgeted perConcept { world with relations := relations' } unit :=
        compute_of_not_isFree perConcept hunit hfree
    _ = computeBudgeted perConcept world unit := computeBudgeted_of_idle hadd henter hidle

theorem onEnter_of_isFree (hfree : isFree world = true) : world.relations.onEnter = [] := by
  rw [isFree, Bool.and_eq_true, List.isEmpty_iff] at hfree
  exact hfree.1

/-- Where nothing restricted movement, moves are computed with an idle relation as well if the hexes
    that are tried then have keys. -/
theorem exists_compute_iff_of_isFree (hadd : world.relations.add r = .ok relations')
    (henter : r.trigger = .onEnter) (hunit : world.selected.unit? world.board = some unit)
    (hidle : (mover world unit.data).Idle r) (hfree : isFree world = true)
    (hbudget : (mover world unit.data).budget perConcept = .ok b) :
    (∃ moves', (compute perConcept { world with relations := relations' }).2 = .ok moves') ↔
      ∀ p ∈ tried unit.position b world.grid.radius, p.hasKey = true := by
  rw [compute_of_add_idle hadd henter hunit hidle, snd_computeBudgeted, hbudget]
  calc (∃ moves', searchMoves world unit b = .ok moves')
      ↔ ∃ s, search (quest world unit b) = .ok s := exists_searchMoves_iff
    _ ↔ _ := exists_search_iff_of_relations (onEnter_of_isFree hfree) world.board unit.position b
        world.grid.radius

/-- Where nothing restricted movement, an idle relation leaves a unit all of its moves if it has
    some budget, those next to it if it has none, and no move if it has less. -/
theorem moves_of_isFree (hadd : world.relations.add r = .ok relations')
    (henter : r.trigger = .onEnter) (hunit : world.selected.unit? world.board = some unit)
    (hidle : (mover world unit.data).Idle r) (hfree : isFree world = true)
    (hbudget : (mover world unit.data).budget perConcept = .ok b) {moves' : MoveSet}
    (hmoves' : (compute perConcept { world with relations := relations' }).2 = .ok moves') :
    (0 < b → moves'.valid.Perm (Grid.floodFill unit.position world.grid.radius)) ∧
      (b = 0 → ∀ p, p ∈ moves'.valid ↔
        p ∈ unit.position.neighbors ∧ Grid.inBounds p world.grid.radius = true) ∧
      (b < 0 → moves'.valid = []) := by
  rw [compute_of_add_idle hadd henter hunit hidle, snd_computeBudgeted, hbudget] at hmoves'
  obtain ⟨s, hs, rfl⟩ := searchMoves_eq_ok_iff.1 hmoves'
  exact valid_of_relations (m := mover world unit.data) (onEnter_of_isFree hfree) unit.id hs

end

/-- To add a relation that is idle for the selected unit leaves the computation of the moves as it
    is, failures included, if there was a relation or a constraint before, or if no unit is
    selected. If nothing restricted movement before, the budget counts from now on: a unit with some
    budget keeps all its moves, one without keeps those next to it, and one with less than nothing
    keeps none. -/
theorem compute_of_idle (perConcept : ℤ) (world : World) (r : Relation) (relations' : Relations)
    (hadd : world.relations.add r = .ok relations') (henter : r.trigger = .onEnter)
    (hidle : ∀ unit, world.selected.unit? world.board = some unit →
      (mover world unit.data).Idle r) :
    (world.selected.unit? world.board = none ∨ isFree world = false →
      compute perConcept { world with relations := relations' } = compute perConcept world) ∧
    ∀ unit b, world.selected.unit? world.board = some unit → isFree world = true →
      (mover world unit.data).budget perConcept = .ok b →
      ((∃ moves', (compute perConcept { world with relations := relations' }).2 = .ok moves') ↔
        ∀ p ∈ tried unit.position b world.grid.radius, p.hasKey = true) ∧
      (Text.Numeral.isShort world.grid.radius = true →
        ∀ p ∈ tried unit.position b world.grid.radius, p.hasKey = true) ∧
      ∃ moves, (compute perConcept world).2 = .ok moves ∧
        ∀ moves', (compute perConcept { world with relations := relations' }).2 = .ok moves' →
          (0 < b → moves'.valid.Perm moves.valid) ∧
          (b = 0 → ∀ p, p ∈ moves'.valid ↔
            p ∈ unit.position.neighbors ∧ Grid.inBounds p world.grid.radius = true) ∧
          (b < 0 → moves'.valid = []) := by
  constructor
  · intro hbefore
    cases hunit : world.selected.unit? world.board with
    | none =>
      have hnone : compute perConcept world = ([.cleared], .ok .none) := by rw [compute, hunit]
      rw [hnone]
      show compute perConcept { world with relations := relations' } = _
      rw [compute]
      dsimp only
      rw [hunit]
    | some unit =>
      have hfree : isFree world = false := by
        rcases hbefore with hnone | hfree
        · rw [hunit] at hnone
          cases hnone
        · exact hfree
      rw [compute_of_add_idle hadd henter hunit (hidle unit hunit),
        compute_of_not_isFree perConcept hunit hfree]
  · intro unit b hunit hfree hbudget
    exact ⟨exists_compute_iff_of_isFree hadd henter hunit (hidle unit hunit) hfree hbudget,
      fun hr _ => hasKey_of_mem_tried hr, _, by rw [compute_of_isFree perConcept hunit hfree],
      fun _ => moves_of_isFree hadd henter hunit (hidle unit hunit) hfree hbudget⟩

namespace River

/-- An allowance. -/
def permit : Relation := ⟨ident 15, "Permit", ident 3, ident 4, ident 5, .onEnter, .allow none⟩

/-- A toll that hexes pay to travellers. -/
def tribute : Relation :=
  ⟨ident 16, "Tribute", ident 3, ident 5, ident 4, .onEnter, .modify "budget" "toll" .subtract⟩

end River

/-- A traveller of three between the ford and the inn does not notice an allowance; one who moves
    freely, and has three to spend, gets as far as before when hexes have to pay. -/
theorem compute_of_idle_river :
    compute 10 { River.valley 3 with relations := ⟨River.relations ++ [River.permit]⟩ } =
      compute 10 (River.valley 3) ∧
    ∃ moves moves', (compute 10 River.tollFree).2 = .ok moves ∧
      (compute 10 { River.tollFree with relations := ⟨[River.tribute]⟩ }).2 = .ok moves' ∧
      moves'.valid.Perm moves.valid := by
  obtain ⟨hsame, -⟩ := compute_of_idle 10 (River.valley 3) River.permit
    ⟨River.relations ++ [River.permit]⟩ (by rfl) rfl (fun _ _ => .inl ⟨none, rfl⟩)
  have htribute : ∀ unit, River.tollFree.selected.unit? River.tollFree.board = some unit →
      (mover River.tollFree unit.data).Idle River.tribute := by
    intro unit hunit
    cases hunit
    exact .inr (by decide)
  obtain ⟨-, hfirst⟩ := compute_of_idle 10 River.tollFree River.tribute ⟨[River.tribute]⟩ (by rfl)
    rfl htribute
  obtain ⟨hreturns, hkeys, moves, hmoves, hleaves⟩ :=
    hfirst ⟨"traveller", ⟨2, 0⟩, River.traveller 3⟩ 3 (by rfl) (by decide) (by decide)
  obtain ⟨moves', hmoves'⟩ := hreturns.2 (hkeys (by decide))
  exact ⟨hsame (.inr (by decide)), moves, moves', hmoves, hmoves',
    (hleaves moves' hmoves').1 (by decide)⟩

/-- A traveller who owes one goes anywhere as long as there is no relation, and nowhere once there
    is an allowance. -/
theorem exists_idle_restricts :
    ¬∀ (perConcept : ℤ) (world : World) (r : Relation) (relations' : Relations),
      world.relations.add r = .ok relations' → r.trigger = .onEnter →
      (∀ unit, world.selected.unit? world.board = some unit → (mover world unit.data).Idle r) →
      ∀ moves, (compute perConcept world).2 = .ok moves →
        ∃ moves', (compute perConcept { world with relations := relations' }).2 = .ok moves' ∧
          ∀ p, p ∈ moves'.valid ↔ p ∈ moves.valid := by
  intro h
  obtain ⟨moves, hmoves, hford⟩ : ∃ moves,
      (compute 10 { River.valley (-1) with relations := .empty }).2 = .ok moves ∧
        ⟨1, 0⟩ ∈ moves.valid := by
    refine ⟨.free "traveller" (Grid.floodFill ⟨0, 0⟩ 1), ?_, by decide⟩
    have hunit : (⟨some "traveller"⟩ : Selection).unit? (River.valley (-1)).board =
        some ⟨"traveller", ⟨0, 0⟩, River.traveller (-1)⟩ := rfl
    rw [compute_of_isFree 10 hunit (by decide)]
    rfl
  obtain ⟨moves', hmoves', hsame⟩ := h 10 { River.valley (-1) with relations := .empty }
    River.permit ⟨[River.permit]⟩ (by rfl) rfl (fun _ _ => .inl ⟨none, rfl⟩) moves hmoves
  have hafter : ∀ moves, (compute 10 { River.valley (-1) with
      relations := ⟨[River.permit]⟩ }).2.toOption = some moves → moves.valid = [] := by
    intro moves hmoves
    cases hmoves
    decide
  have hvalid : moves'.valid = [] := hafter moves' (by
    rw [show (compute 10 { River.valley (-1) with relations := ⟨[River.permit]⟩ }).2 = _ from
      hmoves']
    rfl)
  have hmem := (hsame ⟨1, 0⟩).2 hford
  rw [hvalid] at hmem
  cases hmem

end HexRules.Movement
