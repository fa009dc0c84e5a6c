import HexRules.Proofs.Movement.Alike
import HexRules.Proofs.Movement.BreakOff
import HexRules.Proofs.Movement.Explained

/-!
# What moves depend on

Of all tiles, moves depend only on those that they tell of: the tiles of hexes that the unit
reaches, and of hexes that there are findings against. If the others are replaced, or taken away, or
the board is extended beyond the map, the moves stay as they are, down to the order in which hexes
and findings are told. So does the tile under the unit, which is never looked at.

A hex is settled as soon as it is tried and stays so (`Search.Next.settled`): so every tile that a
search has looked at is that of a hex settled at the end. Where the tiles of these are alike, the
search goes the same way move by move.

This rests on a budget that is not negative. With a negative one a refusal may leave no
findings, and then the tile that is to blame is not told of.

Results:
* `Search.Leads.congr`: a search does not depend on hexes that it leaves unsettled.
* `compute_local`: moves do not depend on tiles that they do not tell of.
-/

namespace HexRules.Movement

namespace Search

variable {quest : Quest} {c c' : Stage} {log : List (Hex × ℤ)} {s s' : Search} {p q : Hex}
  {remaining : ℤ} {enter : Hex → ℤ → Except Failure Verdict}

/-! ## Settled hexes -/

/-- A hex that is settled stays so. -/
theorem Next.settled (next : Next quest c c') (h : c.search.Settled p) : c'.search.Settled p := by
  cases next with
  | take first current => exact h
  | skip first known outdated => exact h
  | finish => exact h
  | attempt tried =>
    rcases attempt_cases tried with ⟨n, -, ⟨-, rfl⟩ | ⟨hnew, rfl⟩⟩ |
      ⟨findings, -, ⟨-, rfl⟩ | ⟨hb, hf, rfl⟩⟩
    · exact h
    · exact settled_reach hnew h
    · exact h
    · exact settled_refuse hb hf (.inl h)

theorem Leads.settled (h : Leads quest c log c') (hp : c.search.Settled p) :
    c'.search.Settled p :=
  @Leads.keeps quest c c' log (fun _ c => c.search.Settled p) (fun h next => next.settled h) h [] hp

/-- A hex that is tried is settled, if there are findings where it is refused. -/
theorem settled_of_attempt (tried : attempt quest remaining s q = .ok s')
    (hreasons : ∀ {findings : List Finding},
      quest.enter q remaining = .ok (.blocked findings) → findings ≠ []) : s'.Settled q := by
  rcases attempt_cases tried with ⟨n, -, ⟨hknown, rfl⟩ | ⟨hnew, rfl⟩⟩ |
    ⟨findings, henter, ⟨hno, rfl⟩ | ⟨hb, hf, rfl⟩⟩
  · obtain ⟨best, hbest, -⟩ := knows_iff.1 hknown
    exact .inl ⟨best, hbest⟩
  · exact .inl ⟨_, by rw [get?_reach, if_pos ⟨rfl, hnew⟩]⟩
  · exact .inl (Option.isSome_iff_exists.1 (hno.resolve_right (hreasons henter)))
  · exact settled_refuse hb hf (.inr rfl)

/-! ## Hexes that are not settled do not matter -/

theorem attempt_congr (h : enter q remaining = quest.enter q remaining) (s : Search) :
    attempt { quest with enter := enter } remaining s q = attempt quest remaining s q := by
  rw [attempt, attempt, ← h]
  rfl

section

variable (hreasons : ∀ {q : Hex} {b : ℤ} {findings : List Finding}, 0 ≤ b →
  quest.enter q b = .ok (.blocked findings) → findings ≠ [])

include hreasons

/-- A move does not depend on hexes that it leaves unsettled. -/
theorem Next.congr (haccounts : Accounts quest c) (next : Next quest c c')
    (henter : ∀ q, q ≠ quest.start → c'.search.Settled q → ∀ b, enter q b = quest.enter q b) :
    Next { quest with enter := enter } c c' := by
  cases next with
  | take first current => exact .take first current
  | skip first known outdated => exact .skip first known outdated
  | finish => exact .finish
  | @attempt s s' p q remaining toTry tried =>
    obtain ⟨hremaining, -, htargets⟩ := haccounts.leaving rfl
    have haway : q ≠ quest.start := (mem_targets.1 (htargets q List.mem_cons_self)).2.2
    have hsettled : s'.Settled q := settled_of_attempt tried (hreasons hremaining)
    exact .attempt ((attempt_congr (henter q haway hsettled remaining) s).trans tried)

/-- Nor does a search depend on hexes that it leaves unsettled. -/
theorem Leads.congr (haccounts : Accounts quest c) (h : Leads quest c log c')
    (henter : ∀ q, q ≠ quest.start → c'.search.Settled q → ∀ b, enter q b = quest.enter q b) :
    Leads { quest with enter := enter } c log c' := by
  induction h with
  | refl c => exact .refl c
  | step next leads ih =>
    -- what a move settles is settled at the end, where it is known to be entered as before
    have hnext := next.congr hreasons haccounts fun q haway hsettled =>
      henter q haway (leads.settled hsettled)
    exact .step hnext (ih (next.accounts hreasons haccounts) henter)

end

/-- Where the loop comes to an empty frontier, there the search ends. -/
theorem search_eq_ok_of_leads (h : Leads quest (opening quest) log ⟨.looking, s⟩)
    (hempty : s.frontier = []) : search quest = .ok s := by
  obtain ⟨log', last, hend, ends⟩ := exists_leads_search quest
  obtain ⟨rest, hrest, -⟩ := hend.ended ends h
  cases hrest with
  | refl =>
    generalize search quest = outcome at ends ⊢
    cases ends with
    | done empty => rfl
  | step next leads => exact absurd next (Ends.done hempty).not_next

theorem search_congr (hb : 0 ≤ quest.budget)
    (hreasons : ∀ {q : Hex} {b : ℤ} {findings : List Finding}, 0 ≤ b →
      quest.enter q b = .ok (.blocked findings) → findings ≠ [])
    (h : search quest = .ok s)
    (henter : ∀ q, q ≠ quest.start → s.Settled q → ∀ b, enter q b = quest.enter q b) :
    search { quest with enter := enter } = .ok s := by
  obtain ⟨log, hleads, hempty⟩ := leads_of_search h
  exact search_eq_ok_of_leads (hleads.congr hreasons (accounts_opening hb) henter) hempty

end Search

/-! ## Moves and the tiles that they tell of -/

/-- Moves tell of a hex: the unit reaches it, or there are findings against it. -/
def MoveSet.Tells (moves : MoveSet) (p : Hex) : Prop := p ∈ moves.valid ∨ p ∈ moves.blocked.keys

theorem MoveSet.tells_ofSearch {unit : String} {start p : Hex} {s : Search} (haway : p ≠ start) :
    (ofSearch unit start s).Tells p ↔ s.Settled p :=
  or_congr (mem_valid_ofSearch.trans (and_iff_right haway)) (Table.mem_keys _ _)

section

variable {perConcept budget : ℤ} {world : World} {board' : Board} {unit unit' : BoardUnit}
  {moves : MoveSet} {p : Hex}

/-- The hexes that moves tell of are on the map, and the unit does not stand on one of them. -/
theorem onMap_of_tells (hb : 0 ≤ budget) (h : searchMoves world unit budget = .ok moves)
    (hp : moves.Tells p) : Grid.inBounds p world.grid.radius = true ∧ p ≠ unit.position := by
  obtain ⟨s, hs, hm⟩ := Outcome.bind_eq_ok_iff.1 h
  cases hm
  rcases hp with hvalid | hblocked
  · obtain ⟨b, hb⟩ := (mem_valid_iff_of_search unit.id hs).1 hvalid
    exact ⟨Terrain.onMap_of_mem_arrivals hb, Terrain.ne_start_of_mem_arrivals hb⟩
  · obtain ⟨findings, hfindings⟩ := (Table.mem_keys _ _).1 hblocked
    obtain ⟨haccounts, -⟩ := Search.accounts_search hb ne_nil_of_enter hs
    obtain ⟨-, -, -, q, b, -, htarget⟩ := haccounts.refused hfindings
    exact (Search.mem_targets.1 htarget).2

theorem mover_board (h : unit.Alike unit') :
    mover { world with board := board' } unit'.data =
      { mover world unit.data with data := unit'.data } := by
  rw [mover, mover, ← h.data.typeId]
  rfl

/-- A search for moves does not depend on tiles that they do not tell of. -/
theorem searchMoves_congr (hsame : unit.Alike unit') (hb : 0 ≤ budget)
    (h : searchMoves world unit budget = .ok moves)
    (htiles : ∀ p, moves.Tells p →
      Option.Rel EntityData.Alike (world.board.dataOn p) (board'.dataOn p)) :
    searchMoves { world with board := board' } unit' budget = .ok moves := by
  obtain ⟨s, hs, hm⟩ := Outcome.bind_eq_ok_iff.1 h
  cases hm
  have hquest : quest { world with board := board' } unit' budget =
      { quest world unit budget with
        enter := (quest { world with board := board' } unit' budget).enter } := by
    rw [quest, quest, Mover.quest, mover_board hsame, ← hsame.position]
    rfl
  have hsearch : search (quest { world with board := board' } unit' budget) = .ok s := by
    rw [hquest]
    refine Search.search_congr hb ne_nil_of_enter hs fun q haway hsettled b => ?_
    have htile := htiles q ((MoveSet.tells_ofSearch haway).2 hsettled)
    rw [quest, quest, mover_board hsame]
    by_cases hkey : q.hasKey = true
    · rw [Mover.enter_of_hasKey hkey, Mover.enter_of_hasKey hkey]
      exact evaluate_congr hsame.data.typeId htile b q
    · rw [Mover.enter_of_not_hasKey hkey, Mover.enter_of_not_hasKey hkey]
  rw [searchMoves, hsearch, ← hsame.id, ← hsame.position]
  rfl

/-- All that is told of a computation with a budget rests on the moves and on where the budget comes
    from. -/
theorem computeBudgeted_congr (hsame : unit.Alike unit') (hb : 0 ≤ budget)
    (hbudget : (mover world unit.data).budget perConcept = .ok budget)
    (h : searchMoves world unit budget = .ok moves)
    (htiles : ∀ p, moves.Tells p →
      Option.Rel EntityData.Alike (world.board.dataOn p) (board'.dataOn p)) :
    computeBudgeted perConcept { world with board := board' } unit' =
      computeBudgeted perConcept world unit := by
  obtain ⟨own, hown, hget⟩ := Outcome.bind_eq_ok_iff.1 hbudget
  have hget : own.getD (fallbackBudget perConcept world.concepts) = budget := Except.ok.inj hget
  have hown' : (mover { world with board := board' } unit'.data).ownBudget = .ok own := by
    rw [mover_board hsame, ownBudget_congr hsame.data, hown]
  rw [computeBudgeted, computeBudgeted, hown, hown', ← hsame.id]
  dsimp only
  rw [hget, h, searchMoves_congr hsame hb h htiles]

end

/-- Where a search with a budget that is not negative gives moves, these and all that the
    computation tells are the same on every board with an alike unit and with alike tiles on the
    hexes that the moves tell of. These are on the map, and the unit does not stand on any. -/
theorem compute_local (perConcept : ℤ) {world : World} {board' : Board} {unit unit' : BoardUnit}
    {budget : ℤ} {moves : MoveSet} (hunit : world.selected.unit? world.board = some unit)
    (hunit' : world.selected.unit? board' = some unit') (hsame : unit.Alike unit')
    (hfree : isFree world = false)
    (hbudget : (mover world unit.data).budget perConcept = .ok budget) (hb : 0 ≤ budget)
    (hmoves : (compute perConcept world).2 = .ok moves)
    (htiles : ∀ p, moves.Tells p →
      Option.Rel EntityData.Alike (world.board.dataOn p) (board'.dataOn p)) :
    compute perConcept { world with board := board' } = compute perConcept world ∧
      ∀ p, moves.Tells p → Grid.inBounds p world.grid.radius = true ∧ p ≠ unit.position := by
  have hsearch : searchMoves world unit budget = .ok moves := by
    rw [snd_compute_of_not_isFree perConcept hunit hfree, hbudget] at hmoves
    exact hmoves
  have hcompute' : compute perConcept { world with board := board' } =
      computeBudgeted perConcept { world with board := board' } unit' :=
    compute_of_not_isFree perConcept hunit' hfree
  refine ⟨?_, fun p hp => onMap_of_tells hb hsearch hp⟩
  rw [hcompute', computeBudgeted_congr hsame hb hbudget hsearch htiles,
    compute_of_not_isFree perConcept hunit hfree]

namespace River

/-- A traveller off the map, beside a ford and a ferry that is too dear, on a board with whatever
    else. -/
def landing (board : Board) (ford : EntityData) : World :=
  { crossing (.int 3) (.int 3) with
    board := ((board.put ⟨1, 0⟩ ford).put ⟨0, 1⟩ (tile 4 0)).placeUnit
      "traveller" ⟨1, 1⟩ (traveller 3) }

/-- A tile of a toll and a rest, with the rest set first. -/
def restFirst (toll rest : ℤ) : EntityData :=
  ⟨ident 2, .ofList [(ident 10, .int rest), (ident 9, .int toll)]⟩

/-- The river, with a toll where the traveller stands and an inn far off the map. -/
def upstream : Board := (board.put ⟨1, 1⟩ (tile 9 0)).put ⟨4, 0⟩ (tile 0 9)

end River

/-- The traveller reaches the ford, which takes all of its budget, and not the ferry. What lies
    beyond them, under it and off the map makes no difference, nor in what order the ford's
    properties are set. -/
theorem compute_local_landing :
    ∃ moves, moves.valid = [⟨1, 0⟩] ∧ moves.blocked.keys = [⟨0, 1⟩] ∧
      (compute 10 (River.landing .empty (River.tile 3 0))).2 = .ok moves ∧
      (compute 10 (River.landing River.upstream (River.restFirst 3 0))).2 = .ok moves := by
  obtain ⟨moves, hmoves⟩ := Outcome.exists_eq_ok_of_isOk
    (x := (compute 10 (River.landing .empty (River.tile 3 0))).2) (by decide)
  have htold : ∀ moves',
      (compute 10 (River.landing .empty (River.tile 3 0))).2.toOption = some moves' →
      moves'.valid = [⟨1, 0⟩] ∧ moves'.blocked.keys = [⟨0, 1⟩] := by
    intro moves' h
    cases h
    decide
  obtain ⟨hvalid, hblocked⟩ := htold moves (by rw [hmoves]; rfl)
  have htiles : ∀ p, moves.Tells p → Option.Rel EntityData.Alike
      ((River.landing .empty (River.tile 3 0)).board.dataOn p)
      ((River.landing River.upstream (River.restFirst 3 0)).board.dataOn p) := by
    intro p hp
    rw [MoveSet.Tells, hvalid, hblocked, List.mem_singleton, List.mem_singleton] at hp
    rcases hp with rfl | rfl
    · exact .some (EntityData.alike_of_beq (by decide))
    · exact .some (EntityData.alike_refl _)
  have hunit : (River.landing .empty (River.tile 3 0)).selected.unit?
      (River.landing .empty (River.tile 3 0)).board =
        some ⟨"traveller", ⟨1, 1⟩, River.traveller 3⟩ := rfl
  have hbudget : (mover (River.landing .empty (River.tile 3 0)) (River.traveller 3)).budget 10 =
      .ok 3 := by decide
  obtain ⟨hsame, -⟩ := compute_local 10 hunit rfl (BoardUnit.alike_refl _) (by decide) hbudget
    (by decide) hmoves htiles
  exact ⟨moves, hvalid, hblocked, hmoves, (congrArg Prod.snd hsame).trans hmoves⟩

end HexRules.Movement
